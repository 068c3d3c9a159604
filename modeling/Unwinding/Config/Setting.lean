import Unwinding.Decimal.Layout
import Unwinding.Decimal.Read
import Unwinding.Text.Escaped

/-!
# Setting trees

Configuration sources are read into one tree of settings: tables of named settings,
arrays, and scalars, each marked with the source it came from (a file name, the
environment, or nothing for built-in defaults). Sources are laid over each other key by key.

Scalars convert on demand. An unsigned number can be read from an integer that is not
negative, a float (rounded half away from zero, clamped to the unsigned range, NaN to
zero), a boolean (one or zero), or a text that is a number or one of the words
`true`/`on`/`yes` and `false`/`off`/`no`. A text can be read from any scalar.
-/

namespace Unwinding

mutual

/-- A setting and the source it came from. -/
inductive Setting where
  | mk (origin : Option String) (kind : SettingKind)

/-- What a setting holds. -/
inductive SettingKind where
  | nil
  | bool (b : Bool)
  | int (n : Int)
  | uint (n : Nat)
  | float (x : Float)
  | text (s : String)
  | table (entries : List (String × Setting))
  | array (items : List Setting)

end

/-- What a conversion found instead of what it wanted. -/
inductive Found where
  | bool (b : Bool)
  | int (n : Int)
  | uint (n : Nat)
  | float (x : Float)
  | text (s : String)
  | unit
  | seq
  | map

namespace Found

/-- The description of what was found, as type mismatch messages give it. -/
def describe : Found → String
  | bool b => "boolean `" ++ toString b ++ "`"
  | int n => "64-bit integer `" ++ toString n ++ "`"
  | uint n => "64-bit unsigned integer `" ++ toString n ++ "`"
  | float x => "floating point `" ++ Decimal.render .plain x ++ "`"
  | text s => "string " ++ Text.quoted s
  | unit => "unit value"
  | seq => "sequence"
  | map => "map"

end Found

/-- Why loading a configuration failed. -/
inductive LoadError where
  /-- A setting of the wrong type, with the key path to it and its source. -/
  | mismatch (found : Found) (expected : String) (key : Option String) (origin : Option String)
  /-- A message about the shape of a section. -/
  | message (text : String)
  /-- A configuration file that was asked for is not there. -/
  | missingFile (name : String)
  /-- A file that could not be read as its format, with the reader's message. -/
  | unreadable (cause : String) (uri : Option String)

namespace LoadError

/-- The text of a load error. -/
def text : LoadError → String
  | mismatch found expected key origin =>
    let keyPart := match key with
      | some k => " for key `" ++ k ++ "`"
      | none => ""
    let originPart := match origin with
      | some o => " in " ++ o
      | none => ""
    "invalid type: " ++ found.describe ++ ", expected " ++ expected ++ keyPart ++ originPart
  | message t => t
  | missingFile name => "configuration file \"" ++ name ++ "\" not found"
  | unreadable cause uri =>
    match uri with
    | some u => cause ++ " in " ++ u
    | none => cause

/-- Puts a segment in front of the key path of a mismatch; `dot` joins it to a key that
follows with a dot. Other errors carry no key path. -/
def prepend (segment : String) (dot : Bool) : LoadError → LoadError
  | mismatch found expected key origin =>
    let rest := key.getD ""
    let join := if dot && !rest.isEmpty && !rest.startsWith "[" then "." else ""
    mismatch found expected (some (segment ++ join ++ rest)) origin
  | other => other

/-- The error seen from the table holding the setting under `name`. -/
def underKey (name : String) (e : LoadError) : LoadError := e.prepend name true

/-- The error seen from the array holding the setting at `index`. -/
def underIndex (index : Nat) (e : LoadError) : LoadError :=
  e.prepend ("[" ++ toString index ++ "]") false

end LoadError

/-- The largest unsigned 64-bit number. -/
def unsignedMax : Nat := Nat.pow 2 64 - 1

/-- What a conversion reports having found in a setting of this kind. -/
def SettingKind.found : SettingKind → Found
  | .nil => .unit
  | .bool b => .bool b
  | .int n => .int n
  | .uint n => .uint n
  | .float x => .float x
  | .text s => .text s
  | .table _ => .map
  | .array _ => .seq

namespace Setting

/-- The source a setting came from. -/
def origin : Setting → Option String
  | mk o _ => o

/-- What a setting holds. -/
def kind : Setting → SettingKind
  | mk _ k => k

/-- An empty table of no source. -/
def emptyTable : Setting := mk none (.table [])

/-- The unsigned number a setting stands for. -/
def toUnsigned (s : Setting) : Except LoadError Nat :=
  let expectedUnsigned := "an unsigned 64 bit or less integer"
  let mismatch (found : Found) (expected : String) : Except LoadError Nat :=
    .error (.mismatch found expected none s.origin)
  match s.kind with
  | .uint n => .ok n
  | .int n => if n < 0 then mismatch (.int n) expectedUnsigned else .ok n.toNat
  | .text t =>
    let word := t.toLower
    if word == "true" || word == "on" || word == "yes" then .ok 1
    else if word == "false" || word == "off" || word == "no" then .ok 0
    else
      match Decimal.readUnsigned? t with
      | some n => if n ≤ unsignedMax then .ok n else mismatch (.text t) "an integer"
      | none => mismatch (.text t) "an integer"
  | .bool b => .ok (if b then 1 else 0)
  | .float x => .ok x.round.toUInt64.toNat
  | .nil => mismatch .unit "an integer"
  | .table _ => mismatch .map "an integer"
  | .array _ => mismatch .seq "an integer"

/-- The text a setting stands for. -/
def toText (s : Setting) : Except LoadError String :=
  let mismatch (found : Found) : Except LoadError String :=
    .error (.mismatch found "a string" none s.origin)
  match s.kind with
  | .text t => .ok t
  | .bool b => .ok (toString b)
  | .int n => .ok (toString n)
  | .uint n => .ok (toString n)
  | .float x => .ok (Decimal.render .plain x)
  | .nil => mismatch .unit
  | .table _ => mismatch .map
  | .array _ => mismatch .seq

end Setting

end Unwinding
