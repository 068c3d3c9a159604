import Unwinding.Config.Files
import Unwinding.Config.FromToml
import Unwinding.Libraries
import Unwinding.Ini.Reader
import Unwinding.Json5.Reader
import Unwinding.Ron.Reader
import Unwinding.Json.Reader
import Unwinding.Yaml.Loader

/-!
# The settings library the tool runs with

A source gives settings: the defaults their two keys, a configuration file its top-level
table, a TOML text its document, and the environment its variables. The sources are laid
in order over an empty table, and the tree read as a configuration.

A file is found as `Directory.find?` says: one that must exist is an error when missing,
and one that need not is skipped when missing or of no registered format. The extension
decides the format, and the file's name is the source shown in messages. Keys of a file's
tables are taken in lower case.

From the environment, every variable whose name starts with the prefix in any case is a
setting: the rest of the name in lower case, with the separator for the dot between a
section and its key. Its value is a boolean if it reads `true` or `false` in any case,
else an integer if it reads as a 64-bit one, else a number if it reads as one, else the
text.
-/

namespace Unwinding

/-- The mismatch of a file whose top level is no table. -/
def rootMismatch (found : Found) (uri : String) : LoadError :=
  .unreadable (LoadError.mismatch found "a map" none (some uri)).text (some uri)

namespace Json

mutual

/-- Settings of a JSON value from `origin`: integers that fit 64 signed bits stay integers,
larger ones become doubles. -/
def toSetting (origin : Option String) : Json → Setting
  | .null => .mk origin .nil
  | .bool b => .mk origin (.bool b)
  | .int n =>
    if n < Int.pow 2 63 then .mk origin (.int n) else .mk origin (.float n.toNat.toFloat)
  | .float x => .mk origin (.float x)
  | .string s => .mk origin (.text s)
  | .array items => .mk origin (.array (itemsToSettings origin items))
  | .object entries => .mk origin (.table (Toml.collectEntries (entriesToSettings origin entries)))

/-- The settings of an array's items. -/
def itemsToSettings (origin : Option String) : List Json → List Setting
  | [] => []
  | v :: rest => toSetting origin v :: itemsToSettings origin rest

/-- The settings of an object's entries, under their keys as written. -/
def entriesToSettings (origin : Option String) : List (String × Json) → List (String × Setting)
  | [] => []
  | (k, v) :: rest => (k, toSetting origin v) :: entriesToSettings origin rest

end

end Json

namespace Yaml

/-- The text a mapping key stands for: a string as it is, an integer in decimal. -/
def keyText : Node → Option String
  | .string s => some s
  | .integer n => some (toString n)
  | _ => none

mutual

/-- Settings of a YAML node from `origin`; a real that does not read as a decimal number
is an error, and null, bad values and aliases are empty. Keys are taken in lower case; of
two keys equal up to case the later wins. -/
def toSetting (origin : Option String) : Node → Except String Setting
  | .boolean b => .ok (.mk origin (.bool b))
  | .integer n => .ok (.mk origin (.int n))
  | .real text =>
    match Decimal.readNumber? text with
    | some r => .ok (.mk origin (.float r.toFloat))
    | none => .error ("Parsing " ++ text ++ " as floating point number failed")
  | .string s => .ok (.mk origin (.text s))
  | .array items => (itemsToSettings origin items).map fun vs => .mk origin (.array vs)
  | .hash entries =>
    (entriesToSettings origin entries).map fun es =>
      .mk origin (.table (es.foldl (fun acc e => Setting.upsert acc e.1.toLower e.2) []))
  | .null | .badValue | .alias _ => .ok (.mk origin .nil)

/-- The settings of a sequence's items. -/
def itemsToSettings (origin : Option String) : List Node → Except String (List Setting)
  | [] => .ok []
  | v :: rest =>
    match toSetting origin v, itemsToSettings origin rest with
    | .ok s, .ok ss => .ok (s :: ss)
    | .error e, _ => .error e
    | _, .error e => .error e

/-- The settings of a mapping's entries, under their keys as written; an entry whose key
is neither a string nor an integer is left out. -/
def entriesToSettings (origin : Option String) : List (Node × Node) → Except String (List (String × Setting))
  | [] => .ok []
  | (k, v) :: rest =>
    match toSetting origin v, entriesToSettings origin rest with
    | .ok s, .ok ss =>
      match keyText k with
      | some key => .ok ((key, s) :: ss)
      | none => .ok ss
    | .error e, _ => .error e
    | _, .error e => .error e

end

end Yaml

namespace Json5

mutual

/-- Settings of a JSON5 value from `origin`. -/
def toSetting (origin : Option String) : Value → Setting
  | .null => .mk origin .nil
  | .bool b => .mk origin (.bool b)
  | .int n => .mk origin (.int n)
  | .float x => .mk origin (.float x)
  | .string s => .mk origin (.text s)
  | .array items => .mk origin (.array (itemsToSettings origin items))
  | .object entries => .mk origin (.table (Toml.collectEntries (entriesToSettings origin entries)))

/-- The settings of an array's items. -/
def itemsToSettings (origin : Option String) : List Value → List Setting
  | [] => []
  | v :: rest => toSetting origin v :: itemsToSettings origin rest

/-- The settings of an object's entries, under their keys as written. -/
def entriesToSettings (origin : Option String) : List (String × Value) → List (String × Setting)
  | [] => []
  | (k, v) :: rest => (k, toSetting origin v) :: entriesToSettings origin rest

end

end Json5

namespace Ron

/-- The place of a value's kind in the order map keys are visited in. -/
def Value.rank : Value → Nat
  | .bool _ => 0
  | .char _ => 1
  | .map _ => 2
  | .int _ | .float _ => 3
  | .option _ => 4
  | .string _ => 5
  | .seq _ => 6
  | .unit => 7

/-- The text of a map key; a key of another kind is refused, with what it was. -/
def Value.keyText : Value → Except String String
  | .string s => .ok s
  | .char c => .ok c.toString
  | other =>
    let found := match other with
      | .bool b => "the boolean `" ++ toString b ++ "`"
      | .int n => "the signed integer `" ++ toString n ++ "`"
      | .float x => "the floating point number `" ++ Decimal.render .plain x ++ "`"
      | .option _ => "an optional value"
      | .map _ => "a map"
      | .seq _ => "a sequence"
      | _ => "a unit value"
    .error ("Expected a string but found " ++ found ++ " instead")

/-- Map entries in the order they are visited: by the kind of key, strings in order. -/
def visitOrder {β : Type} (entries : List (Value × β)) : List (Value × β) :=
  entries.mergeSort fun a b =>
    a.1.rank < b.1.rank ||
      (a.1.rank == b.1.rank &&
        match a.1, b.1 with
        | .string x, .string y => !(decide (y < x))
        | _, _ => true)

mutual

/-- Settings of a RON value from `origin`: `None` and the unit are empty, `Some` is what it
holds, a character is text, tuples and lists are arrays, and maps and structures are
tables, whose keys must be strings. -/
def toSetting (origin : Option String) : Value → Except String Setting
  | .bool b => .ok (.mk origin (.bool b))
  | .char c => .ok (.mk origin (.text c.toString))
  | .int n => .ok (.mk origin (.int n))
  | .float x => .ok (.mk origin (.float x))
  | .string s => .ok (.mk origin (.text s))
  | .option none => .ok (.mk origin .nil)
  | .option (some v) => toSetting origin v
  | .unit => .ok (.mk origin .nil)
  | .seq items => (itemsToSettings origin items).map fun vs => .mk origin (.array vs)
  | .map entries =>
    ((visitOrder (entriesToSettings origin entries)).mapM (fun (e : Value × Except String (String × Setting)) => e.2)).map fun es =>
      .mk origin (.table (Toml.collectEntries es))

/-- The settings of a list's items. -/
def itemsToSettings (origin : Option String) : List Value → Except String (List Setting)
  | [] => .ok []
  | v :: rest => do
    let s ← toSetting origin v
    let ss ← itemsToSettings origin rest
    pure (s :: ss)

/-- The settings of a map's entries under their keys, each key checked before its value. -/
def entriesToSettings (origin : Option String) :
    List (Value × Value) → List (Value × Except String (String × Setting))
  | [] => []
  | (k, v) :: rest =>
    (k, do let key ← k.keyText; let s ← toSetting origin v; pure (key, s)) ::
      entriesToSettings origin rest

end

end Ron

namespace Ini

/-- The settings of an INI file from `origin`: the pairs of the general section at the top
level, each other section as a table of its pairs; every value is text. Of two sections of
one name the later wins whole. -/
def sourceOf (origin : Option String) (sections : Sections) : List (String × Setting) :=
  Toml.collectEntries (sections.flatMap fun (name, pairs) =>
    let settings := pairs.map fun (k, v) => (k, Setting.mk origin (.text v))
    match name with
    | none => settings
    | some n => [(n, .mk origin (.table (Toml.collectEntries settings)))])

end Ini

/-- The settings of a file's top-level table, read as its format. -/
def FoundFile.source (f : FoundFile) : Except LoadError (List (String × Setting)) :=
  let origin := some f.name
  match f.format with
  | none => .error (.message ("configuration file \"" ++ f.name ++ "\"" ++
      " is not of a registered file format"))
  | some .toml =>
    match Toml.parse f.text with
    | .error report => .error (.unreadable report origin)
    | .ok entries => .ok (Toml.sourceOf origin entries)
  | some .json =>
    match Json.parse f.text with
    | .error e => .error (.unreadable e.message origin)
    | .ok v =>
      match Json.toSetting origin v with
      | .mk _ (.table entries) => .ok entries
      | .mk _ kind => .error (rootMismatch kind.found f.name)
  | some .yaml =>
    match Yaml.load f.text with
    | .error e => .error (.unreadable e.text origin)
    | .ok [] => .ok []
    | .ok [doc] =>
      match Yaml.toSetting origin doc with
      | .error cause => .error (.unreadable cause origin)
      | .ok (.mk _ (.table entries)) => .ok entries
      | .ok (.mk _ kind) => .error (rootMismatch kind.found f.name)
    | .ok docs => .error (.unreadable ("Got " ++ toString docs.length ++ " YAML documents, expected 1") origin)
  | some .ini =>
    match Ini.parse f.text with
    | .error e => .error (.unreadable e.text origin)
    | .ok sections => .ok (Ini.sourceOf origin sections)
  | some .ron =>
    match Ron.parse f.text with
    | .error e => .error (.unreadable e.text origin)
    | .ok v =>
      match Ron.toSetting origin v with
      | .error cause => .error (.unreadable cause origin)
      | .ok (.mk _ (.table entries)) => .ok entries
      | .ok (.mk _ kind) => .error (rootMismatch kind.found f.name)
  | some .json5 =>
    match Json5.parse f.text with
    | .error e => .error (.unreadable e origin)
    | .ok v =>
      match Json5.toSetting origin v with
      | .mk _ (.table entries) => .ok entries
      | .mk _ kind => .error (rootMismatch kind.found f.name)

/-- The source name of settings from the environment. -/
def environmentOrigin : String := "the environment"

/-- Reads a signed 64-bit integer: an optional sign and decimal digits. -/
def readInt64? (s : String) : Option Int :=
  (Decimal.readSigned? s).filter fun n => -Int.pow 2 63 ≤ n && n < Int.pow 2 63

/-- The setting of an environment value. -/
def environmentValue (value : String) : SettingKind :=
  let lower := value.toLower
  if lower == "true" then .bool true
  else if lower == "false" then .bool false
  else
    match readInt64? value with
    | some n => .int n
    | none =>
      match Decimal.readNumber? value with
      | some r => .float r.toFloat
      | none => .text value

/-- The settings the environment gives: the variables whose names start with `leading` in
any case, under the rest of their name in lower case, `separator` read as a dot. -/
def Environment.source (env : Environment) (leading separator : String) :
    List (String × Setting) :=
  env.vars.filterMap fun (name, value) =>
    let key := name.toLower
    if key.startsWith leading.toLower then
      some ((key.drop leading.length).toString.replace separator ".",
        .mk (some environmentOrigin) (environmentValue value))
    else none

namespace Source

/-- The settings a source gives. -/
def settings (env : Environment) (dir : Directory) :
    Source → Except LoadError (List (String × Setting))
  | .defaults maxDepth filter =>
    .ok [("runtime.max_depth", .mk none (.uint maxDepth)), ("logging.filter", .mk none (.text filter))]
  | .file name required =>
    match dir.find? name with
    | some f => if required || f.format.isSome then f.source else .ok []
    | none => if required then .error (.missingFile name) else .ok []
  | .toml text =>
    match Toml.parse text with
    | .error report => .error (.unreadable report none)
    | .ok entries => .ok (Toml.sourceOf none entries)
  | .environment leading prefixSeparator separator =>
    .ok (env.source (leading ++ prefixSeparator) separator)

end Source

namespace Config

/-- Lays the sources in order over an empty table and reads the configuration. -/
def build (sources : List Source) (env : Environment) (dir : Directory) :
    Except LoadError Config := do
  let layers ← sources.mapM (·.settings env dir)
  ofSetting (layers.foldl Setting.layAll Setting.emptyTable)

end Config

end Unwinding
