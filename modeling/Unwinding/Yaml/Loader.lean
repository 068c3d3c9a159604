import Unwinding.Yaml.Events
import Unwinding.Decimal.Read
import Unwinding.Text.Escaped

/-!
# Loading YAML documents

The events of a stream are built into one node tree per document. A plain scalar is typed
by its text: `~` and `null` are null, `true` and `false` booleans, a 64-bit integer (also
hexadecimal after `0x`, octal after `0o`, or with a `+`) an integer, a text that reads as a
floating-point number (or `.inf`, `-.inf`, `.nan` and their capitalised forms) a real kept as
its text, and anything else a string. A plain scalar tagged `!!bool`, `!!int`, `!!float` or
`!!null` must read as one, or it is a bad value; any other tag makes it a string. Quoted and
block scalars are strings.

An anchored node is remembered when it is complete, and an alias stands for a copy of it. A
key given twice in a mapping is an error, reported where the second value is; the first
such error is kept, but a failure to parse the stream comes first.
-/

namespace Unwinding

namespace Yaml

/-- A YAML node. Reals keep their text; mappings keep their pairs in order. -/
inductive Node where
  | real (text : String)
  | integer (n : Int)
  | string (s : String)
  | boolean (b : Bool)
  | array (items : List Node)
  | hash (entries : List (Node × Node))
  | alias (id : Nat)
  | null
  | badValue
  deriving Inhabited, BEq


mutual

/-- How a node is shown in messages, as its constructor applied to its contents. -/
def Node.debug : Node → String
  | .real t => "Real(" ++ Text.quoted t ++ ")"
  | .integer n => "Integer(" ++ toString n ++ ")"
  | .string s => "String(" ++ Text.quoted s ++ ")"
  | .boolean b => "Boolean(" ++ toString b ++ ")"
  | .array items => "Array([" ++ debugItems items ++ "])"
  | .hash entries => "Hash(\x7b" ++ debugEntries entries ++ "\x7d)"
  | .alias id => "Alias(" ++ toString id ++ ")"
  | .null => "Null"
  | .badValue => "BadValue"

/-- The items of a sequence as shown in messages. -/
def debugItems : List Node → String
  | [] => ""
  | [v] => v.debug
  | v :: rest => v.debug ++ ", " ++ debugItems rest

/-- The pairs of a mapping as shown in messages. -/
def debugEntries : List (Node × Node) → String
  | [] => ""
  | [(k, v)] => k.debug ++ ": " ++ v.debug
  | (k, v) :: rest => k.debug ++ ": " ++ v.debug ++ ", " ++ debugEntries rest

end

/-- Reads a signed 64-bit integer in a base up to 16: an optional sign and digits. -/
def readRadix (radix : Nat) (s : String) : Option Int :=
  let (negative, cs) := Decimal.takeSign s.toList
  let values := cs.map fun c => if isHex c && hexValue c < radix then some (hexValue c) else none
  if cs.isEmpty || values.any Option.isNone then none
  else
    let n : Int := values.foldl (fun acc v => acc * radix + (v.getD 0)) 0
    let n := if negative then -n else n
    if -Int.pow 2 63 ≤ n && n < Int.pow 2 63 then some n else none

/-- Reads a signed decimal 64-bit integer. -/
def readInt64 (s : String) : Option Int := readRadix 10 s

/-- The texts of infinities and NaN beyond those of the decimal grammar. -/
def specialReals : List String :=
  [".inf", ".Inf", ".INF", "+.inf", "+.Inf", "+.INF", "-.inf", "-.Inf", "-.INF", ".nan", "NaN", ".NAN"]

/-- Whether a text reads as a floating-point number. -/
def isReal (v : String) : Bool := specialReals.contains v || (Decimal.readNumber? v).isSome

/-- Types a plain scalar without a tag by its text. -/
def resolvePlain (v : String) : Node :=
  let prefixed : Option Int :=
    if v.startsWith "0x" then readRadix 16 (v.drop 2).toString
    else if v.startsWith "0o" then readRadix 8 (v.drop 2).toString
    else if v.startsWith "+" then readInt64 (v.drop 1).toString
    else none
  match prefixed with
  | some n => .integer n
  | none =>
    if v == "~" || v == "null" then .null
    else if v == "true" then .boolean true
    else if v == "false" then .boolean false
    else match readInt64 v with
      | some n => .integer n
      | none => if isReal v then .real v else .string v

/-- The node of a scalar event. -/
def scalarNode (v : String) (style : ScalarStyle) (tag : Option Tag) : Node :=
  if style != .plain then .string v
  else
    match tag with
    | some t =>
      if t.handle == "tag:yaml.org,2002:" then
        if t.suffix == "bool" then
          if v == "true" then .boolean true else if v == "false" then .boolean false else .badValue
        else if t.suffix == "int" then
          match readInt64 v with
          | some n => .integer n
          | none => .badValue
        else if t.suffix == "float" then
          if isReal v then .real v else .badValue
        else if t.suffix == "null" then
          if v == "~" || v == "null" then .null else .badValue
        else .string v
      else .string v
    | none => resolvePlain v

/-- The loader: the documents built, the nodes being built with their anchors (innermost
first), the key waiting for its value in each mapping being built, the anchored nodes, and
the first error. -/
structure Loader where
  docs : List Node := []
  stack : List (Node × Nat) := []
  keys : List Node := []
  anchored : List (Nat × Node) := []
  error : Option ScanError := none
  deriving Inhabited

namespace Loader

/-- Puts a complete node in place: as a document's root, an item of the sequence being
built, or the key or value of the mapping being built. -/
def insertNode (l : Loader) (node : Node) (anchor : Nat) (mark : Mark) : Loader :=
  let l := if anchor > 0 then { l with anchored := (anchor, node) :: l.anchored } else l
  match l.stack with
  | [] => { l with stack := [(node, anchor)] }
  | (.array items, a) :: rest => { l with stack := (.array (items ++ [node]), a) :: rest }
  | (.hash entries, a) :: rest =>
    match l.keys with
    | k :: ks =>
      if k == .badValue then { l with keys := node :: ks }
      else if entries.any (·.1 == k) then
        { l with keys := .badValue :: ks,
                 error := some { mark, info := k.debug ++ ": duplicated key in mapping" } }
      else { l with stack := (.hash (entries ++ [(k, node)]), a) :: rest, keys := .badValue :: ks }
    | [] => l
  | _ :: _ => l

/-- Takes an event. -/
def onEvent (l : Loader) (ev : Event) (mark : Mark) : Loader :=
  if l.error.isSome then l
  else
    match ev with
    | .documentEnd =>
      match l.stack with
      | [] => { l with docs := l.docs ++ [.badValue] }
      | [(v, _)] => { l with docs := l.docs ++ [v], stack := [] }
      | _ => l
    | .sequenceStart anchor _ => { l with stack := (.array [], anchor) :: l.stack }
    | .mappingStart anchor _ => { l with stack := (.hash [], anchor) :: l.stack, keys := .badValue :: l.keys }
    | .sequenceEnd =>
      match l.stack with
      | (node, anchor) :: rest => { l with stack := rest }.insertNode node anchor mark
      | [] => l
    | .mappingEnd =>
      match l.stack with
      | (node, anchor) :: rest => { l with stack := rest, keys := l.keys.tail }.insertNode node anchor mark
      | [] => l
    | .scalar v style anchor tag => l.insertNode (scalarNode v style tag) anchor mark
    | .alias id => l.insertNode ((l.anchored.lookup id).getD .badValue) 0 mark
    | _ => l

end Loader

/-- The documents of a YAML text. -/
def load (text : String) : Except ScanError (List Node) :=
  match events text with
  | .error e => .error e
  | .ok evs =>
    let l := evs.foldl (fun (l : Loader) (ev, mark) => l.onEvent ev mark) {}
    match l.error with
    | some e => .error e
    | none => .ok l.docs

end Yaml

end Unwinding
