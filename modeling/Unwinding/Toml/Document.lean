import Unwinding.Toml.Quoting
import Unwinding.Toml.Value

/-!
# Building a TOML document

The rules that decide where a key or table header lands, and when it is a second
definition. A document is built one table at a time: the table a header opens is filled
apart from the rest and put in place when the next header comes or the document ends.

A table is made implicitly as the parent of a header or by a dotted key. A header may
define an implicit table once, but not one a dotted key made; a dotted key goes through
implicit tables only, and only into tables that dotted keys made; a key is defined once;
an array of tables grows by one table for each of its headers, and keys and headers below
it go into its last table. Values written inline (arrays, inline tables) are closed:
nothing can be added to them afterwards.
-/

namespace Unwinding

namespace Toml

/-- An entry of a table being built: a value, a table, or an array of tables given by
their entries. -/
inductive Item where
  | value (v : Value)
  | table (entries : List (String × Item)) (implicit : Bool) (dotted : Bool)
  | tables (members : List (List (String × Item)))
  deriving Inhabited

/-- A table being built: its entries, whether it is only the parent of something defined
later, and whether a dotted key made it. -/
structure Table where
  entries : List (String × Item) := []
  implicit : Bool := false
  dotted : Bool := false
  deriving Inhabited

/-- A table as an entry of another. -/
def Table.toItem (t : Table) : Item := .table t.entries t.implicit t.dotted

/-- Replaces the entry under `key`, or adds it at the end. -/
def upsertEntry {β : Type} (entries : List (String × β)) (key : String) (v : β) :
    List (String × β) :=
  if entries.any (·.1 == key) then entries.map fun e => if e.1 == key then (key, v) else e
  else entries ++ [(key, v)]

/-- The name of a value's type in messages. -/
def Value.typeName : Value → String
  | .string _ => "string"
  | .integer _ => "integer"
  | .float _ => "float"
  | .boolean _ => "boolean"
  | .datetime _ => "datetime"
  | .array _ => "array"
  | .table _ => "inline table"

/-- Why a key or header cannot be placed. -/
inductive PlacementError where
  /-- A key defined a second time, and the table it is in when that is known. -/
  | duplicateKey (key : String) (table : Option (List String))
  /-- A dotted key that runs into a value. -/
  | extendsValue (path : List String) (typeName : String)
  deriving DecidableEq, Inhabited, Repr

/-- The text of a placement error. -/
def PlacementError.message : PlacementError → String
  | .duplicateKey key none => "duplicate key `" ++ key ++ "`"
  | .duplicateKey key (some []) => "duplicate key `" ++ key ++ "` in document root"
  | .duplicateKey key (some path) =>
    "duplicate key `" ++ key ++ "` in table `" ++ ".".intercalate path ++ "`"
  | .extendsValue path name =>
    "dotted key `" ++ ".".intercalate path ++ "` attempted to extend non-table type (" ++
      name ++ ")"

/-- The error for a header whose last key already names something it cannot define. -/
def redefined (path : List String) : PlacementError :=
  .duplicateKey (keyRepr (path.getLastD "")) (some path.dropLast)

/-- Goes down `path` and changes the table at its end with `f`, making implicit tables on the
way and entering an array of tables at its last table; a `dotted` path marks what it makes. -/
def descend {α : Type} (dotted : Bool) (f : Table → Except PlacementError (Table × α))
    (whole : List String) (depth : Nat) (t : Table) :
    List String → Except PlacementError (Table × α)
  | [] => f t
  | k :: rest =>
    let inner : Except PlacementError (Item × α) :=
      match (t.entries.lookup k).getD (.table [] true dotted) with
      | .value v => .error (.extendsValue (whole.take (depth + 1)) v.typeName)
      | .tables members =>
        match descend dotted f whole (depth + 1) { entries := members.getLastD [] } rest with
        | .ok (t', a) => .ok (.tables (members.dropLast ++ [t'.entries]), a)
        | .error e => .error e
      | .table es implicit made =>
        if dotted && !implicit then .error (.duplicateKey k none)
        else
          match descend dotted f whole (depth + 1) { entries := es, implicit, dotted := made } rest with
          | .ok (t', a) => .ok (t'.toItem, a)
          | .error e => .error e
    match inner with
    | .ok (c, a) => .ok ({ t with entries := upsertEntry t.entries k c }, a)
    | .error e => .error e

/-- Goes down a dotted key inside an inline table, as `descend` does; an inline table
written out in full is closed, and so is any other value. -/
def descendInline {α : Type} (f : Table → Except PlacementError (Table × α))
    (whole : List String) (depth : Nat) (t : Table) :
    List String → Except PlacementError (Table × α)
  | [] => f t
  | k :: rest =>
    let inner : Except PlacementError (Item × α) :=
      match (t.entries.lookup k).getD (.table [] true true) with
      | .value (.table _) => .error (.duplicateKey k none)
      | .value v => .error (.extendsValue (whole.take (depth + 1)) v.typeName)
      | .tables _ => .error (.duplicateKey k none)
      | .table es implicit made =>
        if !implicit then .error (.duplicateKey k none)
        else
          match descendInline f whole (depth + 1) { entries := es, implicit, dotted := made } rest with
          | .ok (t', a) => .ok (t'.toItem, a)
          | .error e => .error e
    match inner with
    | .ok (c, a) => .ok ({ t with entries := upsertEntry t.entries k c }, a)
    | .error e => .error e

mutual

/-- The value of a finished entry. -/
def Item.toValue : Item → Value
  | .value v => v
  | .table es _ _ => .table (entriesToValue es)
  | .tables members => .array (membersToValue members)

/-- The values of a table's entries. -/
def entriesToValue : List (String × Item) → List (String × Value)
  | [] => []
  | (k, i) :: rest => (k, i.toValue) :: entriesToValue rest

/-- The tables of an array of tables. -/
def membersToValue : List (List (String × Item)) → List Value
  | [] => []
  | m :: rest => .table (entriesToValue m) :: membersToValue rest

end

/-- Places a value under the last key in the table `t`, where `path` led: a key of a
dotted path must land in a table a dotted key made, and a key may not be there yet. -/
def placeLast (path : List String) (key : String) (v : Value) (owner : Option (List String))
    (t : Table) : Except PlacementError (Table × Unit) :=
  if t.dotted == path.isEmpty then .error (.duplicateKey key none)
  else if t.entries.any (·.1 == key) then .error (.duplicateKey key owner)
  else .ok ({ t with entries := t.entries ++ [(key, .value v)] }, ())

/-- The inline table of a list of key/value pairs. -/
def tableFromPairs (pairs : List (List String × Value)) : Except PlacementError Value :=
  let step (acc : Except PlacementError Table) (pair : List String × Value) :=
    match acc with
    | .error e => .error e
    | .ok root =>
      let path := pair.1.dropLast
      match descendInline (placeLast path (pair.1.getLastD "") pair.2 none) path 0 root path with
      | .ok (root, ()) => .ok root
      | .error e => .error e
  match pairs.foldl step (.ok {}) with
  | .ok root => .ok (.table (entriesToValue root.entries))
  | .error e => .error e

/-- A document being built: the tables put in place so far, the table being filled apart
from them with the path of its header, and whether that header opens a table of an array. -/
structure DocState where
  root : Table := {}
  current : Table := {}
  path : List String := []
  isArray : Bool := false
  deriving Inhabited

namespace DocState

/-- Adds a key/value pair to the table being filled. -/
def addKeyval (st : DocState) (keys : List String) (v : Value) : Except PlacementError DocState :=
  let path := keys.dropLast
  match descend true (placeLast path (keys.getLastD "") v (some st.path)) path 0 st.current path with
  | .ok (current, ()) => .ok { st with current }
  | .error e => .error e

/-- Puts the table being filled in place: as the document's top level, as the next table of
its array, or under its header's path, where an implicit table may stand. -/
def finalize (st : DocState) : Except PlacementError DocState :=
  let table := st.current
  let fresh : DocState := { st with current := {}, path := [] }
  match st.path.getLast? with
  | none => .ok { fresh with root := table }
  | some key =>
    let parent := st.path.dropLast
    let place (p : Table) : Except PlacementError (Table × Unit) :=
      match p.entries.lookup key, st.isArray with
      | none, true => .ok ({ p with entries := p.entries ++ [(key, .tables [table.entries])] }, ())
      | some (.tables ms), true =>
        .ok ({ p with entries := upsertEntry p.entries key (.tables (ms ++ [table.entries])) }, ())
      | none, false => .ok ({ p with entries := p.entries ++ [(key, table.toItem)] }, ())
      | some (.table _ true _), false =>
        .ok ({ p with entries := upsertEntry p.entries key table.toItem }, ())
      | _, _ => .error (redefined st.path)
    match descend false place parent 0 st.root parent with
    | .ok (root, ()) => .ok { fresh with root }
    | .error e => .error e

/-- Starts filling the table a header `[path]` defines; an implicit table there, not made
by a dotted key, is taken up with its entries. -/
def startTable (st : DocState) (path : List String) : Except PlacementError DocState :=
  let key := path.getLastD ""
  let parent := path.dropLast
  let take (p : Table) : Except PlacementError (Table × Table) :=
    match p.entries.lookup key with
    | none => .ok (p, {})
    | some (.table es true false) =>
      .ok ({ p with entries := p.entries.filter (·.1 != key) }, { entries := es })
    | some _ => .error (redefined path)
  match descend false take parent 0 st.root parent with
  | .ok (root, current) => .ok { root, current, path, isArray := false }
  | .error e => .error e

/-- Starts filling a new table of the array a header `[[path]]` names, making the array
if it is missing. -/
def startArrayTable (st : DocState) (path : List String) : Except PlacementError DocState :=
  let key := path.getLastD ""
  let parent := path.dropLast
  let ensure (p : Table) : Except PlacementError (Table × Unit) :=
    match p.entries.lookup key with
    | none => .ok ({ p with entries := p.entries ++ [(key, .tables [])] }, ())
    | some (.tables _) => .ok (p, ())
    | some _ => .error (redefined path)
  match descend false ensure parent 0 st.root parent with
  | .ok (root, ()) => .ok { root, current := {}, path, isArray := true }
  | .error e => .error e

/-- A header `[path]`: the table being filled is put in place and the new one started. -/
def openTable (st : DocState) (path : List String) : Except PlacementError DocState :=
  match st.finalize with
  | .ok st => st.startTable path
  | .error e => .error e

/-- A header `[[path]]`. -/
def openArrayTable (st : DocState) (path : List String) : Except PlacementError DocState :=
  match st.finalize with
  | .ok st => st.startArrayTable path
  | .error e => .error e

end DocState

end Toml

end Unwinding
