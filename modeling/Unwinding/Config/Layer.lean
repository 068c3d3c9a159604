import Unwinding.Config.Setting
import Unwinding.Config.Basic

/-!
# Laying sources over each other

Each source is a list of keys and settings. A key that is a path (`runtime.max_depth`,
`logging[0]`) sets the setting at that path, making tables and arrays on the way and
replacing what is not of the needed kind there. Under a key, a table is merged key by key
into the table already there and anything else replaces what was there; at a position of
an array the value replaces the item. A key that is no path is taken as one plain key.
-/

namespace Unwinding

namespace Setting

/-- The source and entries of a table; a setting that is no table counts as an empty
table of no source. -/
def tableParts (s : Setting) : Option String × List (String × Setting) :=
  match s with
  | mk o (.table es) => (o, es)
  | _ => (none, [])

/-- Replaces the entry under `key`, or adds it at the end. -/
def upsert (entries : List (String × Setting)) (key : String) (v : Setting) :
    List (String × Setting) :=
  if entries.any (·.1 == key) then entries.map fun e => if e.1 == key then (key, v) else e
  else entries ++ [(key, v)]

mutual

/-- Lays `value` under `key` at the top of `root`: a table is merged into what is there,
anything else replaces it. -/
def layKey (root : Setting) (key : String) : Setting → Setting
  | mk _ (.table incoming) =>
    let (o, es) := root.tableParts
    let target := (es.lookup key).getD emptyTable
    mk o (.table (upsert es key (mergeInto target incoming)))
  | value =>
    let (o, es) := root.tableParts
    mk o (.table (upsert es key value))

/-- Merges entries into a setting, one key after another. -/
def mergeInto (target : Setting) : List (String × Setting) → Setting
  | [] => target
  | (k, v) :: rest => mergeInto (layKey target k v) rest

end

/-- One step of a key path: a key of a table or a position in an array. A negative
position counts from the end. -/
inductive PathStep where
  | key (name : String)
  | index (i : Int)
  deriving DecidableEq, Inhabited, Repr

/-- The position a step's index stands for in an array of `length` items, when there is
one. -/
def arrayPosition (length : Nat) (i : Int) : Option Nat :=
  if 0 ≤ i then some i.toNat
  else if i.natAbs ≤ length then some (length - i.natAbs)
  else none

/-- The items of an array, padded with empty settings so that `position` is one of them. -/
def padTo (items : List Setting) (position : Nat) : List Setting :=
  items ++ List.replicate (position + 1 - items.length) (mk none .nil)

/-- The items of a setting that is an array; anything else counts as an empty array of no
source. -/
def arrayParts (s : Setting) : Option String × List Setting :=
  match s with
  | mk o (.array items) => (o, items)
  | _ => (none, [])

/-- Applies `f` where a path leads, making what the path needs on the way: a step by key
makes a table and its entry, a step by position an array padded up to the position. -/
def modifyAt (f : Setting → Setting) : Setting → List PathStep → Setting
  | node, [] => f node
  | node, .key k :: rest =>
    let (o, es) := node.tableParts
    let child := (es.lookup k).getD (mk none .nil)
    mk o (.table (upsert es k (modifyAt f child rest)))
  | node, .index i :: rest =>
    let (o, items) := node.arrayParts
    match arrayPosition items.length i with
    | some n =>
      let items := padTo items n
      mk o (.array (items.set n (modifyAt f (items.getD n (mk none .nil)) rest)))
    | none => node

/-- Places a value by the last step of a path: under a key as `layKey` does, or at a
position of an array, which replaces the item there. -/
def placeStep (value : Setting) (parent : Setting) : PathStep → Setting
  | .key k => layKey parent k value
  | .index i =>
    let (o, items) := parent.arrayParts
    match arrayPosition items.length i with
    | some n => mk o (.array ((padTo items n).set n value))
    | none => parent

/-- Sets `value` at a path. -/
def setAt (root : Setting) (path : List PathStep) (value : Setting) : Setting :=
  match path.getLast? with
  | some last => modifyAt (fun parent => placeStep value parent last) root path.dropLast
  | none => root

/-- Characters of a name in a key path. -/
def isPathChar (c : Char) : Bool := c.isAlphanum || c == ' ' || c == '_' || c == '-'

/-- Reads a name of a key path: one or more name characters. -/
def readPathName (cs : List Char) : Option (String × List Char) :=
  match cs.takeWhile isPathChar with
  | [] => none
  | name => some (String.ofList name, cs.dropWhile isPathChar)

/-- Reads a position between brackets: blanks, an optional minus, digits, blanks; it has
to fit a signed 64-bit number. -/
def readPosition (cs : List Char) : Option (Int × List Char) :=
  let isBlank (c : Char) := c == ' ' || c == '\t'
  let cs := cs.dropWhile isBlank
  let (negative, cs) := match cs with
    | '-' :: rest => (true, rest)
    | _ => (false, cs)
  match cs.takeWhile Char.isDigit with
  | [] => none
  | digits =>
    let magnitude : Int := (String.ofList digits).toNat!
    let n := if negative then -magnitude else magnitude
    if -Int.pow 2 63 ≤ n && n < Int.pow 2 63 then
      some (n, (cs.dropWhile Char.isDigit).dropWhile isBlank)
    else none

/-- Reads the steps after the first name of a key path: `.name` or `[position]`, to the
end of the key. -/
def readSteps : List Char → Option (List PathStep)
  | [] => some []
  | '.' :: rest =>
    match readPathName rest with
    | some (name, rest') =>
      if rest'.length < rest.length + 1 then
        (readSteps rest').map (PathStep.key name :: ·)
      else none
    | none => none
  | '[' :: rest =>
    match readPosition rest with
    | some (i, ']' :: rest') =>
      if rest'.length < rest.length + 1 then
        (readSteps rest').map (PathStep.index i :: ·)
      else none
    | _ => none
  | _ => none
termination_by cs => cs.length

/-- The steps of a key that is a path: a name, then names after dots and positions in
brackets (`runtime.max_depth`, `logging[0]`). -/
def keyPath? (key : String) : Option (List PathStep) :=
  match readPathName key.toList with
  | some (name, rest) => (readSteps rest).map (PathStep.key name :: ·)
  | none => none

/-- Lays a setting under a key of a source: at its path if the key is one, else under the
key as it stands. -/
def lay (root : Setting) (key : String) (value : Setting) : Setting :=
  match keyPath? key with
  | some path => setAt root path value
  | none => layKey root key value

/-- Lays all settings of a source, in order. -/
def layAll (root : Setting) (source : List (String × Setting)) : Setting :=
  source.foldl (fun acc kv => acc.lay kv.1 kv.2) root

end Setting

end Unwinding
