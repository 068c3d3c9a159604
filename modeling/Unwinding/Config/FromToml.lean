import Unwinding.Config.Decode
import Unwinding.Toml.Reader

/-!
# Configuration from TOML text

A TOML document becomes a source of settings: strings, integers, floats and booleans as
they are, dates and times as their text, and table keys in lower case, taken in the sorted
order of the keys as written so that of two keys equal up to case the later one wins.
-/

namespace Unwinding

namespace Toml

/-- Orders entries by key. -/
def sortEntries {β : Type} (entries : List (String × β)) : List (String × β) :=
  entries.mergeSort fun a b => !(decide (b.1 < a.1))

/-- Entries in the sorted order of their keys as written, under keys in lower case; of two
keys equal up to case the later one wins. -/
def collectEntries (entries : List (String × Setting)) : List (String × Setting) :=
  (sortEntries entries).foldl (fun acc e => Setting.upsert acc e.1.toLower e.2) []

mutual

/-- A TOML value as a setting from `origin`. -/
def Value.toSetting (origin : Option String) : Value → Setting
  | .string s => .mk origin (.text s)
  | .integer n => .mk origin (.int n)
  | .float x => .mk origin (.float x)
  | .boolean b => .mk origin (.bool b)
  | .datetime d => .mk origin (.text d.render)
  | .array items => .mk origin (.array (itemsToSettings origin items))
  | .table entries => .mk origin (.table (collectEntries (entriesToSettings origin entries)))

/-- The settings of an array. -/
def itemsToSettings (origin : Option String) : List Value → List Setting
  | [] => []
  | v :: rest => v.toSetting origin :: itemsToSettings origin rest

/-- The settings of a table's entries, each under its key as written. -/
def entriesToSettings (origin : Option String) : List (String × Value) → List (String × Setting)
  | [] => []
  | (k, v) :: rest => (k, v.toSetting origin) :: entriesToSettings origin rest

end

/-- A document's top-level table as a source of settings. -/
def sourceOf (origin : Option String) (entries : List (String × Value)) : List (String × Setting) :=
  collectEntries (entriesToSettings origin entries)

end Toml

end Unwinding
