import Unwinding.Basic

/-!
# Runtime values

The values of the small runtime that drives the kernel: `nil`, integers, symbols and
strings. Symbols are named objects (`Ident`). Strings are objects as well: two strings with
the same text are one object only when they share a cell, so identity of strings is a
question of cells, and equal text never decides it.
-/

namespace Unwinding

/-- A named runtime object. The runtime hands out one object per pair of name and serial,
so identity is that pair; the printed name alone never decides it. -/
structure Ident where
  name : String
  serial : Int := 0
  deriving DecidableEq, Inhabited

namespace Ident

/-- Whether two identifiers are one object. -/
def same (a b : Ident) : Bool := a.name == b.name && a.serial == b.serial

/-- Whether two identifiers print alike, whether or not they are one object. -/
def namesEqual (a b : Ident) : Bool := a.name == b.name

/-- The inspection text of an identifier: its name and the place it lives at. -/
def inspect (i : Ident) : String := "#<ident " ++ i.name ++ " @" ++ toString i.serial ++ ">"

instance : Identity Ident := ⟨same⟩

@[simp] theorem same_self (i : Ident) : i.same i = true := by
  simp [same]

end Ident

/-- A runtime value. A string lives in a numbered `cell`; the cell is its identity. -/
inductive Value where
  | nil
  | int (n : Int)
  | sym (ident : Ident)
  | str (text : String) (cell : Nat)
  deriving DecidableEq, Inhabited

namespace Value

/-- Identity of values: `nil` is itself, integers are their number, symbols their
identifier, and a string is the same object only as the string in the same cell. -/
def same : Value → Value → Bool
  | .nil, .nil => true
  | .int m, .int n => m == n
  | .sym a, .sym b => a.same b
  | .str s c, .str t d => c == d && s == t
  | _, _ => false

/-- The plain text of a value, as the sample printers show it. -/
def label : Value → String
  | .nil => "nil"
  | .int n => toString n
  | .sym i => i.name
  | .str s _ => s

/-- The inspection text of a value: its constructor and its content, text unescaped. -/
def inspect : Value → String
  | .nil => "Nil"
  | .int n => "Int(" ++ toString n ++ ")"
  | .sym i => "Sym(" ++ i.name ++ ")"
  | .str s _ => "Str(\"" ++ s ++ "\")"

instance : Identity Value := ⟨same⟩
instance : Inspect Value := ⟨inspect⟩

@[simp] theorem same_self (v : Value) : v.same v = true := by
  cases v <;> simp [same]

end Value

/-- Hands out string cells: a new cell for each new object, and one cell for every
occurrence of a shared key (a text with a number). Cell 0 is never handed out; it is
left to strings made by the runtime itself, which nothing compares. -/
structure CellSupply where
  next : Nat := 1
  shared : List ((String × Int) × Nat) := []

namespace CellSupply

/-- A cell no earlier string has. -/
def fresh (s : CellSupply) : Nat × CellSupply :=
  (s.next, { s with next := s.next + 1 })

/-- The cell of the shared key `(text, key)`, made on its first use. -/
def intern (s : CellSupply) (text : String) (key : Int) : Nat × CellSupply :=
  match s.shared.lookup (text, key) with
  | some cell => (cell, s)
  | none => (s.next, { next := s.next + 1, shared := ((text, key), s.next) :: s.shared })

end CellSupply

end Unwinding
