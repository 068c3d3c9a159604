import Unwinding.Value

/-!
# Exits

A non-local exit travels outwards until a handler takes it. There are three kinds: a block
exit (`return-from`) names a block by its identifier, a tag exit (`go`) names a tag of a
tag body by level and index, and a dynamic exit (`throw`) carries a tag object that a
catcher must hold as the very same object.
-/

namespace Unwinding

/-- The three kinds of exit. -/
inductive SignalKind where
  | block
  | tag
  | dynamic
  deriving DecidableEq, Inhabited

namespace SignalKind

/-- The name of the kind, as the diagnostics spell it. -/
def name : SignalKind → String
  | block => "block"
  | tag => "tag"
  | dynamic => "catch"

/-- The operator that starts an exit of this kind. -/
def operator : SignalKind → String
  | block => "return-from"
  | tag => "go"
  | dynamic => "throw"

end SignalKind

/-- An exit in flight, carrying the value it returns where one applies. -/
inductive Signal (α : Type) where
  | block (name : Ident) (value : α)
  | tag (level index : Nat)
  | dynamic (symbol value : α)

namespace Signal

variable {α : Type}

/-- The kind of an exit. -/
def kind : Signal α → SignalKind
  | block .. => .block
  | tag .. => .tag
  | dynamic .. => .dynamic

/-- The operator that started an exit. -/
def operator (s : Signal α) : String := s.kind.operator

/-- The value an exit returns to its handler; a tag exit returns none. -/
def value? : Signal α → Option α
  | block _ v => some v
  | tag .. => none
  | dynamic _ v => some v

/-- A block exit aims at the block whose name is the same identifier. -/
def targetsBlock : Signal α → Ident → Bool
  | block name _, other => name.same other
  | _, _ => false

/-- A tag exit aims at one level and index. -/
def targetsTag : Signal α → Nat → Nat → Bool
  | tag l i, level, index => l == level && i == index
  | _, _, _ => false

/-- A dynamic exit aims at the catcher whose tag is the same object as its symbol. -/
def targetsCatch [Identity α] : Signal α → α → Bool
  | dynamic symbol _, t => Identity.same symbol t
  | _, _ => false

@[simp] theorem kind_block (n : Ident) (v : α) : (block n v).kind = .block := rfl
@[simp] theorem kind_tag (l i : Nat) : (tag l i : Signal α).kind = .tag := rfl
@[simp] theorem kind_dynamic (s v : α) : (dynamic s v).kind = .dynamic := rfl

end Signal

end Unwinding
