import Unwinding.Fatal

/-!
# Handlers

Each handler takes the exits of one kind that aim at it and lets everything else through
unchanged: a block takes block exits naming its own identifier, a catcher takes dynamic
exits whose tag is the very same object, and a tag body takes tag exits of its level whose
index it has.
-/

namespace Unwinding

variable {α : Type}

/-- How a tag body goes on after one statement: with its value, or at a tag. -/
inductive Resume (α : Type) where
  | value (v : α)
  | go (index : Nat)

/-- A block named `name` takes a block exit aimed at the same identifier. -/
def catchBlock (name : Ident) : Outcome α → Outcome α
  | .error (.signal (.block target v)) => if target.same name then .ok v else .error (.signal (.block target v))
  | other => other

/-- A tag body of `level` with `tagCount` tags resumes after a value, and takes a tag exit
of its level whose index is below `tagCount`. -/
def catchTag (level tagCount : Nat) : Outcome α → Except (Flow α) (Resume α)
  | .ok v => .ok (.value v)
  | .error (.signal (.tag l i)) =>
    if l = level ∧ i < tagCount then .ok (.go i) else .error (.signal (.tag l i))
  | .error flow => .error flow

/-- A catcher holding `tag` takes a dynamic exit whose symbol is the same object. -/
def catchThrow [Identity α] (tag : α) : Outcome α → Outcome α
  | .error (.signal (.dynamic symbol v)) =>
    if Identity.same symbol tag then .ok v else .error (.signal (.dynamic symbol v))
  | other => other

end Unwinding

namespace Unwinding

/-- A handler, as a chain of them is applied to one result. -/
inductive Catcher (α : Type) where
  | block (name : Ident)
  | dynamic (tag : α)
  | tagBody (level count : Nat)

/-- What one handler of a chain made of the result. -/
inductive Handling (α : Type) where
  /-- The result after the handler, taken or passed through. -/
  | passed (r : Outcome α)
  /-- A tag body saw a value and goes on with it. -/
  | resumed (v : α)
  /-- A tag body took a tag exit; the chain ends here. -/
  | jumped (index : Nat)

namespace Catcher

variable {α : Type} [Identity α]

/-- Applies handlers in order, each to what the previous one made. -/
def applyAll : Outcome α → List (Catcher α) → List (Handling α)
  | _, [] => []
  | r, .block name :: rest =>
    let r' := catchBlock name r
    .passed r' :: applyAll r' rest
  | r, .dynamic tag :: rest =>
    let r' := catchThrow tag r
    .passed r' :: applyAll r' rest
  | r, .tagBody level count :: rest =>
    match catchTag level count r with
    | .ok (.value v) => .resumed v :: applyAll (.ok v) rest
    | .ok (.go index) => [.jumped index]
    | .error flow => .passed (.error flow) :: applyAll (.error flow) rest

end Catcher

end Unwinding
