/-!
# Runtime objects seen by the kernel

The kernel is generic in the type of runtime objects. It asks two things of that type:
whether two objects are one and the same (a thrown tag meets its catcher by identity,
never by printed form), and an inspection text, shown for frames when no printer is
registered.
-/

namespace Unwinding

/-- Object identity: `same a b` holds when `a` and `b` are one object. -/
class Identity (α : Type) where
  same : α → α → Bool

/-- The inspection text of an object, used when no printer is registered. -/
class Inspect (α : Type) where
  inspect : α → String

end Unwinding
