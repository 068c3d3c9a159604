/-!
# Environments

The variables a program runs with, as names bound to texts. Setting a variable replaces
its binding or adds one at the end, so the bindings keep the order in which they first
appeared.
-/

namespace Unwinding

/-- Environment variables, in the order they were first bound. -/
structure Environment where
  vars : List (String × String) := []
  deriving DecidableEq, Inhabited, Repr

namespace Environment

/-- The value of a variable. -/
def get? (env : Environment) (name : String) : Option String := env.vars.lookup name

/-- Binds a variable, replacing its value if it is bound. -/
def set (env : Environment) (name value : String) : Environment :=
  if env.vars.any (·.1 == name) then
    { vars := env.vars.map fun b => if b.1 == name then (name, value) else b }
  else { vars := env.vars ++ [(name, value)] }

/-- Binds a variable unless it is bound already. -/
def setIfAbsent (env : Environment) (name value : String) : Environment :=
  if (env.get? name).isSome then env else env.set name value

end Environment

end Unwinding
