import Unwinding.Config.Basic
import Unwinding.Toml.Quoting

/-!
# Writing TOML

The configuration is written as its two sections, its filter quoted as `quoteString`
chooses.
-/

namespace Unwinding

namespace Toml

/-- Why a configuration cannot be written. -/
inductive WriteError where
  /-- TOML integers are signed 64-bit; a larger limit has no TOML form. -/
  | outOfRange
  deriving DecidableEq, Inhabited

/-- The text of a write error. -/
def WriteError.message : WriteError → String
  | .outOfRange => "out-of-range value for u64 type"

/-- The configuration as a TOML document: the runtime section, a blank line, the logging
section. -/
def writeConfig (c : Config) : Except WriteError String :=
  if c.maxDepth ≥ Nat.pow 2 63 then .error .outOfRange
  else
    .ok ("[runtime]\nmax_depth = " ++ toString c.maxDepth ++ "\n\n[logging]\nfilter = " ++
      quoteString c.filter ++ "\n")

end Toml

end Unwinding
