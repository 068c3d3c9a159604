import Unwinding.Ledger
import Unwinding.Text.Blank

/-!
# The configuration

Two settings: the depth limit of the frame ledger and the log filter. A configuration is
valid when the limit is at least one and the filter is not blank.
-/

namespace Unwinding

/-- The resolved configuration. -/
structure Config where
  maxDepth : Nat := defaultDepthLimit
  filter : String := "info"
  deriving DecidableEq, Inhabited

/-- The filter used when nothing else is configured. -/
def defaultFilter : String := "info"

/-- Why a configuration is not valid. -/
inductive ValidationError where
  | zeroDepth
  | blankFilter
  deriving DecidableEq, Inhabited

/-- The text of a validation error. -/
def ValidationError.message : ValidationError → String
  | .zeroDepth => "runtime.max_depth must be at least 1"
  | .blankFilter => "logging.filter must not be empty"

namespace Config

/-- Checks the depth limit first, then the filter. -/
def validate (c : Config) : Except ValidationError Unit :=
  if c.maxDepth = 0 then .error .zeroDepth
  else if Text.isBlankText c.filter then .error .blankFilter
  else .ok ()

end Config

end Unwinding
