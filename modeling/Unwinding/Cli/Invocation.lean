/-!
# What a command line asks for

The tool has two commands, `config` and `probe`, and two options common to both: the
configuration file and the depth limit. A run ends with a status and what it writes on
standard output and standard error.
-/

namespace Unwinding

namespace Cli

/-- What a command asks for. -/
inductive Command where
  | config
  | probe (frames : Nat) (json : Bool)
  deriving DecidableEq, Inhabited, Repr

/-- The frames `probe` pushes when `--frames` is not given. -/
def defaultFrames : Nat := 3

/-- A command line that reads: the command and the options common to all commands. -/
structure Invocation where
  command : Command
  configPath : Option String := none
  maxDepth : Option Nat := none
  deriving DecidableEq, Inhabited, Repr

/-- How a run ends. -/
structure Exit where
  status : Nat
  stdout : String := ""
  stderr : String := ""
  deriving DecidableEq, Inhabited, Repr

/-- The end of a run that failed with a message. -/
def Exit.failure (message : String) : Exit :=
  { status := 1, stderr := "Error: " ++ message ++ "\n" }

end Cli

end Unwinding
