import Unwinding.Cli.Invocation
import Unwinding.Config.Basic
import Unwinding.Config.Files
import Unwinding.Environment

/-!
# The libraries the tool calls

The tool reads its command line, its `.env` file and its configuration, and writes its
configuration as TOML, with libraries it does not define. `Libraries` holds each as the one
operation the tool calls. The tool's own logic is stated for any libraries; what a property
needs of them is a hypothesis where it is stated.
-/

namespace Unwinding

/-- A source of configuration settings. -/
inductive Source where
  /-- Values of the limit and the filter. -/
  | defaults (maxDepth : Nat) (filter : String)
  /-- The configuration file of a name, which must exist when `required`. -/
  | file (name : String) (required : Bool)
  /-- A TOML text. -/
  | toml (text : String)
  /-- The variables named `leading`, then `prefixSeparator`, then a key path whose parts are
  joined by `separator`. -/
  | environment (leading prefixSeparator separator : String)
  deriving DecidableEq, Inhabited, Repr

/-- The operations of the libraries the tool calls. -/
structure Libraries where
  /-- Reads the command line, or ends the run as the parser does on help and on errors. -/
  readArgs : List String → Except Cli.Exit Cli.Invocation
  /-- The environment once the `.env` file of the directory is loaded. -/
  loadDotEnv : Environment → Directory → Environment
  /-- Lays the sources in order and reads a configuration, or says why it cannot. -/
  buildConfig : List Source → Environment → Directory → Except String Config
  /-- Writes a configuration as pretty TOML, or says why it cannot. -/
  writeToml : Config → Except String String

end Unwinding
