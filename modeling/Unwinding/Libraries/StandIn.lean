import Unwinding.Cli.Arguments
import Unwinding.Config.Load
import Unwinding.Config.Sources
import Unwinding.Environment.DotEnv
import Unwinding.Toml.Writer

/-!
# The libraries the tool runs with

The command-line reader, the `.env` loader, the settings library and the TOML writer of
this library, put together as the libraries the tool runs with.
-/

namespace Unwinding

/-- The name of the `.env` file. -/
def dotEnvFile : String := ".env"

/-- The environment once the directory's `.env` file, if it has one, is loaded. -/
def Directory.loadDotEnv (dir : Directory) (env : Environment) : Environment :=
  match dir.read? dotEnvFile with
  | some text => DotEnv.load env text
  | none => env

/-- The libraries the tool runs with. -/
def Libraries.standIn : Libraries where
  readArgs args := (Cli.readCommandLine args).mapError Cli.Stop.exit
  loadDotEnv env dir := dir.loadDotEnv env
  buildConfig sources env dir := (Config.build sources env dir).mapError LoadError.text
  writeToml c := (Toml.writeConfig c).mapError Toml.WriteError.message

namespace Cli

/-- The files a run may read, given its arguments, its environment and the text of its
`.env` file: the paths tried for the configuration file. -/
def filesToRead (args : List String) (env : Environment) (dotEnv : Option String) : List String :=
  let named := match readCommandLine args with
    | .ok inv => inv.configPath
    | .error _ => none
  let env := match named with
    | some path => env.set configPathVariable path
    | none => env
  let env := match dotEnv with
    | some text => DotEnv.load env text
    | none => env
  Directory.pathsTried ((env.get? configPathVariable).getD defaultConfigFile)

end Cli

end Unwinding
