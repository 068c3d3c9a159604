import Unwinding.Libraries

/-!
# Loading the configuration

A configuration is the built-in values, then a configuration file, then the environment,
laid in that order by the settings library, and then checked. The file is the one
`UNWIND_CONFIG_PATH` names, which must exist, or else `unwind.toml`, which may be missing;
the variables are `UNWIND_<SECTION>__<KEY>`. The `.env` file is loaded first.
-/

namespace Unwinding

/-- Why a configuration could not be resolved. -/
inductive ConfigError where
  | load (text : String)
  | validation (e : ValidationError)

/-- The text of a configuration error. -/
def ConfigError.message : ConfigError → String
  | .load text => "Failed to load configuration: " ++ text
  | .validation e => "Configuration validation failed: " ++ e.message

/-- The variable that names the configuration file. -/
def configPathVariable : String := "UNWIND_CONFIG_PATH"

/-- The configuration file read when none is named. -/
def defaultConfigFile : String := "unwind.toml"

namespace Source

/-- The built-in limit and filter. -/
def builtIn : Source := .defaults defaultDepthLimit defaultFilter

/-- The configuration file: the one named, which must exist, or else the default one. -/
def configFile : Option String → Source
  | some path => .file path true
  | none => .file defaultConfigFile false

/-- The variables `UNWIND_<SECTION>__<KEY>`. -/
def unwindVariables : Source := .environment "UNWIND" "_" "__"

end Source

namespace Config

variable (libs : Libraries)

/-- Builds the sources and checks the configuration they give. -/
def finish (sources : List Source) (env : Environment) (dir : Directory) :
    Except ConfigError Config :=
  match libs.buildConfig sources env dir with
  | .error text => .error (.load text)
  | .ok c =>
    match c.validate with
    | .error e => .error (.validation e)
    | .ok () => .ok c

/-- The sources of a configuration read from the file `path`, or from the default file. -/
def sources (path : Option String) : List Source :=
  [.builtIn, .configFile path, .unwindVariables]

/-- Loads the configuration from the file `path`, or the default file, and the environment. -/
def loadFrom (path : Option String) (env : Environment) (dir : Directory) :
    Except ConfigError Config :=
  finish libs (sources path) env dir

/-- Loads the `.env` file, then the configuration from the file the environment names. -/
def load (env : Environment) (dir : Directory) : Except ConfigError Config :=
  let env := libs.loadDotEnv env dir
  loadFrom libs (env.get? configPathVariable) env dir

/-- The configuration of a TOML text laid over the built-in values, with no environment. -/
def fromToml (text : String) : Except ConfigError Config :=
  finish libs [.builtIn, .toml text] {} {}

/-- The configuration written as pretty TOML. -/
def toToml (c : Config) : Except String String := libs.writeToml c

end Config

end Unwinding
