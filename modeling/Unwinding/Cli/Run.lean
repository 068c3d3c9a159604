import Unwinding.Cli.Probe
import Unwinding.Config.Load

/-!
# Running the tool

A run of `unwind` as a function of its arguments, its environment and the files of its
working directory, to its exit status and what it writes on standard output and error, for
any libraries it calls.

The parser reads the command line and ends the run itself on a help page or a wrong command
line. Otherwise `--config` names the configuration file (over `UNWIND_CONFIG_PATH`), the
configuration is loaded, and `--max-depth` replaces the limit, which is checked again. A
failure there is `Error: <message>` with status 1.
-/

namespace Unwinding

namespace Cli

/-- What a run starts from. -/
structure World where
  args : List String
  env : Environment := {}
  dir : Directory := {}
  deriving Inhabited

variable (libs : Libraries)

/-- Resolves the configuration of a run: loaded with `--config` as the configuration path,
then `--max-depth` laid over it and checked again. -/
def configure (w : World) (inv : Invocation) : Except ConfigError Config :=
  let env := match inv.configPath with
    | some path => w.env.set configPathVariable path
    | none => w.env
  match Config.load libs env w.dir with
  | .error e => .error e
  | .ok config =>
    match inv.maxDepth with
    | none => .ok config
    | some depth =>
      let config := { config with maxDepth := depth }
      match config.validate with
      | .error e => .error (.validation e)
      | .ok () => .ok config

/-- Carries out a command on a resolved configuration. -/
def execute (config : Config) : Command → Exit
  | .config =>
    match Config.toToml libs config with
    | .ok text => { status := 0, stdout := text }
    | .error _ => Exit.failure "Failed to render configuration"
  | .probe frames json =>
    match probe config.maxDepth frames with
    | .error fatal => Exit.failure fatal.display
    | .ok r =>
      if json then
        { status := 0, stdout := (r.toJson frames config.maxDepth).pretty 0 ++ "\n" }
      else { status := 0, stdout := r.report ++ "\n" }

/-- A run of the tool. -/
def run (w : World) : Exit :=
  match libs.readArgs w.args with
  | .error exit => exit
  | .ok inv =>
    match configure libs w inv with
    | .error e => Exit.failure e.message
    | .ok config => execute libs config inv.command

end Cli

end Unwinding
