import Unwinding.Cli.Run
import Unwinding.Libraries.StandIn

/-!
# The `unwind` command

Gathers what a run depends on (the arguments, the environment variables, and the `.env`
and configuration files of the working directory), runs the tool, and writes what it says.
-/

open Unwinding

/-- The text of a file, if it can be read. -/
def readText? (name : String) : IO (Option String) := do
  try
    return some (← IO.FS.readFile name)
  catch _ =>
    return none

/-- The process's environment variables, as the kernel lists them. -/
def readEnvironment : IO Environment := do
  match ← readText? "/proc/self/environ" with
  | none => return {}
  | some text =>
    let vars := (text.splitOn "\x00").filterMap fun entry =>
      match entry.splitOn "=" with
      | name :: value :: more => some (name, "=".intercalate (value :: more))
      | _ => none
    return { vars }

def main (args : List String) : IO UInt32 := do
  let env ← readEnvironment
  let dotEnv ← readText? dotEnvFile
  let named ← (Cli.filesToRead args env dotEnv).filterMapM fun name => do
    return (← readText? name).map (name, ·)
  let files := (dotEnv.map (dotEnvFile, ·)).toList ++ named
  let exit := Cli.run Libraries.standIn { args, env, dir := { files } }
  IO.print exit.stdout
  IO.eprint exit.stderr
  return exit.status.toUInt32
