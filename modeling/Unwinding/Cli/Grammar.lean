/-!
# The command-line grammar of `unwind`

The tool has two commands, `config` and `probe`, and a `help` command that shows the page
of another. Every command takes `--config <CONFIG>` and `--max-depth <MAX_DEPTH>`, which
may also stand before the command, and `-h`/`--help`; `probe` adds `-n`/`--frames
<FRAMES>` and `--json`.

This module holds the grammar as data: which options each command knows, in the order in
which names are matched and listed, and the help pages and usage lines built from them.
-/

namespace Unwinding

namespace Cli

/-- The name of the tool as usage lines give it. -/
def toolName : String := "unwind"

/-- The named options of the tool. -/
inductive Flag where
  | config
  | maxDepth
  | frames
  | json
  | help
  deriving DecidableEq, Inhabited, Repr

namespace Flag

/-- The long name, without its dashes. -/
def long : Flag → String
  | config => "config"
  | maxDepth => "max-depth"
  | frames => "frames"
  | json => "json"
  | help => "help"

/-- The one-letter name, if the option has one. -/
def short : Flag → Option Char
  | frames => some 'n'
  | help => some 'h'
  | _ => none

/-- The placeholder of the option's value; options without one are switches. -/
def valueName : Flag → Option String
  | config => some "CONFIG"
  | maxDepth => some "MAX_DEPTH"
  | frames => some "FRAMES"
  | _ => none

/-- Whether the option takes a value. -/
def takesValue (f : Flag) : Bool := f.valueName.isSome

/-- The option as errors and usage lines show it: `--frames <FRAMES>`, `--json`. -/
def display (f : Flag) : String :=
  "--" ++ f.long ++ (match f.valueName with
    | some v => " <" ++ v ++ ">"
    | none => "")

/-- The line of help for the option. -/
def about : Flag → String
  | config => "Path to config file (overrides default search)"
  | maxDepth => "Maximum frame depth (overrides config file and env vars)"
  | frames => "Number of nested frames to push [default: 3]"
  | json => "Print the report as JSON"
  | help => "Print help"

end Flag

/-- The level of the command line that is being read: before any command, or inside one. -/
inductive Scope where
  | top
  | config
  | probe
  | help
  deriving DecidableEq, Inhabited, Repr

namespace Scope

/-- The command's name as typed. -/
def name : Scope → String
  | top => toolName
  | config => "config"
  | probe => "probe"
  | help => "help"

/-- The commands that can follow at this level, in the order they are listed. -/
def commands : Scope → List Scope
  | top => [config, probe, help]
  | _ => []

/-- The command at this level with the given name, if any. -/
def command? (s : Scope) (word : String) : Option Scope :=
  s.commands.find? (·.name == word)

/-- The options the level knows, in the order in which a mistyped name is matched against
them. -/
def flags : Scope → List Flag
  | top => [.config, .maxDepth, .help]
  | config => [.config, .maxDepth, .help]
  | probe => [.frames, .json, .config, .maxDepth, .help]
  | help => []

/-- The options the level knows, in the order its help page lists them. -/
def listed : Scope → List Flag
  | probe => [.config, .frames, .json, .maxDepth, .help]
  | s => s.flags

/-- The option with the given long name. -/
def flagNamed? (s : Scope) (word : String) : Option Flag :=
  s.flags.find? (·.long == word)

/-- The option with the given one-letter name. -/
def flagLettered? (s : Scope) (c : Char) : Option Flag :=
  s.flags.find? (·.short == some c)

/-- The command's words in a usage line: `unwind`, `unwind probe`. -/
def path : Scope → String
  | top => toolName
  | s => toolName ++ " " ++ s.name

/-- The one-line description of the command. -/
def about : Scope → String
  | top => "Unwind - control kernel diagnostics for a Lisp runtime"
  | config => "Print the resolved configuration as TOML"
  | probe => "Recurse through labelled frames and report the backtrace at the bottom"
  | help => "Print this message or the help of the given subcommand(s)"

/-- The usage line of the command's help page. -/
def usage : Scope → String
  | top => "Usage: " ++ toolName ++ " [OPTIONS] <COMMAND>"
  | help => "Usage: " ++ help.path ++ " [COMMAND]..."
  | s => "Usage: " ++ s.path ++ " [OPTIONS]"

/-- A usage line that names the options already given, used when an error is found after
some of them. -/
def usageWith (s : Scope) (given : List Flag) : String :=
  if given.isEmpty then s.usage
  else
    "Usage: " ++ s.path ++ String.join (given.map (" " ++ ·.display)) ++
      (if s == top then " <COMMAND>" else "")

/-- Whether errors at this level end by pointing to `--help`; the `help` command has no
such option. -/
def offersHelp : Scope → Bool
  | help => false
  | _ => true

end Scope

/-- Pads a text with spaces to the given width. -/
def padRight (s : String) (width : Nat) : String :=
  s ++ String.ofList (List.replicate (width - s.length) ' ')

/-- The lines that list options, their help aligned two spaces after the widest name. -/
def optionLines (flags : List Flag) : List String :=
  let width := flags.foldl (fun w f => max w f.display.length) 0
  flags.map fun f =>
    let letter := match f.short with
      | some c => "-" ++ String.singleton c ++ ", "
      | none => "    "
    "  " ++ letter ++ padRight f.display width ++ "  " ++ f.about

/-- The lines that list commands, their description aligned two spaces after the widest
name. -/
def commandLines (commands : List Scope) : List String :=
  let width := commands.foldl (fun w c => max w c.name.length) 0
  commands.map fun c => "  " ++ padRight c.name width ++ "  " ++ c.about

/-- The help page of a command. -/
def helpPage (s : Scope) : String :=
  let head := s.about ++ "\n\n" ++ s.usage ++ "\n\n"
  let commandPart :=
    if s.commands.isEmpty then ""
    else "Commands:\n" ++ String.join (commandLines s.commands |>.map (· ++ "\n")) ++ "\n"
  let body :=
    if s == .help then "Arguments:\n  [COMMAND]...  Print help for the subcommand(s)\n"
    else "Options:\n" ++ String.join (optionLines s.listed |>.map (· ++ "\n"))
  head ++ commandPart ++ body

end Cli

end Unwinding
