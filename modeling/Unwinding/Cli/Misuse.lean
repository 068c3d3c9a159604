import Unwinding.Cli.Grammar

/-!
# Misuse of the command line

Each way a command line can be wrong, and the message that says so. A message reads
`error: <what>`, then hints (`  tip: ...`), then a usage line, then a pointer to `--help`;
errors about a value carry no usage line.

Counts are read as unsigned machine words: an optional `+`, then decimal digits, read from
the left; the first character that is no digit, or the first digit that takes the value
past 2^64 - 1, decides the error.
-/

namespace Unwinding

namespace Cli

/-- Why a text is not a count. -/
inductive CountError where
  | empty
  | invalidDigit
  | tooLarge
  deriving DecidableEq, Inhabited, Repr

/-- The text of a count error. -/
def CountError.message : CountError → String
  | .empty => "cannot parse integer from empty string"
  | .invalidDigit => "invalid digit found in string"
  | .tooLarge => "number too large to fit in target type"

/-- The largest count, 2^64 - 1. -/
def countMax : Nat := Nat.pow 2 64 - 1

/-- Reads digits from the left onto `acc`. -/
def readDigits (acc : Nat) : List Char → Except CountError Nat
  | [] => .ok acc
  | c :: rest =>
    if c.isDigit then
      let next := acc * 10 + (c.toNat - '0'.toNat)
      if next > countMax then .error .tooLarge else readDigits next rest
    else .error .invalidDigit

/-- Reads a count: an optional `+` and digits, at most 2^64 - 1. -/
def readCount (s : String) : Except CountError Nat :=
  match s.toList with
  | [] => .error .empty
  | ['+'] => .error .invalidDigit
  | ['-'] => .error .invalidDigit
  | '+' :: rest => readDigits 0 rest
  | cs => readDigits 0 cs

/-- A hint that a mistyped option exists under another name or in another command. -/
inductive Hint where
  | none
  | similar (flag : Flag)
  | elsewhere (command : Scope) (flag : Flag)
  deriving DecidableEq, Inhabited, Repr

/-- The ways a command line can be wrong. -/
inductive Misuse where
  /-- An argument that no option or command of the level takes; `given` are the options
  already given, for the usage line. -/
  | unknownArgument (scope : Scope) (arg : String) (hint : Hint) (given : List Flag)
  /-- A value attached to a switch. -/
  | unexpectedValue (scope : Scope) (flag : Flag) (value : String) (given : List Flag)
  /-- An option given without its value. -/
  | missingValue (flag : Flag)
  /-- A value that is not a count. -/
  | invalidValue (flag : Flag) (value : String) (cause : CountError)
  /-- An option given twice. -/
  | repeated (scope : Scope) (flag : Flag)
  /-- A word where a command was expected. -/
  | unrecognizedCommand (scope : Scope) (word : String)
  /-- A word where a command was expected, close to some command names. -/
  | misspelledCommand (word : String) (candidates : List String)
  /-- No command at all after some options. -/
  | missingCommand
  /-- A command name after `--`, where it is no longer read as a command. -/
  | escapedCommand (word : String)
  deriving DecidableEq, Inhabited, Repr

/-- Quotes a name as messages do. -/
def quote (s : String) : String := "'" ++ s ++ "'"

/-- Assembles a message: what is wrong, a suggestion of similar names (`kind` and the
names), further tips, a usage line, and the pointer to `--help`. -/
def compose (what : String) (similar : Option (String × List String)) (tips : List String)
    (usage : Option String) (offersHelp : Bool) : String :=
  let similarPart := match similar with
    | some (kind, [name]) => "\n\n  tip: a similar " ++ kind ++ " exists: " ++ quote name
    | some (kind, names) =>
      "\n\n  tip: some similar " ++ kind ++ "s exist: " ++ ", ".intercalate (names.map quote)
    | none => ""
  let tipPart :=
    if tips.isEmpty then ""
    else (if similar.isSome then "" else "\n") ++ String.join (tips.map ("\n  tip: " ++ ·))
  let usagePart := match usage with
    | some u => "\n\n" ++ u
    | none => ""
  let helpPart := if offersHelp then "\n\nFor more information, try '--help'.\n" else "\n"
  "error: " ++ what ++ similarPart ++ tipPart ++ usagePart ++ helpPart

namespace Misuse

/-- The message of a misuse. -/
def message : Misuse → String
  | unknownArgument scope arg hint given =>
    let what := "unexpected argument " ++ quote arg ++ " found"
    match hint with
    | .none => compose what none [] (some (scope.usageWith given)) scope.offersHelp
    | .similar flag =>
      let shown := if given.contains flag then given else given ++ [flag]
      compose what (some ("argument", ["--" ++ flag.long])) []
        (some (scope.usageWith shown)) scope.offersHelp
    | .elsewhere command flag =>
      compose what none [quote (command.name ++ " --" ++ flag.long) ++ " exists"]
        (some (scope.usageWith given)) scope.offersHelp
  | unexpectedValue scope flag value given =>
    let shown := if given.contains flag then given else given ++ [flag]
    compose ("unexpected value " ++ quote value ++ " for " ++ quote ("--" ++ flag.long) ++
      " found; no more were expected") none [] (some (scope.usageWith shown)) scope.offersHelp
  | missingValue flag =>
    compose ("a value is required for " ++ quote flag.display ++ " but none was supplied")
      none [] none true
  | invalidValue flag value cause =>
    compose ("invalid value " ++ quote value ++ " for " ++ quote flag.display ++ ": " ++
      cause.message) none [] none true
  | repeated scope flag =>
    compose ("the argument " ++ quote flag.display ++ " cannot be used multiple times")
      none [] (some scope.usage) scope.offersHelp
  | unrecognizedCommand scope word =>
    compose ("unrecognized subcommand " ++ quote word) none [] (some scope.usage)
      scope.offersHelp
  | misspelledCommand word candidates =>
    compose ("unrecognized subcommand " ++ quote word) (some ("subcommand", candidates)) []
      (some Scope.top.usage) true
  | missingCommand =>
    compose ("'" ++ toolName ++ "' requires a subcommand but one was not provided\n  " ++
      "[subcommands: " ++ ", ".intercalate (Scope.top.commands.map (·.name)) ++ "]")
      none [] (some Scope.top.usage) true
  | escapedCommand word =>
    compose ("unexpected argument " ++ quote word ++ " found") none
      ["subcommand " ++ quote word ++ " exists; to use it, remove the '--' before it"]
      (some Scope.top.usage) true

end Misuse

end Cli

end Unwinding
