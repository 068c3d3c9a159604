import Unwinding.Cli.Invocation
import Unwinding.Cli.Misuse
import Unwinding.Text.Similarity

/-!
# Reading the command line

The arguments are read from the left, one level at a time: first the options before the
command, then the command and its options. An option's value is attached (`--frames=3`,
`-n3`) or is the next argument, unless that argument looks like an option itself; `--` ends
the options of a level. An option waiting for its value takes the next plain argument even
when it is a command name.

A value that has been seen is only checked when the next option is read, when the level
ends, or when a command begins; an unknown argument found first is reported first. Options
given before the command and inside it both count, and the one inside wins.
-/

namespace Unwinding

namespace Cli

/-- How reading ends without an invocation. -/
inductive Stop where
  /-- A help page was asked for. -/
  | help (scope : Scope)
  /-- Nothing was given at all: the tool shows its page as an error. -/
  | bare
  /-- The command line is wrong. -/
  | misuse (m : Misuse)
  deriving DecidableEq, Inhabited, Repr

/-- The options read so far at one level. -/
structure Given where
  /-- The options given, in the order they first appeared. -/
  present : List Flag := []
  configPath : Option String := none
  maxDepth : Option Nat := none
  frames : Option Nat := none
  json : Bool := false
  /-- An option read but not yet taken, with its value once seen. -/
  pending : Option (Flag × Option String) := none
  /-- Whether `--` has ended the options of the level. -/
  escaped : Bool := false
  deriving DecidableEq, Inhabited, Repr

namespace Given

/-- Whether an option waits for its value. -/
def waiting (g : Given) : Bool :=
  match g.pending with
  | some (_, none) => true
  | _ => false

/-- Takes an option with its value, if it has one. A switch or option given twice is an
error and is forgotten; an option without its value, or with a value that is no count, is
an error; `--help` stops with the level's page. -/
def take (scope : Scope) (g : Given) (flag : Flag) (value : Option String) :
    Given × Option Stop :=
  let twice := ({ g with present := g.present.erase flag }, some (Stop.misuse (.repeated scope flag)))
  match flag, value with
  | .help, _ => (g, some (.help scope))
  | .json, _ =>
    if g.present.contains .json then twice
    else ({ g with present := g.present ++ [.json], json := true }, none)
  | f, none => (g, some (.misuse (.missingValue f)))
  | f, some v =>
    if g.present.contains f then twice
    else
      let g := { g with present := g.present ++ [f] }
      match f with
      | .config => ({ g with configPath := some v }, none)
      | .maxDepth =>
        match readCount v with
        | .ok n => ({ g with maxDepth := some n }, none)
        | .error e => (g, some (.misuse (.invalidValue f v e)))
      | _ =>
        match readCount v with
        | .ok n => ({ g with frames := some n }, none)
        | .error e => (g, some (.misuse (.invalidValue f v e)))

/-- Takes the pending option, if any. -/
def settle (scope : Scope) (g : Given) : Given × Option Stop :=
  match g.pending with
  | none => (g, none)
  | some (f, v) => take scope { g with pending := none } f v

/-- Takes the pending option, then `flag`. -/
def react (scope : Scope) (g : Given) (flag : Flag) (value : Option String) :
    Except Stop Given :=
  match g.settle scope with
  | (_, some stop) => .error stop
  | (g, none) =>
    match g.take scope flag value with
    | (_, some stop) => .error stop
    | (g, none) => .ok g

/-- Takes the pending option and starts waiting for the value of `flag`. -/
def await (scope : Scope) (g : Given) (flag : Flag) : Except Stop Given :=
  match g.settle scope with
  | (_, some stop) => .error stop
  | (g, none) => .ok { g with pending := some (flag, none) }

end Given

/-- The option of another command that a mistyped long name may have meant: the command
named earliest among the arguments that follow. -/
def elsewhereHint (word : String) (rest : List String) : Hint :=
  let found := Scope.top.commands.filterMap fun sub =>
    match Text.mostSimilar? word (sub.flags.map (·.long)), rest.idxOf? sub.name with
    | some long, some position =>
      match sub.flagNamed? long with
      | some flag => some (position, sub, flag)
      | none => none
    | _, _ => none
  match found.foldl (fun best x =>
      match best with
      | some b => if x.1 < b.1 then some x else some b
      | none => some x) none with
  | some (_, sub, flag) => .elsewhere sub flag
  | none => .none

/-- The error for an unknown long option `--word`. Options read so far are taken first,
so that the usage line can show them. -/
def unknownLong (scope : Scope) (g : Given) (word : String) (rest : List String) : Stop :=
  let g := (g.settle scope).1
  let hint :=
    match Text.mostSimilar? word (scope.flags.map (·.long)) with
    | some long =>
      match scope.flagNamed? long with
      | some flag => Hint.similar flag
      | none => .none
    | none => if scope == .top then elsewhereHint word rest else .none
  .misuse (.unknownArgument scope ("--" ++ word) hint g.present)

/-- The error for an argument that is neither an option nor, where one may stand, a
command. -/
def unexpectedWord (scope : Scope) (g : Given) (word : String) : Stop :=
  if scope == .top then
    if g.escaped && (Scope.top.command? word).isSome then .misuse (.escapedCommand word)
    else
      match Text.similarNames word (Scope.top.commands.map (·.name)) with
      | [] => .misuse (.unrecognizedCommand .top word)
      | candidates => .misuse (.misspelledCommand word candidates)
  else .misuse (.unknownArgument scope word .none [])

/-- Reads a cluster of one-letter options such as `-n3`: a letter that takes a value takes
the rest of the cluster, after an optional `=`, or else the next argument. -/
def readCluster (scope : Scope) : Given → List Char → Except Stop Given
  | g, [] => .ok g
  | g, c :: more =>
    match scope.flagLettered? c with
    | none => .error (.misuse (.unknownArgument scope ("-" ++ String.singleton c) .none []))
    | some flag =>
      if flag.takesValue then
        match more with
        | [] => g.await scope flag
        | '=' :: value => g.react scope flag (some (String.ofList value))
        | value => g.react scope flag (some (String.ofList value))
      else
        match g.react scope flag none with
        | .error stop => .error stop
        | .ok g => readCluster scope g more

/-- Reads a long option `--name` or `--name=value`. -/
def readLong (scope : Scope) (g : Given) (body : String) (rest : List String) :
    Except Stop Given :=
  let (word, value) := match body.splitOn "=" with
    | [] => ("", none)
    | [w] => (w, none)
    | w :: more => (w, some ("=".intercalate more))
  match scope.flagNamed? word with
  | none => .error (unknownLong scope g word rest)
  | some flag =>
    if flag.takesValue then
      match value with
      | some v => g.react scope flag (some v)
      | none => g.await scope flag
    else
      match value with
      | some v => .error (.misuse (.unexpectedValue scope flag v g.present))
      | none => g.react scope flag none

/-- Reads the arguments of one level. At the top level a command name ends the level and
is returned with the arguments after it. -/
def readLevel (scope : Scope) : Given → List String → Except Stop (Given × Option (Scope × List String))
  | g, [] => .ok (g, none)
  | g, arg :: rest =>
    match (if g.escaped || g.waiting then none else scope.command? arg) with
    | some sub => .ok (g, some (sub, rest))
    | none =>
      let positional : Except Stop Given :=
        if !g.escaped && g.waiting then
          .ok { g with pending := g.pending.map fun (f, _) => (f, some arg) }
        else .error (unexpectedWord scope g arg)
      let step : Except Stop Given :=
        if g.escaped then positional
        else if arg == "--" then .ok { g with escaped := true }
        else if arg.startsWith "--" then readLong scope g (arg.drop 2).toString rest
        else if arg.startsWith "-" && arg.length > 1 then readCluster scope g (arg.toList.drop 1)
        else positional
      match step with
      | .error stop => .error stop
      | .ok g => readLevel scope g rest

/-- The page that `help` followed by command names asks for. -/
def helpTarget : Scope → List String → Stop
  | s, [] => .help s
  | s, word :: more =>
    match s.command? word with
    | some t => helpTarget t more
    | none => .misuse (.unrecognizedCommand s word)

/-- Ends a level: the pending option is taken. -/
def finishLevel (scope : Scope) (g : Given) : Except Stop Given :=
  match g.settle scope with
  | (_, some stop) => .error stop
  | (g, none) => .ok g

/-- Reads a command line, the tool's name left out. -/
def readCommandLine (args : List String) : Except Stop Invocation :=
  match readLevel .top {} args with
  | .error stop => .error stop
  | .ok (top, none) =>
    match finishLevel .top top with
    | .error stop => .error stop
    | .ok top => .error (if top.present.isEmpty then .bare else .misuse .missingCommand)
  | .ok (top, some (sub, rest)) =>
    if sub == .help then .error (helpTarget .top rest)
    else
      match readLevel sub {} rest with
      | .error stop => .error stop
      | .ok (inner, _) =>
        match finishLevel sub inner, finishLevel .top top with
        | .error stop, _ => .error stop
        | _, .error stop => .error stop
        | .ok inner, .ok top =>
          let command :=
            if sub == .probe then Command.probe (inner.frames.getD defaultFrames) inner.json
            else .config
          .ok { command
                configPath := inner.configPath <|> top.configPath
                maxDepth := inner.maxDepth <|> top.maxDepth }

/-- How a run whose command line did not read ends: a help page asked for is written on
standard output with status 0, and an error on standard error with status 2. -/
def Stop.exit : Stop → Exit
  | .help scope => { status := 0, stdout := helpPage scope }
  | .bare => { status := 2, stderr := helpPage .top }
  | .misuse m => { status := 2, stderr := m.message }

end Cli

end Unwinding
