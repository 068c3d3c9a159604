import Unwinding.Environment
import Unwinding.Text.Alphanumeric
import Unwinding.Text.Blank

/-!
# `.env` files

A `.env` file binds variables, one `NAME=value` per line, optionally after `export`. A
name starts with an ASCII letter or `_` and goes on with letters, digits, `_` and `.`.
Blank lines and lines starting with `#` are skipped. A value may be quoted: in single quotes
it is taken as it stands; in double quotes, or unquoted, a backslash escapes `\`, `'`, `"`,
`$` and a blank, `\n` is a line break, and `$NAME` or `$\x7bNAME\x7d` is replaced by the
variable's value; a bare reference's name is the letters and digits of any script that
follow the `$`. Unquoted, a blank ends the value, and only a comment may follow it. A
quote left open goes on over the next lines.

Loading stops at the first line that does not read; the lines before it count. A variable
that is already set keeps its value.
-/

namespace Unwinding

namespace DotEnv

/-- Where the scan for the end of a logical line stands. -/
inductive Scan where
  | complete
  | escape
  | strongOpen
  | strongOpenEscape
  | weakOpen
  | weakOpenEscape
  | blank
  deriving DecidableEq, Inhabited, Repr

/-- Steps the scan over one character; `none` when a comment starts. -/
def Scan.step : Scan → Char → Option Scan
  | .blank, c =>
    if c == '#' then none
    else if c == '\\' then some .escape
    else if c == '"' then some .weakOpen
    else if c == '\'' then some .strongOpen
    else some .complete
  | .escape, _ => some .complete
  | .complete, c =>
    if Text.isBlank c && c != '\n' && c != '\r' then some .blank
    else if c == '\\' then some .escape
    else if c == '"' then some .weakOpen
    else if c == '\'' then some .strongOpen
    else some .complete
  | .weakOpen, c =>
    if c == '\\' then some .weakOpenEscape
    else if c == '"' then some .complete
    else some .weakOpen
  | .weakOpenEscape, _ => some .weakOpen
  | .strongOpen, c =>
    if c == '\\' then some .strongOpenEscape
    else if c == '\'' then some .complete
    else some .strongOpen
  | .strongOpenEscape, _ => some .strongOpen

/-- Scans one physical line from `state`: the part before a comment and the state at its
end, or `none` for the state when a comment cut the line. -/
def scanLine (state : Scan) : List Char → List Char × Option Scan
  | [] => ([], some state)
  | c :: rest =>
    match state.step c with
    | none => ([], none)
    | some next =>
      let (kept, final) := scanLine next rest
      (c :: kept, final)

/-- Splits a text into physical lines, each with its line break. -/
def physicalLines (cs : List Char) : List (List Char) :=
  let rec go : List Char → List Char → List (List Char)
    | [], [] => []
    | [], acc => [acc.reverse]
    | '\n' :: rest, acc => ('\n' :: acc).reverse :: go rest []
    | c :: rest, acc => go rest (c :: acc)
  go cs []

/-- Drops one final line break, and a carriage return before it. -/
def dropBreak (cs : List Char) : List Char :=
  match cs.reverse with
  | '\n' :: '\r' :: rest => rest.reverse
  | '\n' :: rest => rest.reverse
  | _ => cs

/-- Gathers one logical line from physical ones: a line whose quote is still open goes on
over the next. `none` marks a text that ends inside a quote. Returns the lines left. -/
def gather (buffer : List Char) (state : Scan) :
    List (List Char) → Option (List Char) × List (List Char)
  | [] => (none, [])
  | line :: more =>
    let joined := buffer ++ line
    if (joined.dropWhile Text.isBlank).head? == some '#' then (some [], more)
    else
      match scanLine state line with
      | (kept, none) => (some (buffer ++ kept), more)
      | (_, some .complete) => (some (dropBreak joined), more)
      | (_, some next) => gather joined next more

/-- The logical lines of a text given as physical lines; `fuel` bounds their number. -/
def logicalLines : Nat → List (List Char) → List (Option (List Char))
  | 0, _ => []
  | _, [] => []
  | fuel + 1, lines =>
    let (logical, rest) := gather [] .complete lines
    logical :: logicalLines fuel rest

/-- What a variable reference inside a value is reading. -/
inductive Reference where
  | none
  | bare
  | braced
  deriving DecidableEq, Inhabited, Repr

/-- The state of reading a value. -/
structure ValueState where
  out : String := ""
  strong : Bool := false
  weak : Bool := false
  escaped : Bool := false
  expectingEnd : Bool := false
  reference : Reference := .none
  name : String := ""
  deriving Inhabited

/-- Reads a value. `lookup` gives the value of a referenced variable. -/
def readValue (lookup : String → String) (input : List Char) : Option String :=
  let substitute (s : ValueState) : ValueState :=
    { s with out := s.out ++ lookup s.name, name := "" }
  let rec go : ValueState → List Char → Option ValueState
    | s, [] => some s
    | s, c :: rest =>
      if s.expectingEnd then
        if c == ' ' || c == '\t' then go s rest
        else if c == '#' then some s
        else none
      else if s.escaped then
        let pushed : Option Char :=
          if c == '\\' || c == '\'' || c == '"' || c == '$' || c == ' ' then some c
          else if c == 'n' then some '\n'
          else none
        match pushed with
        | some p => go { s with out := s.out.push p, escaped := false } rest
        | none => none
      else if s.strong then
        if c == '\'' then go { s with strong := false } rest
        else go { s with out := s.out.push c } rest
      else if s.reference != .none then
        if Text.isAlphanumeric c then go { s with name := s.name.push c } rest
        else if s.reference == .bare then
          if c == '{' && s.name.isEmpty then go { s with reference := .braced } rest
          else
            let s := substitute s
            if c == '$' then go { s with reference := .bare } rest
            else go { s with reference := .none, out := s.out.push c } rest
        else if c == '}' then go { substitute s with reference := .none } rest
        else go { s with name := s.name.push c } rest
      else if c == '$' then go { s with reference := .bare } rest
      else if s.weak then
        if c == '"' then go { s with weak := false } rest
        else if c == '\\' then go { s with escaped := true } rest
        else go { s with out := s.out.push c } rest
      else if c == '\'' then go { s with strong := true } rest
      else if c == '"' then go { s with weak := true } rest
      else if c == '\\' then go { s with escaped := true } rest
      else if c == ' ' || c == '\t' then go { s with expectingEnd := true } rest
      else go { s with out := s.out.push c } rest
  match go {} input with
  | none => none
  | some s =>
    if s.reference == .braced || s.strong || s.weak then none
    else some (substitute s).out

/-- Whether a character may continue a variable name. -/
def isNameChar (c : Char) : Bool := c.isAlphanum || c == '_' || c == '.'

/-- Reads a variable name at the start of the text; the rest after it. -/
def readName (cs : List Char) : Option (String × List Char) :=
  match cs with
  | c :: _ =>
    if (c.isAlpha && c.toNat < 128) || c == '_' then
      let name := cs.takeWhile fun c => isNameChar c && c.toNat < 128
      some (String.ofList name, cs.drop name.length)
    else none
  | [] => none

/-- What one logical line holds: nothing, an assignment, or an error. -/
inductive LineReading where
  | skip
  | assign (name value : String)
  | invalid
  deriving DecidableEq, Inhabited, Repr

/-- Reads one logical line. `lookup` gives the value of a referenced variable. -/
def readLine (lookup : String → String) (line : List Char) : LineReading :=
  let line := (line.reverse.dropWhile Text.isBlank).reverse.dropWhile Text.isBlank
  if line.isEmpty || line.head? == some '#' then .skip
  else
    let expectEqual (cs : List Char) : Option (List Char) :=
      match cs with
      | '=' :: rest => some rest
      | _ => none
    let assignment : Option (String × List Char) :=
      (readName line).bind fun (name, rest) =>
        let rest := rest.dropWhile Text.isBlank
        if name == "export" then
          match expectEqual rest with
          | some after => some (name, after)
          | none =>
            (readName rest).bind fun (name, rest) =>
              (expectEqual (rest.dropWhile Text.isBlank)).map (name, ·)
        else (expectEqual rest).map (name, ·)
    match assignment with
    | none => .invalid
    | some (name, rest) =>
      let rest := rest.dropWhile Text.isBlank
      if rest.isEmpty || rest.head? == some '#' then .assign name ""
      else
        match readValue lookup rest with
        | some value => .assign name value
        | none => .invalid

/-- Loads the bindings of a `.env` text into an environment: variables already set keep
their values, and loading stops at the first line that does not read. -/
def load (env : Environment) (text : String) : Environment :=
  let cs := match text.toList with
    | '\uFEFF' :: rest => rest
    | cs => cs
  let step (acc : Environment × List (String × String) × Bool) (line : Option (List Char)) :=
    let (env, seen, stopped) := acc
    if stopped then acc
    else
      match line with
      | none => (env, seen, true)
      | some line =>
        let lookup (name : String) : String :=
          (env.get? name).getD ((seen.lookup name).getD "")
        match readLine lookup line with
        | .skip => acc
        | .invalid => (env, seen, true)
        | .assign name value =>
          (env.setIfAbsent name value, (name, value) :: seen.filter (·.1 != name), false)
  let physical := physicalLines cs
  ((logicalLines physical.length physical).foldl step (env, [], false)).1

end DotEnv

end Unwinding
