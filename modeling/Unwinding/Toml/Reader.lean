import Unwinding.Toml.Lexical
import Unwinding.Toml.Document

/-!
# Reading a TOML document

A document is a sequence of comments, blank lines, table headers and key/value pairs;
headers and pairs end their line. A value is read by its first character: quotes start a
string, `[` an array, `{` an inline table, a digit or sign a date, float or integer, and a
few letters a boolean, `inf` or `nan`. Arrays and inline tables nest at most 79 deep.

A failure is reported with its line and column, the line itself and a mark under the
character where it happened (its width in bytes, within the line), then the message.
-/

namespace Unwinding

namespace Toml

open Unwinding.Parser

/-- A parser whose failures read as a missing string: the fallback for values. -/
def asString {α : Type} (p : Parser α) : Parser α :=
  expect (.char '\'') (expect (.char '"') (label "string" p))

/-- A final failure in place: nesting too deep. -/
def tooDeepHere {α : Type} : Parser α := fun cs =>
  .error { rest := cs, final := true, cause := some tooDeep }

/-- An array whose items are read by `item`. -/
def arrayWith (item : Parser Value) : Parser (List Value) := do
  char '['
  let items ← cut do
    let vs ← opt do
      let vs ← sepBy1 (do wsCommentNewline; let v ← item; wsCommentNewline; pure v) (char ',')
      let _ ← opt (char ',')
      pure vs
    wsCommentNewline
    pure (vs.getD [])
  expect (.char ']') (label "array" (cut (char ']')))
  pure items

/-- The `=` between a key and its value. -/
def keyvalSep : Parser Unit := expect (.char '=') (expect (.char '.') (char '='))

/-- An inline table whose values are read by `item`. -/
def inlineTableWith (item : Parser Value) : Parser Value := do
  char '{'
  let t ← cut (check (do
      let pairs ← sepBy (do
          let keys ← key
          cut do
            keyvalSep
            ws
            let v ← item
            ws
            pure (keys, v)) (char ',')
      ws
      pure pairs) fun pairs => (tableFromPairs pairs).mapError PlacementError.message)
  expect (.char '}') (label "inline table" (cut (char '}')))
  pure t

/-- A value whose arrays and inline tables are read by the parsers given. -/
def valueWith (nestedArray nestedTable : Parser Value) : Parser Value := fun cs =>
  match cs with
  | '"' :: _ | '\'' :: _ => (string.map .string) cs
  | '[' :: _ => nestedArray cs
  | '{' :: _ => nestedTable cs
  | c :: _ =>
    if c == '+' || c == '-' || c.isDigit then
      alt (dateTime.map .datetime) (alt (float.map .float) (integer.map .integer)) cs
    else if c == '_' then expect (.description "leading digit") (integer.map .integer) cs
    else if c == '.' then expect (.description "leading digit") (float.map .float) cs
    else if c == 't' then asString (trueValue.map .boolean) cs
    else if c == 'f' then asString (falseValue.map .boolean) cs
    else if c == 'i' then asString ((literal "inf").map fun _ => .float infinity) cs
    else if c == 'n' then asString ((literal "nan").map fun _ => .float notANumber) cs
    else asString fail cs
  | [] => .error { rest := [] }

/-- A value with `budget` more levels of arrays and inline tables allowed inside it. -/
def value : Nat → Parser Value
  | 0 => valueWith tooDeepHere tooDeepHere
  | b + 1 => valueWith ((arrayWith (value b)).map .array) (inlineTableWith (value b))

/-- How deep arrays and inline tables may nest in a value. -/
def nestingBudget : Nat := 79

/-- What ends a value's or a header's line. -/
def endOfLine : Parser Unit := expect (.char '#') (expect (.char '\n') lineTrailing)

/-- A key/value pair on its line. -/
def keyval : Parser (List String × Value) := do
  let keys ← key
  cut do
    keyvalSep
    ws
    let v ← value nestingBudget
    endOfLine
    pure (keys, v)

/-- A key/value pair, placed in the table being filled. -/
def placedKeyval (st : DocState) : Parser DocState :=
  check keyval fun (keys, v) => (st.addKeyval keys v).mapError PlacementError.message

/-- A header `[a.b]` on its line, opening its table. -/
def stdTable (st : DocState) : Parser DocState :=
  check (do
      char '['
      let keys ← cut key
      expect (.literal "]") (expect (.char '.') (cut (char ']')))
      cut endOfLine
      pure keys) fun keys => (st.openTable keys).mapError PlacementError.message

/-- A header `[[a.b]]` on its line, opening a new table of its array. -/
def arrayTable (st : DocState) : Parser DocState :=
  check (do
      literal "[["
      let keys ← cut key
      expect (.literal "]]") (expect (.char '.') (cut (literal "]]")))
      cut endOfLine
      pure keys) fun keys => (st.openArrayTable keys).mapError PlacementError.message

/-- A table header of either kind; it needs two characters to tell them apart. -/
def tableHeader (st : DocState) : Parser DocState :=
  label "table header" fun cs =>
    match cs with
    | '[' :: '[' :: _ => arrayTable st cs
    | _ :: _ :: _ => stdTable st cs
    | _ => .error { rest := cs }

/-- Reads the statements of a document from the start of one, after its blanks. -/
def statementsFrom (st : DocState) (cs : List Char) : Except Failure DocState :=
  match cs.head? with
  | none => .ok st
  | some c =>
    let step : Except Failure (DocState × List Char) :=
      if c == '#' then ((cut (do comment; lineEnding)).map fun _ => st) cs
      else if c == '[' then cut (tableHeader st) cs
      else if c == '\n' || c == '\r' then
        match newline cs with
        | .ok ((), r) => .ok (st, r)
        | .error e => .error (if e.final then e else { rest := cs })
      else cut (placedKeyval st) cs
    match step with
    | .error e => .error e
    | .ok (st', r) =>
      let r := r.dropWhile isWhitespace
      if r.length < cs.length then statementsFrom st' r else .ok st'
termination_by cs.length

/-- Reads a document into its state, a leading byte order mark dropped. -/
def readDocument (cs : List Char) : Except Failure DocState :=
  let body := match cs with
    | '﻿' :: rest => rest
    | _ => cs
  statementsFrom {} (body.dropWhile isWhitespace)

/-- The number of characters after the last line break of a text. -/
def lastLineLength (cs : List Char) : Nat := (cs.reverse.takeWhile (· != '\n')).length

/-- Where a failure stands as a line and a column from zero: the characters before it on its
line, or their bytes when the character there is outside ASCII; at the end of the input, one
past the last character. -/
def locate (text : List Char) (offset : Nat) : Nat × Nat :=
  if offset < text.length then
    let before := text.take offset
    let lineChars := before.drop (before.length - lastLineLength before)
    let column :=
      if (text.getD offset ' ').toNat < 0x80 then lineChars.length
      else lineChars.foldl (fun width c => width + c.utf8Size) 0
    (before.count '\n', column)
  else
    let before := text.take (text.length - 1)
    let lineStart := before.length - lastLineLength before
    (before.count '\n', text.length - lineStart)

/-- The full report of a reading failure, as it is shown to the user. -/
def report (text : List Char) (e : Failure) : String :=
  let offset := text.length - e.rest.length
  let (line, column) := locate text offset
  let lines := (String.ofList text).splitOn "\n"
  let content := lines.getD line ""
  let width := match e.rest with
    | c :: _ => c.utf8Size
    | [] => 0
  let marks := max 1 (min width (content.utf8ByteSize - column))
  let number := toString (line + 1)
  let gutter := String.ofList (List.replicate (number.length + 1) ' ')
  "TOML parse error at line " ++ number ++ ", column " ++ toString (column + 1) ++ "\n" ++
    gutter ++ "|\n" ++
    number ++ " | " ++ content ++ "\n" ++
    gutter ++ "|" ++ String.ofList (List.replicate (column + 1) ' ') ++
    String.ofList (List.replicate marks '^') ++ "\n" ++
    e.message ++ "\n"

/-- Reads a TOML document into its top-level table. The error is the full report, or for
a table that cannot be put in place at the end, its message alone. -/
def parse (text : String) : Except String (List (String × Value)) :=
  let cs := text.toList
  match readDocument cs with
  | .error e => .error (report cs e)
  | .ok st =>
    match st.finalize with
    | .ok st => .ok (entriesToValue st.root.entries)
    | .error p => .error (p.message ++ "\n")

end Toml

end Unwinding
