import Unwinding.Decimal.Read
import Unwinding.Parser
import Unwinding.Toml.Value

/-!
# TOML lexical grammar

Whitespace, comments and line breaks; keys; the four kinds of strings; integers in four
bases, floats, booleans and dates and times, as parsers of the TOML grammar.

Where the grammar commits matters for errors: once a string's opening quote, a base prefix,
an escape's backslash, a date's first dash or a time's first colon has been read, a failure
is final and is reported where it happened. Characters outside ASCII are accepted in
comments and strings as they are.
-/

namespace Unwinding

namespace Toml

open Unwinding.Parser

/-! ## Whitespace and comments -/

/-- Space or tab. -/
def isWhitespace (c : Char) : Bool := c == ' ' || c == '\t'

/-- Whether a character lies outside ASCII. -/
def isNonAscii (c : Char) : Bool := c.toNat ≥ 0x80

/-- Characters of a comment: tab, printable ASCII and everything outside ASCII. -/
def isCommentChar (c : Char) : Bool :=
  c == '\t' || (0x20 ≤ c.toNat && c.toNat ≤ 0x7E) || isNonAscii c

/-- Spaces and tabs, perhaps none. -/
def ws : Parser Unit := void (takeWhile isWhitespace)

/-- A comment, up to its line break. -/
def comment : Parser Unit := do
  char '#'
  void (takeWhile isCommentChar)

/-- A line break, `LF` or `CR LF`. The character read in search of it is consumed when it
is in ASCII; one outside ASCII is reported at its start. -/
def newline : Parser Unit := fun cs =>
  match cs with
  | '\n' :: r => .ok ((), r)
  | '\r' :: '\n' :: r => .ok ((), r)
  | '\r' :: r => .error { rest := r }
  | c :: r => .error { rest := if isNonAscii c then c :: r else r }
  | [] => .error { rest := [] }

/-- Spaces, tabs and line breaks, perhaps none. -/
def wsNewline : Parser Unit := void (many (alt newline (void (takeWhile1 isWhitespace))))

/-- A line break, then spaces, tabs and line breaks. -/
def wsNewlines : Parser Unit := do
  newline
  wsNewline

/-- Blanks, line breaks and comments, each comment ended by its line break. -/
def wsCommentNewlineFrom (cs : List Char) : Except Failure (Unit × List Char) :=
  let r := cs.dropWhile isWhitespace
  let step : Option (Except Failure (Unit × List Char)) :=
    match r with
    | '#' :: _ => some ((do comment; newline) r)
    | '\n' :: _ | '\r' :: _ => some (newline r)
    | _ => none
  match step with
  | none => .ok ((), r)
  | some (.error e) => .error e
  | some (.ok ((), r')) => if r'.length < cs.length then wsCommentNewlineFrom r' else .ok ((), r')
termination_by cs.length

/-- Blanks, line breaks and comments between the items of an array. -/
def wsCommentNewline : Parser Unit := wsCommentNewlineFrom

/-- A line break or the end of the input. -/
def lineEnding : Parser Unit := alt newline eof

/-- What may follow a value or a header on its line: blanks, a comment, the line's end. -/
def lineTrailing : Parser Unit := do
  ws
  let _ ← opt comment
  lineEnding

/-! ## Strings -/

/-- Characters a basic string holds as they are. -/
def isBasicUnescaped (c : Char) : Bool :=
  isWhitespace c || c == '!' || (0x23 ≤ c.toNat && c.toNat ≤ 0x5B) ||
    (0x5D ≤ c.toNat && c.toNat ≤ 0x7E) || isNonAscii c

/-- Characters a literal string holds: all of a comment's but the single quote. -/
def isLiteralChar (c : Char) : Bool := isCommentChar c && c != '\''

/-- Hexadecimal digits. -/
def isHexDigit (c : Char) : Bool :=
  c.isDigit || ('a' ≤ c && c ≤ 'f') || ('A' ≤ c && c ≤ 'F')

/-- The value of a hexadecimal digit. -/
def hexDigitValue (c : Char) : Nat :=
  if c.isDigit then c.toNat - '0'.toNat
  else if 'a' ≤ c && c ≤ 'f' then c.toNat - 'a'.toNat + 10
  else c.toNat - 'A'.toNat + 10

/-- The value of digits in a base. -/
def digitsIn (base : Nat) (ds : List Char) : Nat :=
  ds.foldl (fun acc c => acc * base + hexDigitValue c) 0

/-- The reason a number or code point is refused for its size. -/
def outOfRange : String := "value is out of range"

/-- Exactly `width` hexadecimal digits naming a Unicode scalar value. -/
def hexEscape (width : Nat) : Parser Char :=
  check (verify (takeBetween isHexDigit 0 width) (·.length == width)) fun ds =>
    let n := digitsIn 16 ds
    if n < 0xD800 || (0xE000 ≤ n && n ≤ 0x10FFFF) then .ok (Char.ofNat n) else .error outOfRange

/-- The letters an escape may have after its backslash. -/
def escapeLetters : List Char := ['b', 'f', 'n', 'r', 't', 'u', 'U', '\\', '"']

/-- What follows the backslash of an escape. -/
def escapeSeqChar : Parser Char := fun cs =>
  match cs with
  | 'b' :: r => .ok ('\x08', r)
  | 'f' :: r => .ok ('\x0c', r)
  | 'n' :: r => .ok ('\n', r)
  | 'r' :: r => .ok ('\r', r)
  | 't' :: r => .ok ('\t', r)
  | '\\' :: r => .ok ('\\', r)
  | '"' :: r => .ok ('"', r)
  | 'u' :: r => label "unicode 4-digit hex code" (cut (hexEscape 4)) r
  | 'U' :: r => label "unicode 8-digit hex code" (cut (hexEscape 8)) r
  | c :: r =>
    .error { rest := if isNonAscii c then c :: r else r, final := true,
             labels := ["escape sequence"], expected := escapeLetters.map .char }
  | [] => .error { rest := [] }

/-- An escape: a backslash and what follows it. -/
def escaped : Parser Char := do
  char '\\'
  escapeSeqChar

/-- A run of plain characters or one escape of a basic string. -/
def basicChars : Parser String :=
  alt ((takeWhile1 isBasicUnescaped).map String.ofList) (escaped.map Char.toString)

/-- A basic string: `"…"` with escapes. -/
def basicString : Parser String := do
  char '"'
  let parts ← many basicChars
  label "basic string" (cut (char '"'))
  pure (String.join parts)

/-- A backslash at the end of a line in a multi-line basic string, with the blanks and line
breaks after it, which are dropped. -/
def mlbEscapedNewline : Parser Unit := void (many1 (do char '\\'; ws; wsNewlines))

/-- A run of plain characters, a dropped line end, an escape or a line break of a
multi-line basic string. -/
def mlbContent : Parser String :=
  alt ((takeWhile1 isBasicUnescaped).map String.ofList)
    (alt (mlbEscapedNewline.map fun _ => "")
      (alt (escaped.map Char.toString) (newline.map fun _ => "\n")))

/-- One or two copies of the quote `q` inside a multi-line string, when `term` follows. -/
def innerQuotes (q : Char) (term : Parser Unit) : Parser String := fun cs =>
  match (do char q; char q; peek term) cs with
  | .ok ((), r) => .ok (String.ofList [q, q], r)
  | .error e =>
    if e.final then .error e
    else
      match (do char q; peek term) cs with
      | .ok ((), r) => .ok (q.toString, r)
      | .error e => .error e

/-- The rest of a multi-line basic body: quotes followed by more content, repeatedly.
Quotes that no content follows end the body, consumed but not kept. -/
def mlbQuotedRuns (acc : String) (cs : List Char) : Except Failure (String × List Char) :=
  match opt (innerQuotes '"' (noneOf '"')) cs with
  | .error e => .error e
  | .ok (none, r) => .ok (acc, r)
  | .ok (some q, r) =>
    match opt mlbContent r with
    | .error e => .error e
    | .ok (none, r') => .ok (acc, r')
    | .ok (some c, r') =>
      match many mlbContent r' with
      | .error e => .error e
      | .ok (more, r'') =>
        if r''.length < cs.length then mlbQuotedRuns (acc ++ q ++ c ++ String.join more) r''
        else .ok (acc, r'')
termination_by cs.length

/-- The body of a multi-line basic string. -/
def mlbBody : Parser String := do
  let first ← many mlbContent
  let body ← mlbQuotedRuns (String.join first)
  let tail ← opt (innerQuotes '"' (literal "\"\"\""))
  pure (body ++ tail.getD "")

/-- A multi-line basic string: `"""…"""`, a line break right after the opening dropped. -/
def mlBasicString : Parser String :=
  label "multiline basic string" do
    literal "\"\"\""
    let _ ← opt newline
    let body ← cut mlbBody
    cut (literal "\"\"\"")
    pure body

/-- A literal string: `'…'` without escapes. -/
def literalString : Parser String :=
  label "literal string" do
    char '\''
    let body ← cut (takeWhile isLiteralChar)
    cut (char '\'')
    pure (String.ofList body)

/-- A character or line break of a multi-line literal string. -/
def mllContent : Parser Unit := alt (void (satisfy isLiteralChar)) newline

/-- Line breaks `CR LF` as `LF`. -/
def normalizeBreaks : List Char → List Char
  | '\r' :: '\n' :: rest => '\n' :: normalizeBreaks rest
  | c :: rest => c :: normalizeBreaks rest
  | [] => []

/-- The body of a multi-line literal string. -/
def mllBody : Parser String :=
  (consumed do
    let _ ← many mllContent
    let _ ← many (do let _ ← innerQuotes '\'' (noneOf '\''); many1 mllContent)
    let _ ← opt (innerQuotes '\'' (literal "'''"))
    pure ()).map fun cs => String.ofList (normalizeBreaks cs)

/-- A multi-line literal string: `'''…'''`, a line break right after the opening dropped. -/
def mlLiteralString : Parser String :=
  label "multiline literal string" do
    literal "'''"
    let _ ← opt newline
    let body ← cut mllBody
    cut (literal "'''")
    pure body

/-- A string of any of the four kinds. -/
def string : Parser String :=
  alt mlBasicString (alt basicString (alt mlLiteralString literalString))

/-! ## Keys -/

/-- Characters of a bare key. -/
def isUnquotedKeyChar (c : Char) : Bool := c.isAlphanum || c == '-' || c == '_'

/-- One key: bare, or a basic or literal string. -/
def simpleKey : Parser String := fun cs =>
  match cs with
  | '"' :: _ => basicString cs
  | '\'' :: _ => literalString cs
  | _ :: _ => ((takeWhile1 isUnquotedKeyChar).map String.ofList) cs
  | [] => .error { rest := [] }

/-- The most keys a dotted key may have. -/
def keyDepthLimit : Nat := 80

/-- The reason nesting too deep is refused. -/
def tooDeep : String := "recursion limit exceeded"

/-- A dotted key: keys joined by dots, each with blanks around it. -/
def key : Parser (List String) :=
  check (label "key" (sepBy1 (do ws; let k ← simpleKey; ws; pure k) (char '.'))) fun ks =>
    if ks.length < keyDepthLimit then .ok ks else .error tooDeep

/-! ## Numbers and booleans -/

/-- A decimal digit. -/
def digit : Parser Unit := void (satisfy Char.isDigit)

/-- Digits of a number after its first, with single underscores between them. -/
def digitRun (isDigit : Char → Bool) : Parser Unit :=
  void (many (alt (void (satisfy isDigit))
    (do char '_'; expect (.description "digit") (cut (void (satisfy isDigit))))))

/-- A sign. -/
def sign : Parser Char := satisfy fun c => c == '+' || c == '-'

/-- The text of a decimal integer: a sign, then `0` or digits not starting with `0`. -/
def decInt : Parser (List Char) :=
  label "integer" (consumed do
    let _ ← opt sign
    alt (do let _ ← satisfy (fun c => '1' ≤ c && c ≤ '9'); digitRun Char.isDigit) digit)

/-- Digits that may start with `0`, with single underscores between them. -/
def zeroPrefixableInt : Parser Unit := do
  digit
  digitRun Char.isDigit

/-- An exponent. -/
def exponent : Parser Unit := do
  let _ ← satisfy fun c => c == 'e' || c == 'E'
  let _ ← opt sign
  cut zeroPrefixableInt

/-- A fraction. -/
def fraction : Parser Unit := do
  char '.'
  expect (.description "digit") (cut zeroPrefixableInt)

/-- The text of a float: an integer part, then an exponent, or a fraction and perhaps an
exponent. -/
def floatText : Parser (List Char) :=
  consumed do
    let _ ← decInt
    alt exponent (do fraction; let _ ← opt exponent; pure ())

/-- The positive infinity. -/
def infinity : Float := 1.0 / 0.0

/-- A quiet NaN. -/
def notANumber : Float := 0.0 / 0.0

/-- `inf` or `nan` with an optional sign. -/
def specialFloat : Parser Float := do
  let s ← opt sign
  let f ← alt ((literal "inf").map fun _ => infinity) ((literal "nan").map fun _ => notANumber)
  pure (if s == some '-' then -f else f)

/-- The digits of a number without its underscores. -/
def withoutUnderscores (cs : List Char) : List Char := cs.filter (· != '_')

/-- A float. The decimal text is rounded to the nearest double; one too large for any is
refused, though one too large below zero is negative infinity. -/
def float : Parser Float :=
  label "floating-point number"
    (alt
      (andThen floatText fun text =>
        match Decimal.readNumber? (String.ofList (withoutUnderscores text)) with
        | some r =>
          let x := r.toFloat
          if x == infinity then .error { rest := text, final := true } else .ok (x, [])
        | none => .error { rest := text, final := true })
      specialFloat)

/-- The reason an integer too large for 64 bits is refused. -/
def tooLarge : String := "number too large to fit in target type"

/-- The reason an integer too small for 64 bits is refused. -/
def tooSmall : String := "number too small to fit in target type"

/-- An integer in the signed 64-bit range, or the reason it is not. -/
def fitInt64 (n : Int) : Except String Int :=
  if n ≥ Int.pow 2 63 then .error tooLarge
  else if n < -Int.pow 2 63 then .error tooSmall
  else .ok n

/-- Digits of a base after a prefix such as `0x`. -/
def prefixedDigits (pfx name : String) (isDigit : Char → Bool) : Parser (List Char) :=
  label name do
    literal pfx
    consumed (cut (do let _ ← satisfy isDigit; digitRun isDigit))

/-- An integer in one of the bases with a prefix. -/
def prefixedInt (pfx name : String) (base : Nat) (isDigit : Char → Bool) : Parser Int :=
  cut (check (prefixedDigits pfx name isDigit) fun ds =>
    fitInt64 (digitsIn base (withoutUnderscores ds)))

/-- The value of a decimal integer's text. -/
def decimalValue (cs : List Char) : Int :=
  let ds := withoutUnderscores cs
  match ds with
  | '-' :: rest => -(digitsIn 10 rest : Int)
  | '+' :: rest => digitsIn 10 rest
  | _ => digitsIn 10 ds

/-- An integer: hexadecimal `0x`, octal `0o`, binary `0b`, or decimal. -/
def integer : Parser Int := fun cs =>
  match cs with
  | '0' :: 'x' :: _ => prefixedInt "0x" "hexadecimal integer" 16 isHexDigit cs
  | '0' :: 'o' :: _ => prefixedInt "0o" "octal integer" 8 (fun c => '0' ≤ c && c ≤ '7') cs
  | '0' :: 'b' :: _ => prefixedInt "0b" "binary integer" 2 (fun c => c == '0' || c == '1') cs
  | _ =>
    andThen decInt (fun text =>
      match fitInt64 (decimalValue text) with
      | .ok n => .ok (n, [])
      | .error why => .error { rest := text, final := true, cause := some why }) cs

/-- `true`, once its `t` is seen. -/
def trueValue : Parser Bool := do
  let _ ← peek (char 't')
  cut (literal "true")
  pure true

/-- `false`, once its `f` is seen. -/
def falseValue : Parser Bool := do
  let _ ← peek (char 'f')
  cut (literal "false")
  pure false

/-! ## Dates and times -/

/-- Between `least` and `most` decimal digits. -/
def unsignedDigits (least most : Nat) : Parser (List Char) := takeBetween Char.isDigit least most

/-- Exactly `width` digits whose value lies between `lo` and `hi`. -/
def boundedDigits (width lo hi : Nat) : Parser Nat :=
  check (unsignedDigits width width) fun ds =>
    let d := digitsIn 10 ds
    if lo ≤ d && d ≤ hi then .ok d else .error outOfRange

/-- Whether a year is a leap year of the Gregorian calendar. -/
def isLeapYear (y : Nat) : Bool := y % 4 == 0 && (y % 100 != 0 || y % 400 == 0)

/-- The number of days in a month of a year. -/
def daysInMonth (year month : Nat) : Nat :=
  if month == 2 then (if isLeapYear year then 29 else 28)
  else if month == 4 || month == 6 || month == 9 || month == 11 then 30
  else 31

/-- A date `YYYY-MM-DD`; committed after the first dash, and the day must exist. -/
def fullDate : Parser Date := do
  let year ← (unsignedDigits 4 4).map (digitsIn 10)
  char '-'
  let month ← cut (boundedDigits 2 1 12)
  cut (char '-')
  let dayStart ← position
  let day ← cut (boundedDigits 2 1 31)
  if daysInMonth year month < day then abortAt dayStart outOfRange
  else pure { year, month, day }

/-- A fraction of a second, as nanoseconds; digits past the ninth are dropped. -/
def secondFraction : Parser Nat := do
  char '.'
  let ds ← takeWhile1 Char.isDigit
  let kept := ds.take 9
  pure (digitsIn 10 kept * Nat.pow 10 (9 - kept.length))

/-- A time `hh:mm:ss` with an optional fraction; committed after the first colon. -/
def partialTime : Parser Time := do
  let hour ← boundedDigits 2 0 23
  char ':'
  cut do
    let minute ← boundedDigits 2 0 59
    char ':'
    let second ← boundedDigits 2 0 60
    let nanosecond ← opt secondFraction
    pure { hour, minute, second, nanosecond := nanosecond.getD 0 }

/-- An offset: `Z`, or a sign and `hh:mm`. -/
def timeOffset : Parser Offset :=
  label "time offset"
    (alt ((satisfy fun c => c == 'Z' || c == 'z').map fun _ => .utc)
      (do
        let s ← sign
        let (h, m) ← cut (do
          let h ← boundedDigits 2 0 23
          char ':'
          let m ← boundedDigits 2 0 59
          pure (h, m))
        let minutes : Int := (h * 60 + m : Nat)
        pure (.minutes (if s == '-' then -minutes else minutes))))

/-- A date with an optional time and offset, or a time alone. -/
def dateTime : Parser Datetime :=
  alt
    (label "date-time" do
      let date ← fullDate
      let rest ← opt do
        let _ ← satisfy fun c => c == 'T' || c == 't' || c == ' '
        let time ← partialTime
        let offset ← opt timeOffset
        pure (time, offset)
      match rest with
      | some (time, offset) => pure { date := some date, time := some time, offset }
      | none => pure { date := some date, time := none, offset := none })
    (label "time" (partialTime.map fun t => { date := none, time := some t, offset := none }))

end Toml

end Unwinding
