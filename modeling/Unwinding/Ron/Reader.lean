import Unwinding.Decimal.Read

/-!
# Reading RON

RON writes values as they are written in code: `true` and `false`, numbers, characters in
single quotes, strings in double quotes (or raw, `r#"..."#`), `None` and `Some(v)`, the
unit `()`, lists `[a, b]`, maps `{k: v}`, and structures: a name, perhaps, then `(a, b)`
for a tuple or `(field: v)` for fields; a bare name is a unit. Commas may trail, and
comments (`//` to the end of the line, `/* ... */`, which nest) count as blanks.

Numbers are read as integers when they can be: decimal, or in hexadecimal, octal or binary
after `0x`, `0o`, `0b`, with `_` allowed between digits; an integer that does not fit 64
bits, or anything with a point or an exponent, is read as a double. An unsigned integer
beyond the signed range is kept as a double too.

A failure is reported at the line and column where reading stood when it gave up, both from
one; columns count bytes.
-/

namespace Unwinding

namespace Ron

/-- A RON value. -/
inductive Value where
  | bool (b : Bool)
  | char (c : Char)
  | map (entries : List (Value × Value))
  | int (n : Int)
  | float (x : Float)
  | option (v : Option Value)
  | string (s : String)
  | seq (items : List Value)
  | unit
  deriving Inhabited

/-- Where reading stands: the characters left, and the line and column (in bytes) of the
first of them, both from one. -/
structure Cursor where
  rest : List Char
  line : Nat := 1
  column : Nat := 1
  deriving DecidableEq, Inhabited, Repr

/-- A reading failure: where, and why. -/
structure RonError where
  line : Nat
  column : Nat
  message : String
  deriving DecidableEq, Inhabited, Repr

/-- The text of a failure. -/
def RonError.text (e : RonError) : String :=
  toString e.line ++ ":" ++ toString e.column ++ ": " ++ e.message

/-- What went wrong, as reported. -/
inductive Problem where
  | endOfInput
  | expectedArrayEnd
  | expectedComma
  | expectedChar
  | expectedFloat
  | floatUnderscore
  | expectedInteger
  | expectedOption
  | expectedOptionEnd
  | expectedMapColon
  | expectedMapEnd
  | expectedStructLike
  | expectedStructLikeEnd
  | expectedString
  | expectedStringEnd
  | expectedIdentifier
  | invalidEscape (why : String)
  | integerOutOfBounds
  | unclosedBlockComment
  | underscoreAtBeginning
  | unexpectedByte (c : Char)
  | trailingCharacters
  | expectedAttribute
  | expectedAttributeEnd
  | noSuchExtension (name : String)
  deriving DecidableEq, Inhabited, Repr

/-- A character as it is shown in a message, in single quotes with escapes. -/
def showChar (c : Char) : String :=
  let inner := match c with
    | '\'' => "\\'"
    | '\\' => "\\\\"
    | '\n' => "\\n"
    | '\r' => "\\r"
    | '\t' => "\\t"
    | '\x00' => "\\0"
    | c => if c.toNat < 0x20 || c.toNat == 0x7F then
        "\\u\x7b" ++ String.ofList (Nat.toDigits 16 c.toNat) ++ "\x7d" else c.toString
  "'" ++ inner ++ "'"

/-- A character that may start a name. -/
def isIdentFirst (c : Char) : Bool := c.isAlpha || c == '_'

/-- A character that may continue a name. -/
def isIdentOther (c : Char) : Bool := c.isAlphanum || c == '_'

/-- A character of a raw name, written after `r#`: one that may continue a name, or `.`,
`+` or `-`. -/
def isIdentRaw (c : Char) : Bool := isIdentOther c || c == '.' || c == '+' || c == '-'

/-- How a name is shown in a message: as it is, or after `r#` when only the raw form can
spell it. -/
def showIdentifier (name : String) : String :=
  match name.toList with
  | first :: more => if isIdentFirst first && more.all isIdentOther then name else "r#" ++ name
  | [] => name

/-- The message of a problem. -/
def Problem.message : Problem → String
  | endOfInput => "Unexpected end of RON"
  | expectedArrayEnd => "Expected closing `]`"
  | expectedComma => "Expected comma"
  | expectedChar => "Expected char"
  | expectedFloat => "Expected float"
  | floatUnderscore => "Unexpected underscore in float"
  | expectedInteger => "Expected integer"
  | expectedOption => "Expected option"
  | expectedOptionEnd => "Expected closing `)`"
  | expectedMapColon => "Expected colon"
  | expectedMapEnd => "Expected closing `\x7d`"
  | expectedStructLike => "Expected opening `(`"
  | expectedStructLikeEnd => "Expected closing `)`"
  | expectedString => "Expected string"
  | expectedStringEnd => "Expected end of string"
  | expectedIdentifier => "Expected identifier"
  | invalidEscape why => why
  | integerOutOfBounds => "Integer is out of bounds"
  | unclosedBlockComment => "Unclosed block comment"
  | underscoreAtBeginning => "Unexpected leading underscore in an integer"
  | unexpectedByte c => "Unexpected byte " ++ showChar c
  | trailingCharacters => "Non-whitespace trailing characters"
  | expectedAttribute => "Expected an `#![enable(...)]` attribute"
  | expectedAttributeEnd => "Expected closing `)]` after the enable attribute"
  | noSuchExtension name => "No RON extension named " ++ showIdentifier name

namespace Cursor

/-- The failure of a problem where the cursor stands. -/
def fail (c : Cursor) (p : Problem) : RonError :=
  { line := c.line, column := c.column, message := p.message }

/-- Fails with a problem where the cursor stands. -/
def throwHere {α : Type} (c : Cursor) (p : Problem) : Except RonError α := .error (c.fail p)

/-- The next character. -/
def peek (c : Cursor) : Option Char := c.rest.head?

/-- The next character, which must be there. -/
def peekOrEnd (c : Cursor) : Except RonError Char :=
  match c.rest with
  | ch :: _ => .ok ch
  | [] => c.throwHere .endOfInput

/-- Moves past one character. -/
def advance (c : Cursor) : Cursor :=
  match c.rest with
  | [] => c
  | '\n' :: r => { rest := r, line := c.line + 1, column := 1 }
  | ch :: r => { c with rest := r, column := c.column + ch.utf8Size }

/-- Moves past `n` characters. -/
def advanceBy : Nat → Cursor → Cursor
  | 0, c => c
  | n + 1, c => advanceBy n c.advance

/-- Takes the next character, which must be there. -/
def eat (c : Cursor) : Except RonError (Char × Cursor) :=
  match c.rest with
  | ch :: _ => .ok (ch, c.advance)
  | [] => c.throwHere .endOfInput

/-- Whether the text left starts with `s`. -/
def startsWith (c : Cursor) (s : String) : Bool := s.toList.isPrefixOf c.rest

/-- Moves past `s` if the text left starts with it. -/
def consume? (c : Cursor) (s : String) : Option Cursor :=
  if c.startsWith s then some (c.advanceBy s.length) else none

end Cursor

/-- A character of an integer: a hexadecimal digit or `_`. -/
def isIntChar (c : Char) : Bool :=
  c.isDigit || ('a' ≤ c && c ≤ 'f') || ('A' ≤ c && c ≤ 'F') || c == '_'

/-- A character of a floating-point number. -/
def isFloatChar (c : Char) : Bool :=
  c.isDigit || c == 'e' || c == 'E' || c == '.' || c == '+' || c == '-' || c == '_'

/-- A blank. -/
def isBlank (c : Char) : Bool :=
  c == ' ' || c == '\t' || c == '\n' || c == '\r' || c == '\x0B' || c == '\x0C'

namespace Cursor

/-- Whether the text left starts with the word `w`, not followed by more of a name. -/
def checkWord (c : Cursor) (w : String) : Bool :=
  c.startsWith w &&
    match (c.rest.drop w.length).head? with
    | some ch => !isIdentOther ch
    | none => true

/-- Moves past the word `w` if it is next. -/
def consumeWord? (c : Cursor) (w : String) : Option Cursor :=
  if c.checkWord w then some (c.advanceBy w.length) else none

/-- Moves past the characters that satisfy `p`. -/
def skipWhile (p : Char → Bool) (c : Cursor) : Cursor :=
  c.advanceBy (c.rest.takeWhile p).length

/-- The rest of a block comment at nesting `level`, with `fuel` steps at most. -/
def blockComment : Nat → Nat → Cursor → Except RonError Cursor
  | 0, _, c => .ok c
  | _, 0, c => .ok c
  | fuel + 1, level + 1, c =>
    if c.rest.isEmpty then c.throwHere .unclosedBlockComment
    else
      let c := c.skipWhile fun ch => ch != '/' && ch != '*'
      match c.consume? "/*" with
      | some c => blockComment fuel (level + 2) c
      | none =>
        match c.consume? "*/" with
        | some c => blockComment fuel level c
        | none =>
          match c.rest with
          | [] => c.throwHere .unclosedBlockComment
          | _ => blockComment fuel (level + 1) c.advance

/-- Moves past blanks and comments, with `fuel` steps at most. -/
def skipBlanksFor : Nat → Cursor → Except RonError Cursor
  | 0, c => .ok c
  | fuel + 1, c =>
    let c := c.skipWhile isBlank
    match c.consume? "/" with
    | none => .ok c
    | some c =>
      match c.eat with
      | .error e => .error e
      | .ok ('/', c) => skipBlanksFor fuel (c.skipWhile (· != '\n'))
      | .ok ('*', c) =>
        match blockComment (c.rest.length + 1) 1 c with
        | .ok c => skipBlanksFor fuel c
        | .error e => .error e
      | .ok (b, c) => c.throwHere (.unexpectedByte b)

/-- Moves past blanks and comments. -/
def skipBlanks (c : Cursor) : Except RonError Cursor := skipBlanksFor (c.rest.length + 1) c

/-- Moves past blanks and comments, then a comma and more blanks if there is one; says
whether there was. -/
def comma (c : Cursor) : Except RonError (Bool × Cursor) := do
  let c ← c.skipBlanks
  match c.consume? "," with
  | some c => let c ← c.skipBlanks; pure (true, c)
  | none => pure (false, c)

/-- A name: a letter or `_` and more of them or digits; `r` before a quote or `#` starts a
raw string instead. -/
def identifier (c : Cursor) : Except RonError (String × Cursor) :=
  let word (c : Cursor) : Except RonError (String × Cursor) :=
    let name := c.rest.takeWhile isIdentOther
    .ok (String.ofList name, c.advanceBy name.length)
  match c.rest with
  | [] => c.throwHere .endOfInput
  | first :: more =>
    if !isIdentFirst first then c.throwHere .expectedIdentifier
    else if first == 'r' then
      match more with
      | [] => c.throwHere .endOfInput
      | '"' :: _ => c.throwHere .expectedIdentifier
      | '#' :: after =>
        if (after.head?.map isIdentRaw).getD false then
          let name := after.takeWhile isIdentRaw
          .ok (String.ofList name, c.advanceBy (name.length + 2))
        else c.throwHere .expectedIdentifier
      | _ => word c
    else word c

end Cursor

/-- The value of a hexadecimal digit in an escape; a failure stands at `c`. -/
def hexDigit (c : Cursor) (d : Char) : Except RonError Nat :=
  if d.isDigit then .ok (d.toNat - '0'.toNat)
  else if 'a' ≤ d && d ≤ 'f' then .ok (d.toNat - 'a'.toNat + 10)
  else if 'A' ≤ d && d ≤ 'F' then .ok (d.toNat - 'A'.toNat + 10)
  else c.throwHere (.invalidEscape "Non-hex digit found")

/-- The digits of a `\u\x7b...\x7d` escape: up to `n` more before the closing brace. -/
def unicodeDigits : Nat → Nat → Nat → Cursor → Except RonError ((Nat × Nat) × Cursor)
  | 0, acc, count, c => .ok ((acc, count), c)
  | n + 1, acc, count, c => do
    let b ← c.peekOrEnd
    if b == '\x7d' then pure ((acc, count), c)
    else
      let c := c.advance
      let d ← hexDigit c b
      unicodeDigits n (acc * 16 + d) (count + 1) c

/-- The character a backslash escape stands for; the cursor is after the backslash. -/
def escape (c : Cursor) : Except RonError (Char × Cursor) := do
  let (e, c) ← c.eat
  match e with
  | '\'' => pure ('\'', c)
  | '"' => pure ('"', c)
  | '\\' => pure ('\\', c)
  | 'n' => pure ('\n', c)
  | 'r' => pure ('\r', c)
  | 't' => pure ('\t', c)
  | '0' => pure ('\x00', c)
  | 'x' =>
    let (h, c) ← c.eat
    let h ← hexDigit c h
    let (l, c) ← c.eat
    let l ← hexDigit c l
    pure (Char.ofNat (h * 16 + l), c)
  | 'u' =>
    let (b, c) ← c.eat
    if b != '\x7b' then c.throwHere (.invalidEscape "Missing \x7b in Unicode escape")
    else
      let ((code, count), c) ← unicodeDigits 6 0 0 c
      if count == 0 then
        c.throwHere (.invalidEscape "Expected 1-6 digits, got 0 digits in Unicode escape")
      else
        let (b, c) ← c.eat
        if b != '\x7d' then c.throwHere (.invalidEscape "No \x7d at the end of Unicode escape")
        else if code < 0xD800 || (0xE000 ≤ code && code < 0x110000) then pure (Char.ofNat code, c)
        else c.throwHere (.invalidEscape "Not a valid char")
  | _ => c.throwHere (.invalidEscape "Unknown escape character")

/-- The rest of a string in double quotes, with `fuel` escapes at most. -/
def escapedString : Nat → List Char → Cursor → Except RonError (String × Cursor)
  | 0, acc, c => .ok (String.ofList acc, c)
  | fuel + 1, acc, c =>
    let plain := c.rest.takeWhile fun ch => ch != '\\' && ch != '"'
    match c.rest.drop plain.length with
    | [] => c.throwHere .expectedStringEnd
    | '"' :: _ => .ok (String.ofList (acc ++ plain), c.advanceBy (plain.length + 1))
    | _ => do
      let (ch, c) ← escape (c.advanceBy (plain.length + 1))
      escapedString fuel (acc ++ plain ++ [ch]) c

/-- Where `ending` first starts in a text. -/
def findFrom (ending : List Char) (i : Nat) : List Char → Option Nat
  | [] => none
  | cs@(_ :: rest) => if ending.isPrefixOf cs then some i else findFrom ending (i + 1) rest

/-- The rest of a raw string after its `r`. -/
def rawString (c : Cursor) : Except RonError (String × Cursor) :=
  let hashes := (c.rest.takeWhile (· == '#')).length
  let c := c.advanceBy hashes
  match c.consume? "\"" with
  | none => c.throwHere .expectedString
  | some c =>
    match findFrom ('"' :: List.replicate hashes '#') 0 c.rest with
    | none => c.throwHere .expectedStringEnd
    | some i => .ok (String.ofList (c.rest.take i), c.advanceBy (i + hashes + 1))

/-- A string, in double quotes or raw. -/
def string (c : Cursor) : Except RonError (String × Cursor) :=
  match c.consume? "\"" with
  | some c => escapedString (c.rest.length + 1) [] c
  | none =>
    match c.consume? "r" with
    | some c => rawString c
    | none => c.throwHere .expectedString

/-- A character in single quotes. -/
def char (c : Cursor) : Except RonError (Char × Cursor) := do
  let some c := c.consume? "'" | c.throwHere .expectedChar
  let b ← c.peekOrEnd
  let (ch, c) ← if b == '\\' then escape c.advance
    else
      match c.rest with
      | ch :: '\'' :: _ => pure (ch, c.advance)
      | _ => c.throwHere .expectedChar
  let some c := c.consume? "'" | c.throwHere .expectedChar
  pure (ch, c)

/-- The text left begins a floating-point number rather than an integer: after a sign,
more characters read as one than as the other. -/
def looksFloat (c : Cursor) : Bool :=
  let body := match c.rest with
    | '+' :: r | '-' :: r => r
    | r => r
  (body.takeWhile isFloatChar).length > (body.takeWhile isIntChar).length

/-- The largest signed 64-bit integer. -/
def int64Max : Int := Int.pow 2 63 - 1

/-- The digits of an integer in `base`, accumulated towards the sign, within `low` and
`high`; nothing when a digit is not one of the base or the number leaves the range. -/
def integerValue (base : Nat) (negative : Bool) (low high : Int) : List Char → Int → Option Int
  | [], acc => some acc
  | '_' :: rest, acc => integerValue base negative low high rest acc
  | d :: rest, acc =>
    let scaled := acc * base
    let v := if d.isDigit then d.toNat - '0'.toNat
      else if 'a' ≤ d && d ≤ 'f' then d.toNat - 'a'.toNat + 10
      else d.toNat - 'A'.toNat + 10
    let next := if negative then scaled - v else scaled + v
    if scaled < low || scaled > high || v ≥ base || next < low || next > high then none
    else integerValue base negative low high rest next

/-- An integer without its sign, in the range `low` to `high`; nothing when the text does
not read as one. -/
def integer (negative : Bool) (low high : Int) (c : Cursor) : Option (Int × Cursor) :=
  let base :=
    match c.rest with
    | '0' :: 'x' :: _ => 16
    | '0' :: 'b' :: _ => 2
    | '0' :: 'o' :: _ => 8
    | _ => 10
  let c := if base != 10 then c.advanceBy 2 else c
  let digits := c.rest.takeWhile isIntChar
  if digits.isEmpty || digits.head? == some '_' then none
  else (integerValue base negative low high digits 0).map fun n => (n, c.advanceBy digits.length)

/-- A floating-point number: one of the words for infinity and NaN, or a decimal. -/
def float (c : Cursor) : Except RonError (Float × Cursor) :=
  let words : List (String × Float) :=
    [("inf", 1.0 / 0.0), ("+inf", 1.0 / 0.0), ("-inf", -(1.0 / 0.0)),
      ("NaN", 0.0 / 0.0), ("+NaN", 0.0 / 0.0), ("-NaN", 0.0 / 0.0)]
  match words.find? (fun (w, _) => c.checkWord w) with
  | some (w, x) => .ok (x, c.advanceBy w.length)
  | none =>
    let text := c.rest.takeWhile isFloatChar
    if text.contains '_' then (c.advanceBy (text.takeWhile (· != '_')).length).throwHere .floatUnderscore
    else
      let after := c.advanceBy text.length
      match Decimal.readNumber? (String.ofList text) with
      | some r => .ok (r.toFloat, after)
      | none => after.throwHere .expectedFloat

/-- A number: an integer when it reads as one within 64 bits, else a double. An unsigned
integer beyond the signed range is a double. -/
def number (c : Cursor) : Except RonError (Value × Cursor) :=
  let asFloat : Except RonError (Value × Cursor) := (float c).map fun (x, c) => (.float x, c)
  if looksFloat c then asFloat
  else
    let attempt : Option (Value × Cursor) :=
      match c.rest with
      | '+' :: _ => (integer false (-Int.pow 2 63) int64Max c.advance).map fun (n, c) => (.int n, c)
      | '-' :: _ => (integer true (-Int.pow 2 63) int64Max c.advance).map fun (n, c) => (.int n, c)
      | _ =>
        (integer false 0 (Int.pow 2 64 - 1) c).map fun (n, c) =>
          if n ≤ int64Max then (.int n, c) else (.float (Float.ofNat n.toNat), c)
    match attempt with
    | some r => .ok r
    | none => asFloat

/-- Whether a parenthesis opens a tuple rather than fields: it does unless a name and a
colon follow it. `inside` stands after the parenthesis; a failure stands at `c`. -/
def opensTuple (c inside : Cursor) : Except RonError Bool :=
  let atMain (e : RonError) : RonError := { e with line := c.line, column := c.column }
  match inside.skipBlanks with
  | .error e => .error (atMain e)
  | .ok inside =>
    match inside.identifier with
    | .error _ => .ok true
    | .ok (_, after) =>
      match after.skipBlanks with
      | .error e => .error (atMain e)
      | .ok after =>
        match after.rest with
        | [] => c.throwHere .endOfInput
        | b :: _ => .ok (b != ':')

mutual

/-- A value, with `depth` more levels of nesting allowed. -/
def value : Nat → Cursor → Except RonError (Value × Cursor)
  | 0, c => c.throwHere .endOfInput
  | depth + 1, c =>
    if let some c := c.consumeWord? "true" then .ok (.bool true, c)
    else if let some c := c.consumeWord? "false" then .ok (.bool false, c)
    else if c.checkWord "Some" then someValue depth c
    else if let some c := c.consumeWord? "None" then .ok (.option none, c)
    else if let some c := c.consume? "()" then .ok (.unit, c)
    else if let some c := c.consumeWord? "inf" then .ok (.float (1.0 / 0.0), c)
    else if let some c := c.consumeWord? "-inf" then .ok (.float (-(1.0 / 0.0)), c)
    else if let some c := c.consumeWord? "NaN" then .ok (.float (0.0 / 0.0), c)
    else
      match c.identifier with
      | .ok (_, named) =>
        match named.skipBlanks with
        | .error e => .error e
        | .ok c => structureBody depth c
      | .error _ =>
        match c.peek with
        | none => c.throwHere .endOfInput
        | some '(' => structureBody depth c
        | some '[' => seqValue depth c
        | some '\x7b' => mapValue depth c
        | some '.' => (float c).map fun (x, c) => (.float x, c)
        | some '"' | some 'r' => (string c).map fun (s, c) => (.string s, c)
        | some '\'' => (char c).map fun (ch, c) => (.char ch, c)
        | some b =>
          if b.isDigit || b == '+' || b == '-' then number c
          else c.throwHere (.unexpectedByte b)

/-- `Some(v)`. -/
def someValue : Nat → Cursor → Except RonError (Value × Cursor)
  | depth, c => do
    let c := c.advanceBy 4
    let c ← c.skipBlanks
    let some c := c.consume? "(" | c.throwHere .expectedOption
    let c ← c.skipBlanks
    let (v, c) ← value depth c
    let c ← c.skipBlanks
    let some c := c.consume? ")" | c.throwHere .expectedOptionEnd
    pure (.option (some v), c)

/-- What follows a structure's name: a tuple, fields, or nothing for a unit. -/
def structureBody : Nat → Cursor → Except RonError (Value × Cursor)
  | depth, c =>
    match c.consume? "(" with
    | none => .ok (.unit, c)
    | some inside => do
      if ← opensTuple c inside then
        let (vs, c) ← items depth ')' true [] inside
        let (_, c) ← c.comma
        let some c := c.consume? ")" | c.throwHere .expectedStructLikeEnd
        pure (.seq vs, c)
      else
        let (es, c) ← entries depth ')' true [] inside
        let c ← c.skipBlanks
        let some c := c.consume? ")" | c.throwHere .expectedStructLikeEnd
        pure (.map es, c)

/-- `[a, b]`. -/
def seqValue : Nat → Cursor → Except RonError (Value × Cursor)
  | depth, c => do
    let (vs, c) ← items depth ']' true [] c.advance
    let (_, c) ← c.comma
    let some c := c.consume? "]" | c.throwHere .expectedArrayEnd
    pure (.seq vs, c)

/-- `\x7bk: v\x7d`. -/
def mapValue : Nat → Cursor → Except RonError (Value × Cursor)
  | depth, c => do
    let (es, c) ← entries depth '\x7d' true [] c.advance
    let (_, c) ← c.comma
    let some c := c.consume? "\x7d" | c.throwHere .expectedMapEnd
    pure (.map es, c)

/-- Items separated by commas up to `close`, which is left; `hadComma` tells whether the
last item was followed by a comma (true before the first). -/
def items : Nat → Char → Bool → List Value → Cursor → Except RonError ((List Value) × Cursor)
  | 0, _, _, acc, c => .ok (acc.reverse, c)
  | depth + 1, close, hadComma, acc, c => do
    let c ← c.skipBlanks
    let b ← c.peekOrEnd
    if b == close then pure (acc.reverse, c)
    else if !hadComma then c.throwHere .expectedComma
    else
      let (v, c) ← value depth c
      let (more, c) ← c.comma
      items depth close more (v :: acc) c

/-- Entries `key: value` separated by commas up to `close`; in a structure (`close` is a
parenthesis) a key is a name, in a map any value. -/
def entries : Nat → Char → Bool → List (Value × Value) → Cursor → Except RonError ((List (Value × Value)) × Cursor)
  | 0, _, _, acc, c => .ok (acc.reverse, c)
  | depth + 1, close, hadComma, acc, c => do
    let c ← c.skipBlanks
    let b ← c.peekOrEnd
    if b == close then pure (acc.reverse, c)
    else if !hadComma then c.throwHere .expectedComma
    else
      let (k, c) ← if close == ')' then c.identifier.map fun (name, c) => (Value.string name, c)
        else value depth c
      let c ← c.skipBlanks
      let some c := c.consume? ":" | c.throwHere .expectedMapColon
      let c ← c.skipBlanks
      let (v, c) ← value depth c
      let (more, c) ← c.comma
      entries depth close more ((k, v) :: acc) c

end

/-- The names of the extensions a text may enable. -/
def extensionNames : List String := ["unwrap_newtypes", "implicit_some", "unwrap_variant_newtypes"]

/-- The names listed in an `enable` attribute after its `(`: known extensions separated
by commas, with an optional comma after the last; `fuel` bounds their number. -/
def extensionList : Nat → Cursor → Except RonError Cursor
  | 0, c => .ok c
  | fuel + 1, c => do
    let (name, c) ← c.identifier
    if !extensionNames.contains name then c.throwHere (.noSuchExtension name)
    let (more, c) ← c.comma
    let next := (c.peek.map isIdentOther).getD false
    if !more && next then c.throwHere .expectedComma
    if !more || !next then pure c else extensionList fuel c

/-- One attribute `#![enable(...)]`, blanks and comments allowed between its parts. -/
def enableAttribute (c : Cursor) : Except RonError Cursor := do
  let some c := c.consume? "#!" | c.throwHere .expectedAttribute
  let c ← c.skipBlanks
  let some c := c.consume? "[" | c.throwHere .expectedAttribute
  let c ← c.skipBlanks
  let some c := c.consume? "enable" | c.throwHere .expectedAttribute
  let c ← c.skipBlanks
  let some c := c.consume? "(" | c.throwHere .expectedAttribute
  let c ← c.skipBlanks
  let c ← extensionList (c.rest.length + 1) c
  let c ← c.skipBlanks
  let some c := c.consume? ")" | c.throwHere .expectedAttributeEnd
  let c ← c.skipBlanks
  let some c := c.consume? "]" | c.throwHere .expectedAttributeEnd
  pure c

/-- The attributes at the start of a text, each followed by blanks and comments. -/
def attributes : Nat → Cursor → Except RonError Cursor
  | 0, c => .ok c
  | fuel + 1, c =>
    if c.peek == some '#' then do
      let c ← enableAttribute c
      let c ← c.skipBlanks
      attributes fuel c
    else .ok c

/-- Reads a whole RON text into its value: attributes first, then one value. -/
def parse (text : String) : Except RonError Value := do
  let c ← ({ rest := text.toList } : Cursor).skipBlanks
  let c ← attributes (c.rest.length + 1) c
  let (v, c) ← value (c.rest.length + 1) c
  let c ← c.skipBlanks
  if c.rest.isEmpty then pure v else c.throwHere .trailingCharacters

end Ron

end Unwinding
