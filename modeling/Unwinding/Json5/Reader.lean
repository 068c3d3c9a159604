import Unwinding.Peg
import Unwinding.Text.Alphanumeric
import Unwinding.Decimal.Read

/-!
# Reading JSON5

JSON5 extends JSON with comments (`//` to the end of the line, `/* ... */`), trailing commas,
object keys written as identifiers, strings in single quotes with line continuations and
more escapes, and numbers with a sign, in hexadecimal, with a bare decimal point, and the
words `Infinity` and `NaN`.

The text is first read whole by the grammar below; a failure there is reported with the
rules that failed furthest into the text. The tree read is then given its values, in the
order of the text: a number without a point or an exponent (or written in hexadecimal) is a
64-bit integer, any other a double; either can fail to fit.
-/

namespace Unwinding

namespace Json5

/-- The named rules of the grammar, in the order their names are listed in a report. -/
inductive Rule where
  | endOfInput
  | array
  | boolean
  | charEscapeSequence
  | charLiteral
  | hexEscapeSequence
  | identifier
  | nulEscapeSequence
  | null
  | number
  | object
  | string
  | unicodeEscapeSequence
  deriving DecidableEq, Inhabited, Repr

namespace Rule

/-- The place of a rule in reports. -/
def index : Rule → Nat
  | endOfInput => 0
  | array => 1
  | boolean => 2
  | charEscapeSequence => 3
  | charLiteral => 4
  | hexEscapeSequence => 5
  | identifier => 6
  | nulEscapeSequence => 7
  | null => 8
  | number => 9
  | object => 10
  | string => 11
  | unicodeEscapeSequence => 12

/-- The name of a rule in reports. -/
def name : Rule → String
  | endOfInput => "EOI"
  | array => "array"
  | boolean => "boolean"
  | charEscapeSequence => "char_escape_sequence"
  | charLiteral => "char_literal"
  | hexEscapeSequence => "hex_escape_sequence"
  | identifier => "identifier"
  | nulEscapeSequence => "nul_escape_sequence"
  | null => "null"
  | number => "number"
  | object => "object"
  | string => "string"
  | unicodeEscapeSequence => "unicode_escape_sequence"

end Rule

/-- A piece of a string: a character, or the code of a `\u` escape. -/
inductive Piece where
  | char (c : Char)
  | code (n : Nat)
  deriving DecidableEq, Inhabited, Repr

/-- A JSON5 text as read, before its numbers and escapes are given values. -/
inductive Node where
  | null
  | bool (b : Bool)
  | number (text : String)
  | string (pieces : List Piece)
  | array (items : List Node)
  | object (entries : List (List Piece × Node))
  deriving Inhabited, Repr

/-- A grammar of JSON5. -/
abbrev Grammar (α : Type) : Type := Peg Rule α

open Peg

/-- A line terminator. -/
def isLineTerminator (c : Char) : Bool :=
  c == '\n' || c == '\r' || c == '\u2028' || c == '\u2029'

/-- A space separator of Unicode. -/
def isSpaceSeparator (c : Char) : Bool :=
  c == ' ' || c == '\u00A0' || c == '\u1680' || ('\u2000' ≤ c && c ≤ '\u200A') ||
    c == '\u202F' || c == '\u205F' || c == '\u3000'

/-- White space between tokens. -/
def isWhitespace (c : Char) : Bool :=
  c == '\t' || c == '\x0B' || c == '\x0C' || c == '\uFEFF' || isSpaceSeparator c ||
    isLineTerminator c

/-- A comment. -/
def comment : Grammar Unit :=
  (do literal "/*"; let _ ← many (do notAhead (literal "*/"); anyChar); literal "*/") <|>
  (do literal "//"; let _ ← many (do notAhead (satisfy isLineTerminator); anyChar); pure ())

/-- Blanks and comments between tokens. -/
def skip : Grammar Unit := do
  let _ ← many ((do let _ ← satisfy isWhitespace; pure ()) <|> comment)
  pure ()

/-- A hexadecimal digit. -/
def isHexDigit (c : Char) : Bool :=
  c.isDigit || ('a' ≤ c && c ≤ 'f') || ('A' ≤ c && c ≤ 'F')

/-- A letter, as identifiers start with. -/
def isLetter (c : Char) : Bool :=
  c.isAlpha || (c.toNat ≥ 0x80 && Text.isAlphanumeric c)

/-- A character that may follow the start of an identifier besides letters: a digit, a
connector such as `_`, a combining mark, or a zero-width joiner or non-joiner. -/
def isIdentifierMark (c : Char) : Bool :=
  c.isDigit || c == '_' || c == '\u200C' || c == '\u200D' ||
    (c.toNat ≥ 0x80 && Text.isAlphanumeric c)

/-- A character of a string or identifier: anything but a backslash or a line terminator. -/
def charLiteral : Grammar Char :=
  rule .charLiteral true do
    notAhead (satisfy fun c => c == '\\' || isLineTerminator c)
    anyChar

/-- The character a one-letter escape stands for. -/
def singleEscape? : Char → Option Char
  | '\'' => some '\''
  | '"' => some '"'
  | '\\' => some '\\'
  | 'b' => some '\x08'
  | 'f' => some '\x0C'
  | 'n' => some '\n'
  | 'r' => some '\r'
  | 't' => some '\t'
  | 'v' => some '\x0B'
  | _ => none

/-- A character that cannot follow a backslash as itself. -/
def isEscapeChar (c : Char) : Bool :=
  (singleEscape? c).isSome || c.isDigit || c == 'x' || c == 'u'

/-- An escape of one character: a one-letter escape, or any character that is not one. -/
def charEscapeSequence : Grammar Char :=
  rule .charEscapeSequence true do
    match ← maybe (satisfy fun c => (singleEscape? c).isSome) with
    | some c => pure ((singleEscape? c).getD c)
    | none =>
      notAhead (satisfy fun c => isEscapeChar c || isLineTerminator c)
      anyChar

/-- The value of hexadecimal digits. -/
def hexValue (ds : List Char) : Nat :=
  ds.foldl (fun acc d =>
    acc * 16 + (if d.isDigit then d.toNat - '0'.toNat
      else if 'a' ≤ d && d ≤ 'f' then d.toNat - 'a'.toNat + 10
      else d.toNat - 'A'.toNat + 10)) 0

/-- `count` hexadecimal digits. -/
def hexDigits : Nat → Grammar (List Char)
  | 0 => pure []
  | n + 1 => do
    let d ← satisfy isHexDigit
    let ds ← hexDigits n
    pure (d :: ds)

/-- The code of a `\u` escape: four hexadecimal digits. -/
def unicodeEscapeSequence : Grammar Nat :=
  rule .unicodeEscapeSequence true ((hexValue ·) <$> hexDigits 4)

/-- An escape after a backslash. -/
def escapeSequence : Grammar Piece :=
  (Piece.char <$> charEscapeSequence) <|>
  (rule .nulEscapeSequence true (do literal "0"; pure (Piece.char '\x00'))) <|>
  (do literal "x"
      rule .hexEscapeSequence true do
        let ds ← hexDigits 2
        pure (Piece.char (Char.ofNat (hexValue ds)))) <|>
  (do literal "u"; Piece.code <$> unicodeEscapeSequence)

/-- A line break. -/
def lineTerminatorSequence : Grammar Unit :=
  literal "\r\n" <|> (do let _ ← satisfy isLineTerminator; pure ())

/-- One piece of a string in `quote`s; a line continuation gives nothing. -/
def stringPiece (quote : Char) : Grammar (Option Piece) :=
  (do literal "\\"; some <$> escapeSequence) <|>
  (do literal "\\"; lineTerminatorSequence; pure none) <|>
  (do notAhead (satisfy (· == quote)); (some ∘ Piece.char) <$> charLiteral)

/-- A string in double or single quotes. -/
def string : Grammar (List Piece) :=
  rule .string false do
    let quote ← satisfy fun c => c == '"' || c == '\''
    let pieces ← many (stringPiece quote)
    literal quote.toString
    pure pieces.reduceOption

/-- The start of an identifier: a letter, `$` or `_`, or a `\u` escape. -/
def identifierStart : Grammar Piece :=
  (do ahead (satisfy fun c => isLetter c || c == '$' || c == '_'); Piece.char <$> charLiteral) <|>
  (do literal "\\u"; Piece.code <$> unicodeEscapeSequence)

/-- A character of an identifier after its start. -/
def identifierPart : Grammar Piece :=
  identifierStart <|> (do ahead (satisfy isIdentifierMark); Piece.char <$> charLiteral)

/-- An identifier, as an object key may be written. -/
def identifier : Grammar (List Piece) :=
  rule .identifier false do
    let first ← identifierStart
    let rest ← many identifierPart
    pure (first :: rest)

/-- `null`. -/
def null : Grammar Node := rule .null true do literal "null"; pure .null

/-- `true` or `false`. -/
def boolean : Grammar Node :=
  rule .boolean true ((do literal "true"; pure (.bool true)) <|> (do literal "false"; pure (.bool false)))

/-- Decimal digits, at least `least` of them. -/
def digits (least : Nat) : Grammar Unit := do
  let ds ← many (satisfy Char.isDigit)
  if ds.length < least then failure

/-- An exponent: `e` in either case, an optional sign and digits. -/
def exponent : Grammar Unit := do
  literalAnyCase "e"
  let _ ← maybe (satisfy fun c => c == '+' || c == '-')
  digits 1

/-- A decimal integer: `0`, or digits not starting with `0`. -/
def decimalInteger : Grammar Unit :=
  literal "0" <|> (do let _ ← satisfy fun c => '1' ≤ c && c ≤ '9'; digits 0)

/-- A decimal number: with a point after digits, with a point before digits, or an
integer; each with an optional exponent. -/
def decimal : Grammar Unit :=
  (do decimalInteger; literal "."; digits 0; let _ ← maybe exponent; pure ()) <|>
  (do literal "."; digits 1; let _ ← maybe exponent; pure ()) <|>
  (do decimalInteger; let _ ← maybe exponent; pure ())

/-- A number, as the text it is written with. -/
def number : Grammar Node :=
  rule .number true do
    let start ← getThe (List Char)
    let _ ← maybe (satisfy fun c => c == '+' || c == '-')
    (do literalAnyCase "0x"; let _ ← satisfy isHexDigit; let _ ← many (satisfy isHexDigit)) <|>
      decimal <|> literal "Infinity" <|> literal "NaN"
    let rest ← getThe (List Char)
    pure (.number (String.ofList (start.take (start.length - rest.length))))

/-- `p`, then `sep` and `p` as long as both read, with blanks between. -/
def separated (p : Grammar α) : Grammar (List α) := do
  let first ← p
  let more ← many (do skip; literal ","; skip; p)
  pure (first :: more)

/-- The items between `opening` and `closing`, separated by commas, perhaps with one
after the last. -/
def enclosed (opening closing : String) (item : Grammar α) : Grammar (List α) :=
  (do literal opening; skip; literal closing; pure []) <|>
  (do literal opening; skip
      let items ← separated item
      skip
      let _ ← maybe (literal ",")
      skip
      literal closing
      pure items)

/-- A key and its value, read by `value`. -/
def pairWith (value : Grammar Node) : Grammar (List Piece × Node) := do
  let key ← identifier <|> string
  skip
  literal ":"
  skip
  let v ← value
  pure (key, v)

/-- A value, with `depth` more levels of arrays and objects allowed inside it. -/
def value : Nat → Grammar Node
  | 0 => failure
  | depth + 1 =>
    null <|> boolean <|> (Node.string <$> string) <|> number <|>
      rule .object false (Node.object <$> enclosed "\x7b" "\x7d" (pairWith (value depth))) <|>
      rule .array false (Node.array <$> enclosed "[" "]" (value depth))

/-- A whole JSON5 text: blanks, a value, blanks. -/
def text (depth : Nat) : Grammar Node := do
  skip
  let v ← value depth
  skip
  rule .endOfInput false endOfInput
  pure v

/-- A JSON5 value. -/
inductive Value where
  | null
  | bool (b : Bool)
  | int (n : Int)
  | float (x : Float)
  | string (s : String)
  | array (items : List Value)
  | object (entries : List (String × Value))
  deriving Inhabited


/-- The text of a string's pieces; a `\u` escape must name a character. -/
def piecesText (pieces : List Piece) : Except String String :=
  pieces.foldlM (fun acc p =>
    match p with
    | .char c => .ok (acc.push c)
    | .code n =>
      if n < 0xD800 || (0xE000 ≤ n && n < 0x110000) then .ok (acc.push (Char.ofNat n))
      else .error "invalid character") ""

/-- A number whose text is hexadecimal: `0x` or `0X` and more. -/
def isHexText (s : String) : Bool := s.length > 2 && (s.startsWith "0x" || s.startsWith "0X")

/-- Whether a number's text is read as an integer. -/
def isIntegerText (s : String) : Bool :=
  !s.contains '.' && (isHexText s || (!s.contains 'e' && !s.contains 'E')) &&
    s != "Infinity" && s != "-Infinity" && s != "NaN" && s != "-NaN"

/-- The value of a number's text: a hexadecimal integer must fit in 32 bits and a decimal
one in 64 signed bits; other numbers are doubles, which must be finite unless written as
`Infinity` or `NaN`. -/
def numberValue (s : String) : Except String Value :=
  if isIntegerText s then
    if isHexText s then
      let n := hexValue (s.toList.drop 2)
      if n < Nat.pow 2 32 then .ok (.int n) else .error "error parsing hex"
    else
      match Decimal.readSigned? s with
      | some n => if -Int.pow 2 63 ≤ n && n < Int.pow 2 63 then .ok (.int n) else .error "error parsing integer"
      | none => .error "error parsing integer"
  else if s == "Infinity" then .ok (.float (1.0 / 0.0))
  else if s == "-Infinity" then .ok (.float (-(1.0 / 0.0)))
  else if s == "NaN" || s == "-NaN" then .ok (.float (0.0 / 0.0))
  else
    match Decimal.readNumber? s with
    | some r =>
      let x := r.toFloat
      if x.isFinite then .ok (.float x) else .error "error parsing number: too large"
    | none => .error "error parsing number"

mutual

/-- The value of a tree, or the first failure in the order of the text. -/
def Node.toValue : Node → Except String Value
  | .null => .ok .null
  | .bool b => .ok (.bool b)
  | .number s => numberValue s
  | .string pieces => Value.string <$> piecesText pieces
  | .array items => Value.array <$> itemsToValues items
  | .object entries => Value.object <$> entriesToValues entries

/-- The values of an array's items. -/
def itemsToValues : List Node → Except String (List Value)
  | [] => .ok []
  | n :: rest => do
    let v ← n.toValue
    let vs ← itemsToValues rest
    pure (v :: vs)

/-- The values of an object's entries. -/
def entriesToValues : List (List Piece × Node) → Except String (List (String × Value))
  | [] => .ok []
  | (k, n) :: rest => do
    let key ← piecesText k
    let v ← n.toValue
    let vs ← entriesToValues rest
    pure ((key, v) :: vs)

end

/-- Reads a JSON5 text; a failure is its full report. -/
def parse (input : String) : Except String Value :=
  let cs := input.toList
  match Peg.parse (text (cs.length + 1)) cs with
  | .error f => .error (Peg.report cs f.position (Peg.message Rule.index Rule.name f.rules))
  | .ok node => node.toValue

end Json5

end Unwinding
