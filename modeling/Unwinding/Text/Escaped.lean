import Unwinding.Text.Printable

/-!
# Quoted text in messages

Messages show a text in double quotes with its special characters escaped: a quote and a
backslash get a backslash, tab, line feed, carriage return and NUL their letter escapes,
and characters that print nothing visible or that extend the grapheme before them are
written as `\u{hex}`. Everything else is shown as it is.
-/

namespace Unwinding

namespace Text

/-- Whether a character is written as a `\u{hex}` escape. -/
def isUnprintable (c : Char) : Bool := isGraphemeExtend c || !isPrintable c

/-- Lower-case hexadecimal digits of a number, without leading zeros. -/
def hexDigits (n : Nat) : String := String.ofList (Nat.toDigits 16 n)

/-- The escaped form of one character inside double quotes. -/
def escapeChar (c : Char) : String :=
  match c with
  | '\x00' => "\\0"
  | '\t' => "\\t"
  | '\n' => "\\n"
  | '\r' => "\\r"
  | '"' => "\\\""
  | '\\' => "\\\\"
  | _ => if isUnprintable c then "\\u\x7b" ++ hexDigits c.toNat ++ "\x7d" else c.toString

/-- A text in double quotes, escaped. -/
def quoted (s : String) : String := "\"" ++ String.join (s.toList.map escapeChar) ++ "\""

end Text

end Unwinding
