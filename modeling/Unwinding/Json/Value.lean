import Unwinding.Decimal.Layout
import Unwinding.Text.Escaped

/-!
# JSON values

JSON documents as a tree, and their pretty text: two spaces of indentation per level, a
space after each colon, empty arrays and objects as `[]` and `{}`. Strings escape the
quote, the backslash and the control characters: `\b`, `\t`, `\n`, `\f`, `\r` by name and
the rest as `\u00xx` in lower-case hex.

Numbers keep what the text said: an integer as an integer, anything with a fraction or an
exponent as a double, printed in positional notation with at least one decimal.
-/

namespace Unwinding

/-- A JSON value. -/
inductive Json where
  | null
  | bool (b : Bool)
  | int (n : Int)
  | float (x : Float)
  | string (s : String)
  | array (items : List Json)
  | object (entries : List (String × Json))
  deriving Inhabited

namespace Json

/-- The escape of one character inside a JSON string. -/
def escapeChar (c : Char) : String :=
  match c with
  | '"' => "\\\""
  | '\\' => "\\\\"
  | '\x08' => "\\b"
  | '\t' => "\\t"
  | '\n' => "\\n"
  | '\x0c' => "\\f"
  | '\r' => "\\r"
  | c =>
    if c.toNat < 0x20 then
      let hex := Text.hexDigits c.toNat
      "\\u" ++ String.ofList (List.replicate (4 - hex.length) '0') ++ hex
    else String.singleton c

/-- A string as a JSON string literal. -/
def quote (s : String) : String := "\"" ++ String.join (s.toList.map escapeChar) ++ "\""

/-- Spaces for `level` levels of indentation. -/
def indent (level : Nat) : String := String.ofList (List.replicate (2 * level) ' ')

mutual

/-- The pretty text of a value whose first line stands at indentation `level`. -/
def pretty (level : Nat) : Json → String
  | null => "null"
  | bool b => toString b
  | int n => toString n
  | float x => Decimal.render .pointed x
  | string s => quote s
  | array [] => "[]"
  | array items => "[\n" ++ prettyItems (level + 1) items ++ "\n" ++ indent level ++ "]"
  | object [] => "\x7b\x7d"
  | object entries =>
    "\x7b\n" ++ prettyEntries (level + 1) entries ++ "\n" ++ indent level ++ "\x7d"

/-- The items of an array, one per line. -/
def prettyItems (level : Nat) : List Json → String
  | [] => ""
  | [v] => indent level ++ pretty level v
  | v :: rest => indent level ++ pretty level v ++ ",\n" ++ prettyItems level rest

/-- The entries of an object, one per line. -/
def prettyEntries (level : Nat) : List (String × Json) → String
  | [] => ""
  | [(k, v)] => indent level ++ quote k ++ ": " ++ pretty level v
  | (k, v) :: rest => indent level ++ quote k ++ ": " ++ pretty level v ++ ",\n" ++ prettyEntries level rest

end

end Json

end Unwinding
