/-!
# Quoting TOML strings and keys

A string is written in the first of four forms that holds it without escapes: between
double quotes, between single quotes, then the multi-line forms of each; a text that none
holds is written between double quotes with escapes, on several lines when it breaks lines.
A key is written bare when it is made of letters, digits, `-` and `_`, and otherwise in the
first one-line form that holds it.
-/

namespace Unwinding

namespace Toml

/-- What a text asks of a TOML string: its longest runs of single and of double quotes,
and whether it holds a control character other than tab and line break, a backslash or a
line break. -/
structure TextMetrics where
  singleRun : Nat := 0
  doubleRun : Nat := 0
  longestSingle : Nat := 0
  longestDouble : Nat := 0
  controls : Bool := false
  backslash : Bool := false
  newline : Bool := false
  deriving DecidableEq, Inhabited, Repr

/-- One character of the measure. -/
def TextMetrics.step (m : TextMetrics) (c : Char) : TextMetrics :=
  let single := if c == '\'' then m.singleRun + 1 else 0
  let double := if c == '"' then m.doubleRun + 1 else 0
  let m := { m with singleRun := single, doubleRun := double,
                    longestSingle := max m.longestSingle single,
                    longestDouble := max m.longestDouble double }
  if c == '\\' then { m with backslash := true }
  else if c == '\t' then m
  else if c == '\n' then { m with newline := true }
  else if c.toNat ≤ 0x1F || c.toNat == 0x7F then { m with controls := true }
  else m

/-- The measure of a text. -/
def TextMetrics.of (text : String) : TextMetrics := text.toList.foldl TextMetrics.step {}

/-- The four ways to delimit a TOML string. -/
inductive StringForm where
  | basic
  | literal
  | multiBasic
  | multiLiteral
  deriving DecidableEq, Inhabited, Repr

/-- The first of basic, literal, multi-line basic and multi-line literal that holds the text
without escapes; failing all, multi-line basic with escapes if the text breaks lines, else basic. -/
def TextMetrics.form (m : TextMetrics) : StringForm :=
  if !m.controls && !m.backslash && m.longestDouble == 0 && !m.newline then .basic
  else if !m.controls && m.longestSingle == 0 && !m.newline then .literal
  else if !m.controls && !m.backslash && m.longestDouble ≤ 2 then .multiBasic
  else if !m.controls && m.longestSingle ≤ 2 then .multiLiteral
  else if m.newline then .multiBasic
  else .basic

/-- Four upper-case hexadecimal digits. -/
def hex4 (n : Nat) : String :=
  let ds := (Nat.toDigits 16 n).map Char.toUpper
  String.ofList (List.replicate (4 - ds.length) '0' ++ ds)

/-- The body of a basic string. A multi-line body keeps its line breaks and lets two
double quotes in a row stand; a third is escaped, and the count starts again after it. -/
def escapeBasic (multi : Bool) : List Char → Nat → String
  | [], _ => ""
  | c :: rest, quotes =>
    if c == '"' then
      if quotes + 1 > (if multi then 2 else 0) then "\\\"" ++ escapeBasic multi rest 0
      else "\"" ++ escapeBasic multi rest (quotes + 1)
    else
      let piece := match c with
        | '\x08' => "\\b"
        | '\t' => "\\t"
        | '\n' => if multi then "\n" else "\\n"
        | '\x0c' => "\\f"
        | '\r' => "\\r"
        | '\\' => "\\\\"
        | _ => if c.toNat ≤ 0x1F || c.toNat == 0x7F then "\\u" ++ hex4 c.toNat else c.toString
      piece ++ escapeBasic multi rest 0

/-- The TOML text of a string. A multi-line string that breaks lines starts with a line
break after its opening delimiter, which readers drop. -/
def quoteString (text : String) : String :=
  let m := TextMetrics.of text
  let lead := if m.newline then "\n" else ""
  match m.form with
  | .basic => "\"" ++ escapeBasic false text.toList 0 ++ "\""
  | .literal => "'" ++ text ++ "'"
  | .multiBasic => "\"\"\"" ++ lead ++ escapeBasic true text.toList 0 ++ "\"\"\""
  | .multiLiteral => "'''" ++ lead ++ text ++ "'''"

/-- Characters of a bare key. -/
def isBareKeyChar (c : Char) : Bool := c.isAlphanum || c == '-' || c == '_'

/-- The TOML text of a key: bare when it can be, else basic or literal without escapes,
else basic with escapes. -/
def keyRepr (key : String) : String :=
  if !key.isEmpty && key.all isBareKeyChar then key
  else
    let m := TextMetrics.of key
    if !m.controls && !m.backslash && m.longestDouble == 0 && !m.newline then "\"" ++ key ++ "\""
    else if !m.controls && m.longestSingle == 0 && !m.newline then "'" ++ key ++ "'"
    else "\"" ++ escapeBasic false key.toList 0 ++ "\""

end Toml

end Unwinding
