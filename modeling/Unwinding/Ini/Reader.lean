import Unwinding.Text.Blank

/-!
# Reading an INI file

An INI file is a list of sections, each a header `[name]` followed by `key = value` lines
(`:` may stand for `=`); the pairs before the first header belong to a general section
without a name. A line whose first character is `;` or `#` is a comment; such a character
anywhere else after blanks is refused, since comments cannot follow other text on a line.

Reading goes character by character. A header runs to the next `]` and a key to the next
`=` or `:`, both across line breaks. A value runs to the end of its line, or, when it starts
with a quote, to the matching quote, and then on to the end of the line. In all of them a
backslash escapes the next character: `\0`, `\a`, `\b`, `\t`, `\r` and `\n` are control
characters, a backslash before a line break joins the lines, `\x` takes four hexadecimal
digits, and any other character stands for itself. Names, keys and values lose their
surrounding blanks. A section named twice is two sections, and a key may repeat. A failure
is reported at the line and column of the character the reader stood on, both
counted from one, or where the last character was when the text ran out.
-/

namespace Unwinding

namespace Ini

/-- Where reading stands: the characters left, the first of them the current one, and the
line and column of that character as the reader counts them: taking a line break moves to
the next line at column zero, taking any other character moves one column on. -/
structure Cursor where
  rest : List Char
  line : Nat := 0
  column : Nat := 0
  deriving DecidableEq, Inhabited, Repr

/-- A reading failure: where, and why. -/
structure IniError where
  line : Nat
  column : Nat
  message : String
  deriving DecidableEq, Inhabited, Repr

/-- The text of a failure: line and column from one, then the message. -/
def IniError.text (e : IniError) : String :=
  toString e.line ++ ":" ++ toString e.column ++ " " ++ e.message

namespace Cursor

/-- The position after taking the character `c`. -/
def advance (line column : Nat) : Char → Nat × Nat
  | '\n' => (line + 1, 0)
  | _ => (line, column + 1)

/-- The cursor on the first character of a text. -/
def start (cs : List Char) : Cursor :=
  match cs with
  | c :: _ => let (line, column) := advance 0 0 c; { rest := cs, line, column }
  | [] => { rest := [] }

/-- The current character, if any is left. -/
def current (c : Cursor) : Option Char := c.rest.head?

/-- Moves on to the next character. -/
def bump (c : Cursor) : Cursor :=
  match c.rest with
  | [] => c
  | [_] => { c with rest := [] }
  | _ :: next :: r =>
    let (line, column) := advance c.line c.column next
    { rest := next :: r, line, column }

theorem bump_rest (c : Cursor) : c.bump.rest = c.rest.tail := by
  unfold bump
  split <;> simp_all

/-- A failure where the cursor stands. -/
def fail (c : Cursor) (message : String) : IniError :=
  { line := c.line + 1, column := c.column + 1, message }

/-- Moves past the characters that satisfy `p`. -/
def skipWhile (p : Char → Bool) (c : Cursor) : Cursor :=
  if hrest : c.rest = [] then c
  else if p (c.rest.head hrest) then skipWhile p c.bump else c
termination_by c.rest.length
decreasing_by
  rw [bump_rest, List.length_tail]
  exact Nat.sub_lt (List.length_pos_iff.mpr hrest) Nat.one_pos

end Cursor

/-- A character that separates words: blanks of any kind. -/
def isBlank (c : Char) : Bool := Text.isBlank c

/-- A blank within a line: a tab, or a blank that breaks no line. -/
def isInlineBlank (c : Char) : Bool := c == '\t' || (c != '\n' && c != '\r' && isBlank c)

/-- How an awaited character is shown in a message. -/
def showEnd : Option Char → String
  | none => "None"
  | some '\'' => "Some('\\'')"
  | some '\n' => "Some('\\n')"
  | some '\r' => "Some('\\r')"
  | some c => "Some('" ++ c.toString ++ "')"

/-- The failure of running out of text while awaiting one of `ends`. -/
def endOfText (ends : List (Option Char)) (c : Cursor) : IniError :=
  c.fail ("expecting \"[" ++ ", ".intercalate (ends.map showEnd) ++ "]\" but found EOF.")

/-- The character the current one stands for after a backslash. -/
def unescape : Char → Option Char
  | '0' => some '\x00'
  | 'a' => some '\x07'
  | 'b' => some '\x08'
  | 't' => some '\t'
  | 'r' => some '\r'
  | 'n' => some '\n'
  | '\n' => none
  | c => some c

/-- The value of a hexadecimal digit. -/
def hexDigit? (c : Char) : Option Nat :=
  if '0' ≤ c && c ≤ '9' then some (c.toNat - '0'.toNat)
  else if 'a' ≤ c && c ≤ 'f' then some (c.toNat - 'a'.toNat + 10)
  else if 'A' ≤ c && c ≤ 'F' then some (c.toNat - 'A'.toNat + 10)
  else none

/-- The number a run of hexadecimal digits writes, after an optional `+`. -/
def readHex? (cs : List Char) : Option Nat :=
  let digits := match cs with
    | '+' :: ds => ds
    | ds => ds
  if digits.isEmpty then none
  else digits.foldl (fun acc d => acc.bind fun n => (hexDigit? d).map (n * 16 + ·)) (some 0)

/-- Takes the `count` characters after the current one as the digits of a `\x` escape; a
backslash among them must be followed by a line break, and is itself taken as a digit. -/
def hexDigits (ends : List (Option Char)) : Nat → List Char → Cursor →
    Except IniError (List Char × Cursor)
  | 0, code, c => .ok (code.reverse, c)
  | n + 1, code, c =>
    let c := c.bump
    match c.current with
    | none => .error (endOfText ends c)
    | some ch =>
      if ch == '\\' then
        let c := c.bump
        if c.current != some '\n' then
          .error (c.fail ("expecting \"\\\\\\n\" but found \"" ++ showEnd c.current ++ "\"."))
        else hexDigits ends n (ch :: code) c
      else hexDigits ends n (ch :: code) c

/-- Reads up to one of `ends` (the end of the text written `none`), unescaping, with `fuel`
steps at most; the cursor is left on the end. -/
def readUntil (ends : List (Option Char)) : Nat → List Char → Cursor →
    Except IniError (String × Cursor)
  | 0, acc, c => .ok (String.ofList acc.reverse, c)
  | fuel + 1, acc, c =>
    if ends.contains c.current then .ok (String.ofList acc.reverse, c)
    else
      match c.current with
      | none => .error (endOfText ends c)
      | some '\\' =>
        let c := c.bump
        match c.current with
        | none => .error (endOfText ends c)
        | some 'x' =>
          match hexDigits ends 4 [] c with
          | .error e => .error e
          | .ok (code, c) =>
            match (readHex? code).bind fun n => if n < 0x110000 && !(0xD800 ≤ n && n < 0xE000)
                then some (Char.ofNat n) else none with
            | some ch => readUntil ends fuel (ch :: acc) c.bump
            | none => .error (c.fail "unknown character in \\xHH form")
        | some e =>
          match unescape e with
          | some ch => readUntil ends fuel (ch :: acc) c.bump
          | none => readUntil ends fuel acc c.bump
      | some ch => readUntil ends fuel (ch :: acc) c.bump

/-- Reads up to one of `ends`. -/
def readTo (ends : List (Option Char)) (c : Cursor) : Except IniError (String × Cursor) :=
  readUntil ends (c.rest.length + 1) [] c

/-- Reads to the end of the line. -/
def readLine (c : Cursor) : Except IniError (String × Cursor) :=
  readTo [some '\n', some '\r', none] c

/-- The text without blanks around it. -/
def trim (s : String) : String :=
  String.ofList (((s.toList.dropWhile isBlank).reverse.dropWhile isBlank).reverse)

/-- Reads the value after a `=` or `:` the cursor stands on. -/
def readValue (c : Cursor) : Except IniError (String × Cursor) :=
  let c := c.bump.skipWhile isInlineBlank
  match c.current with
  | none => .ok ("", c)
  | some q =>
    if q == '"' || q == '\'' then
      match readTo [some q] c.bump with
      | .error e => .error e
      | .ok (quoted, c) =>
        match readLine c.bump with
        | .error e => .error e
        | .ok (tail, c) => .ok (quoted ++ tail, c)
    else readLine c

/-- The sections of an INI file in the order they were opened, each with its name (none
for the general section) and its pairs in order. -/
abbrev Sections := List (Option String × List (String × String))

/-- Adds a pair to the last section named `name`, or opens one for it. -/
def addPair (sections : Sections) (name : Option String) (pair : String × String) : Sections :=
  match sections.reverse.findIdx? (·.1 == name) with
  | some i =>
    let j := sections.length - 1 - i
    sections.modify j fun (n, pairs) => (n, pairs ++ [pair])
  | none => sections ++ [(name, [pair])]

/-- What reading has gathered: the sections, the section being filled, and the key read
and still waiting for its value. -/
structure Reading where
  sections : Sections := [(none, [])]
  filling : Option String := none
  key : String := ""
  deriving Inhabited

/-- Reads the statements from the cursor on, with `fuel` steps at most. -/
def readStatements : Nat → Reading → Cursor → Except IniError Sections
  | 0, r, _ => .ok r.sections
  | fuel + 1, r, c =>
    match c.current with
    | none => .ok r.sections
    | some ch =>
      let step : Except IniError (Reading × Cursor) :=
        if ch == ';' || ch == '#' then
          if c.column > 1 then .error (c.fail "doesn't support inline comment")
          else
            let c := c.skipWhile (· != '\n')
            .ok (r, c.bump)
        else if ch == '[' then
          match readTo [some ']'] c.bump with
          | .error e => .error e
          | .ok (name, c) =>
            let c := if c.current == some ']' then c.bump else c
            let name := trim name
            .ok ({ r with filling := some name, sections := r.sections ++ [(some name, [])] }, c)
        else if ch == '=' || ch == ':' then
          if r.key.isEmpty then .error (c.fail "missing key")
          else
            match readValue c with
            | .error e => .error e
            | .ok (v, c) =>
              .ok ({ r with sections := addPair r.sections r.filling (r.key, trim v), key := "" }, c)
        else
          match readTo [some '=', some ':'] c with
          | .error e => .error e
          | .ok (k, c) => .ok ({ r with key := trim k }, c)
      match step with
      | .error e => .error e
      | .ok (r, c) => readStatements fuel r (c.skipWhile isBlank)

/-- Reads an INI file into its sections. -/
def parse (text : String) : Except IniError Sections :=
  let c := (Cursor.start text.toList).skipWhile isBlank
  readStatements (c.rest.length + 1) {} c

end Ini

end Unwinding
