import Unwinding.Json.Value

/-!
# Reading JSON text

A strict reader of JSON: one value surrounded by spaces, tabs, carriage returns and line
feeds, with containers nested at most 127 deep. An error names what was expected and where:
the line, and the column counted in bytes from the start of the line. An error about a
character that was looked at but not yet read points at that character; one about a
character that was read points just past it.

Numbers without a fraction or exponent stay integers while they fit 64 bits. Others become
doubles the way a plain reader makes them: the decimal digits, as many as fit 64 bits, are
made a double and multiplied or divided by the double nearest to the power of ten. A result
too large for a double is an error; one too small becomes zero.
-/

namespace Unwinding

namespace Json

/-- A reading error: what was expected, and the line and byte column where. -/
structure ReadError where
  code : String
  line : Nat
  column : Nat
  deriving DecidableEq, Inhabited, Repr

/-- The text of a reading error. -/
def ReadError.message (e : ReadError) : String :=
  e.code ++ " at line " ++ toString e.line ++ " column " ++ toString e.column

/-- The text still to read and the position reached. -/
structure Cursor where
  rest : List Char
  line : Nat := 1
  column : Nat := 0
  deriving Inhabited

namespace Cursor

/-- The next character, if any. -/
def peek (c : Cursor) : Option Char := c.rest.head?

/-- Reads one character. -/
def bump (c : Cursor) : Cursor :=
  match c.rest with
  | [] => c
  | '\n' :: rest => { rest, line := c.line + 1, column := 0 }
  | ch :: rest => { rest, line := c.line, column := c.column + ch.utf8Size }

/-- An error just past what has been read. -/
def failHere {β : Type} (c : Cursor) (code : String) : Except ReadError β :=
  .error { code, line := c.line, column := c.column }

/-- An error at the next character. -/
def failAhead {β : Type} (c : Cursor) (code : String) : Except ReadError β :=
  match c.rest with
  | [] => .error { code, line := c.line, column := c.column }
  | '\n' :: _ => .error { code, line := c.line + 1, column := 0 }
  | _ :: _ => .error { code, line := c.line, column := c.column + 1 }

/-- Skips the characters JSON treats as space. -/
def skipSpace (c : Cursor) : Cursor :=
  let spaces := c.rest.takeWhile fun ch => ch == ' ' || ch == '\n' || ch == '\t' || ch == '\r'
  spaces.foldl (fun c _ => c.bump) c

/-- Reads a run of ASCII digits. -/
def digits (c : Cursor) : List Char × Cursor :=
  let ds := c.rest.takeWhile Char.isDigit
  (ds, ds.foldl (fun c _ => c.bump) c)

end Cursor

/-- The largest unsigned 64-bit number. -/
def wordMax : Nat := Nat.pow 2 64 - 1

/-- Splits digits into the longest prefix whose value fits 64 bits, that value, and the
rest. -/
def fitDigits (acc : Nat) : List Char → Nat × Nat × List Char
  | [] => (acc, 0, [])
  | d :: more =>
    let next := acc * 10 + (d.toNat - '0'.toNat)
    if next > wordMax then (acc, 0, d :: more)
    else
      let (value, taken, rest) := fitDigits next more
      (value, taken + 1, rest)

/-- The double nearest to `10 ^ e`. -/
def powerOfTen (e : Nat) : Float := Float.ofScientific 1 false e

/-- Scales a significand by a power of ten in doubles, as far as the powers reach 10^308;
`none` when the result overflows. -/
def scaleDouble : Nat → Float → Int → Option Float
  | 0, f, _ => some f
  | fuel + 1, f, exponent =>
    if exponent.natAbs ≤ 308 then
      if exponent ≥ 0 then
        let g := f * powerOfTen exponent.natAbs
        if g.isInf then none else some g
      else some (f / powerOfTen exponent.natAbs)
    else if f == 0.0 then some f
    else if exponent ≥ 0 then none
    else scaleDouble fuel (f / powerOfTen 308) (exponent + 308)

/-- The least and greatest exponents the reader keeps. -/
def exponentMin : Int := -2147483648
def exponentMax : Int := 2147483647

/-- The double of a sign, significand and decimal exponent, or a range error. -/
def fromParts (c : Cursor) (positive : Bool) (significand : Nat) (exponent : Int) :
    Except ReadError Json :=
  match scaleDouble 8 significand.toFloat exponent with
  | some f => .ok (.float (if positive then f else -f))
  | none => c.failHere "number out of range"

/-- The value of a run of digits. -/
def digitsValue (ds : List Char) : Nat :=
  ds.foldl (fun acc d => acc * 10 + (d.toNat - '0'.toNat)) 0

/-- How many digits are read before the value first exceeds `limit`, if it ever does. -/
def digitsBeyond (limit acc : Nat) : List Char → Option Nat
  | [] => none
  | d :: more =>
    let next := acc * 10 + (d.toNat - '0'.toNat)
    if next > limit then some 1 else (digitsBeyond limit next more).map (· + 1)

/-- Reads an exponent after `e` or `E`. An exponent past the 32-bit range makes a number
of non-zero significand too large, and any other number zero. -/
def readExponent (c : Cursor) (positive : Bool) (significand : Nat) (start : Int) :
    Except ReadError (Json × Cursor) :=
  let c := c.bump
  let (positiveExp, c) := match c.peek with
    | some '+' => (true, c.bump)
    | some '-' => (false, c.bump)
    | _ => (true, c)
  match c.peek with
  | none => c.failHere "EOF while parsing a value"
  | some d =>
    if !d.isDigit then c.bump.failHere "invalid number"
    else
      let (ds, after) := c.digits
      match digitsBeyond exponentMax.toNat 0 ds with
      | some count =>
        if significand != 0 && positiveExp then
          ((ds.take count).foldl (fun c _ => c.bump) c).failHere "number out of range"
        else .ok (.float (if positive then 0.0 else -0.0), after)
      | none =>
        let e : Int := digitsValue ds
        let final := if positiveExp then min exponentMax (start + e) else max exponentMin (start - e)
        (fromParts after positive significand final).map (·, after)

/-- Reads a fraction after the point. -/
def readFraction (c : Cursor) (positive : Bool) (significand : Nat) (start : Int) :
    Except ReadError (Json × Cursor) :=
  let c := c.bump
  let (ds, after) := c.digits
  let (value, taken, _) := fitDigits significand ds
  let exponent := start - taken
  if ds.isEmpty then
    match after.peek with
    | some _ => after.failAhead "invalid number"
    | none => after.failAhead "EOF while parsing a value"
  else
    match after.peek with
    | some 'e' | some 'E' => readExponent after positive value exponent
    | _ => (fromParts after positive value exponent).map (·, after)

/-- Reads a number after its sign. -/
def readNumber (c : Cursor) (positive : Bool) : Except ReadError (Json × Cursor) :=
  match c.peek with
  | none => c.failHere "EOF while parsing a value"
  | some '0' =>
    let c := c.bump
    match c.peek with
    | some d =>
      if d.isDigit then c.failAhead "invalid number"
      else if d == '.' then readFraction c positive 0 0
      else if d == 'e' || d == 'E' then readExponent c positive 0 0
      else .ok ((if positive then .int 0 else .float (-0.0)), c)
    | none => .ok ((if positive then .int 0 else .float (-0.0)), c)
  | some d =>
    if !d.isDigit then c.bump.failHere "invalid number"
    else
      let (ds, after) := c.digits
      let (value, taken, _) := fitDigits 0 ds
      let extra : Int := ds.length - taken
      match after.peek with
      | some '.' => readFraction after positive value extra
      | some 'e' | some 'E' => readExponent after positive value extra
      | _ =>
        if extra > 0 then (fromParts after positive value extra).map (·, after)
        else if positive then .ok (.int value, after)
        else if value ≤ Nat.pow 2 63 then .ok (.int (-(value : Int)), after)
        else .ok (.float (-value.toFloat), after)

/-- Reads the four hex digits of a `\u` escape. -/
def readHex4 (c : Cursor) : Except ReadError (Nat × Cursor) :=
  let four := c.rest.take 4
  if four.length < 4 then
    let atEnd := c.rest.foldl (fun c _ => c.bump) c
    atEnd.failHere "EOF while parsing a string"
  else
    let after := four.foldl (fun c _ => c.bump) c
    let value := four.foldl (fun acc ch =>
      acc.bind fun a =>
        if ch.isDigit then some (a * 16 + (ch.toNat - '0'.toNat))
        else if 'a' ≤ ch && ch ≤ 'f' then some (a * 16 + (ch.toNat - 'a'.toNat + 10))
        else if 'A' ≤ ch && ch ≤ 'F' then some (a * 16 + (ch.toNat - 'A'.toNat + 10))
        else none) (some 0)
    match value with
    | some v => .ok (v, after)
    | none => after.failHere "invalid escape"

/-- Reads the rest of a `\u` escape: one code unit, or a pair of surrogates. -/
def readUnicodeEscape (c : Cursor) : Except ReadError (Char × Cursor) :=
  match readHex4 c with
  | .error e => .error e
  | .ok (n, c) =>
    if 0xDC00 ≤ n && n ≤ 0xDFFF then c.failHere "lone leading surrogate in hex escape"
    else if n < 0xD800 || n > 0xDBFF then .ok (Char.ofNat n, c)
    else
      match c.peek with
      | none => c.failHere "EOF while parsing a string"
      | some '\\' =>
        let c := c.bump
        match c.peek with
        | none => c.failHere "EOF while parsing a string"
        | some 'u' =>
          match readHex4 c.bump with
          | .error e => .error e
          | .ok (low, c) =>
            if low < 0xDC00 || low > 0xDFFF then c.failHere "lone leading surrogate in hex escape"
            else .ok (Char.ofNat (((n - 0xD800) * 0x400 + (low - 0xDC00)) + 0x10000), c)
        | some _ => c.bump.failHere "unexpected end of hex escape"
      | some _ => c.bump.failHere "unexpected end of hex escape"

/-- Reads the body of a string after its opening quote; `fuel` bounds the characters. -/
def readStringBody : Nat → String → Cursor → Except ReadError (String × Cursor)
  | 0, _, c => c.failHere "EOF while parsing a string"
  | fuel + 1, acc, c =>
    match c.peek with
    | none => c.failHere "EOF while parsing a string"
    | some '"' => .ok (acc, c.bump)
    | some '\\' =>
      let c := c.bump
      match c.peek with
      | none => c.failHere "EOF while parsing a string"
      | some e =>
        let simple : Option Char := match e with
          | '"' => some '"'
          | '\\' => some '\\'
          | '/' => some '/'
          | 'b' => some '\x08'
          | 'f' => some '\x0c'
          | 'n' => some '\n'
          | 'r' => some '\r'
          | 't' => some '\t'
          | _ => none
        match simple with
        | some ch => readStringBody fuel (acc.push ch) c.bump
        | none =>
          if e == 'u' then
            match readUnicodeEscape c.bump with
            | .error err => .error err
            | .ok (ch, c) => readStringBody fuel (acc.push ch) c
          else c.bump.failHere "invalid escape"
    | some ch =>
      if ch.toNat < 0x20 then c.bump.failHere "control character (\\u0000-\\u001F) found while parsing a string"
      else readStringBody fuel (acc.push ch) c.bump

/-- Reads a string after its opening quote. -/
def readString (c : Cursor) : Except ReadError (String × Cursor) :=
  readStringBody (c.rest.length + 1) "" c

/-- Reads the letters of `null`, `true` or `false` after the first. -/
def readWord (c : Cursor) : List Char → Except ReadError Cursor
  | [] => .ok c
  | w :: more =>
    match c.peek with
    | none => c.failHere "EOF while parsing a value"
    | some ch => if ch == w then readWord c.bump more else c.bump.failHere "expected ident"

/-- How many containers may be open at once, plus one. -/
def depthLimit : Nat := 128

mutual

/-- Reads a value; `room` is how many more containers may open, `fuel` bounds the steps. -/
def readValue : Nat → Nat → Cursor → Except ReadError (Json × Cursor)
  | 0, _, c => c.failAhead "recursion limit exceeded"
  | fuel + 1, room, c =>
    let c := c.skipSpace
    match c.peek with
    | none => c.failAhead "EOF while parsing a value"
    | some 'n' => (readWord c.bump ['u', 'l', 'l']).map (Json.null, ·)
    | some 't' => (readWord c.bump ['r', 'u', 'e']).map (Json.bool true, ·)
    | some 'f' => (readWord c.bump ['a', 'l', 's', 'e']).map (Json.bool false, ·)
    | some '-' => readNumber c.bump false
    | some '"' => (readString c.bump).map fun (s, c) => (Json.string s, c)
    | some '[' =>
      if room ≤ 1 then c.failAhead "recursion limit exceeded"
      else readItems fuel (room - 1) true [] c.bump
    | some '{' =>
      if room ≤ 1 then c.failAhead "recursion limit exceeded"
      else readEntries fuel (room - 1) true [] c.bump
    | some d => if d.isDigit then readNumber c true else c.failAhead "expected value"

/-- Reads the items of an array after `[` or after an item. -/
def readItems : Nat → Nat → Bool → List Json → Cursor → Except ReadError (Json × Cursor)
  | 0, _, _, _, c => c.failAhead "recursion limit exceeded"
  | fuel + 1, room, first, acc, c =>
    let c := c.skipSpace
    match c.peek with
    | some ']' => .ok (.array acc.reverse, c.bump)
    | none => c.failAhead "EOF while parsing a list"
    | some ch =>
      let start : Except ReadError Cursor :=
        if ch == ',' && !first then
          let c := c.bump.skipSpace
          match c.peek with
          | some ']' => c.failAhead "trailing comma"
          | none => c.failAhead "EOF while parsing a value"
          | some _ => .ok c
        else if first then .ok c
        else c.failAhead "expected `,` or `]`"
      match start with
      | .error e => .error e
      | .ok c =>
        match readValue fuel room c with
        | .error e => .error e
        | .ok (v, c) => readItems fuel room false (v :: acc) c

/-- Reads the entries of an object after `{` or after an entry. -/
def readEntries : Nat → Nat → Bool → List (String × Json) → Cursor → Except ReadError (Json × Cursor)
  | 0, _, _, _, c => c.failAhead "recursion limit exceeded"
  | fuel + 1, room, first, acc, c =>
    let c := c.skipSpace
    match c.peek with
    | some '}' => .ok (.object acc.reverse, c.bump)
    | none => c.failAhead "EOF while parsing an object"
    | some ch =>
      let start : Except ReadError Cursor :=
        if ch == ',' && !first then .ok c.bump.skipSpace
        else if first then .ok c
        else c.failAhead "expected `,` or `\x7d`"
      match start with
      | .error e => .error e
      | .ok c =>
        match c.peek with
        | some '"' =>
          match readString c.bump with
          | .error e => .error e
          | .ok (key, c) =>
            let c := c.skipSpace
            match c.peek with
            | some ':' =>
              match readValue fuel room c.bump with
              | .error e => .error e
              | .ok (v, c) => readEntries fuel room false ((key, v) :: acc) c
            | some _ => c.failAhead "expected `:`"
            | none => c.failAhead "EOF while parsing an object"
        | some '}' => c.failAhead "trailing comma"
        | none => c.failAhead "EOF while parsing a value"
        | some _ => c.failAhead "key must be a string"

end

/-- Reads a JSON document. -/
def parse (text : String) : Except ReadError Json :=
  let c : Cursor := { rest := text.toList }
  match readValue (text.length + 2) depthLimit c with
  | .error e => .error e
  | .ok (v, c) =>
    let c := c.skipSpace
    match c.peek with
    | some _ => c.failAhead "trailing characters"
    | none => .ok v

end Json

end Unwinding
