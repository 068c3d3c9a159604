/-!
# Reading decimal numbers

Decimal texts as a sign, a natural mantissa and a power of ten, turned into a double by
core's correctly rounded `Float.ofScientific`. Two grammars are read here: the usual one
for numbers in text (`1`, `1.`, `.5`, `2e-3`, `inf`, `NaN` in any case), and unsigned
integers with an optional `+`.
-/

namespace Unwinding

namespace Decimal

/-- A decimal number as read: sign, digits and power of ten, or infinity, or NaN. -/
inductive Reading where
  | finite (negative : Bool) (mantissa : Nat) (exponent : Int)
  | infinite (negative : Bool)
  | nan
  deriving DecidableEq, Inhabited

/-- The value of a run of ASCII digits. -/
def digitsValue (ds : List Char) : Nat :=
  ds.foldl (fun acc c => acc * 10 + (c.toNat - '0'.toNat)) 0

/-- The double nearest to a reading. Exponents far outside the range of doubles are cut
short before the power of ten is formed: they give infinity or zero all the same. -/
def Reading.toFloat : Reading → Float
  | .nan => 0.0 / 0.0
  | .infinite negative => if negative then -(1.0 / 0.0) else 1.0 / 0.0
  | .finite negative mantissa exponent =>
    let size : Int := (toString mantissa).length
    let magnitude : Float :=
      if mantissa == 0 then 0.0
      else if exponent + size > 400 then 1.0 / 0.0
      else if exponent + size < -400 then 0.0
      else Float.ofScientific mantissa (exponent < 0) exponent.natAbs
    if negative then -magnitude else magnitude

/-- Splits off an optional sign. -/
def takeSign : List Char → Bool × List Char
  | '+' :: rest => (false, rest)
  | '-' :: rest => (true, rest)
  | cs => (false, cs)

/-- Reads a number in the usual text grammar: an optional sign, then `inf`, `infinity` or
`nan` in any case, or digits with an optional point and an optional exponent, with at
least one digit before or after the point. -/
def readNumber? (s : String) : Option Reading :=
  let (negative, rest) := takeSign s.toList
  let word := (String.ofList rest).toLower
  if word == "inf" || word == "infinity" then some (.infinite negative)
  else if word == "nan" then some .nan
  else
    let whole := rest.takeWhile Char.isDigit
    let afterWhole := rest.dropWhile Char.isDigit
    let (frac, afterFrac) :=
      match afterWhole with
      | '.' :: more => (more.takeWhile Char.isDigit, more.dropWhile Char.isDigit)
      | _ => ([], afterWhole)
    let hasPoint := afterWhole.head? == some '.'
    if whole.isEmpty && frac.isEmpty then none
    else
      let expPart : Option Int :=
        match afterFrac with
        | [] => some 0
        | c :: more =>
          if c == 'e' || c == 'E' then
            let (expNegative, digits) := takeSign more
            if !digits.isEmpty && digits.all Char.isDigit then
              let e : Int := digitsValue digits
              some (if expNegative then -e else e)
            else none
          else none
      let _ := hasPoint
      match expPart with
      | some e => some (.finite negative (digitsValue (whole ++ frac)) (e - frac.length))
      | none => none

/-- Reads an unsigned integer: an optional `+` and at least one digit. -/
def readUnsigned? (s : String) : Option Nat :=
  let cs := match s.toList with
    | '+' :: rest => rest
    | cs => cs
  if !cs.isEmpty && cs.all Char.isDigit then some (digitsValue cs) else none

/-- Reads a signed integer: an optional sign and at least one digit. -/
def readSigned? (s : String) : Option Int :=
  let (negative, cs) := takeSign s.toList
  if !cs.isEmpty && cs.all Char.isDigit then
    let n : Int := digitsValue cs
    some (if negative then -n else n)
  else none

end Decimal

end Unwinding
