import Unwinding.Decimal.Shortest

/-!
# Writing a double as text

The shortest digits of a double laid out positionally, never with an exponent: `1e21` is
written with all its zeros and `1e-7` as `0.0000001`. Whether a whole number keeps a `.0`
is the one choice that differs between the texts this library writes.
-/

namespace Unwinding

namespace Decimal

/-- How a double is written. -/
structure FloatStyle where
  /-- A finite whole number is written with `.0`. -/
  pointZero : Bool
  nanText : String := "NaN"
  infinityText : String := "inf"
  tie : Tie := .up

/-- Configuration text of a number: no `.0` on whole numbers. -/
def FloatStyle.plain : FloatStyle := { pointZero := false }

/-- Text of a number in a type mismatch message: a whole number keeps `.0`. -/
def FloatStyle.pointed : FloatStyle := { pointZero := true }

/-- `count` zeros. -/
def zeros (count : Nat) : String := String.ofList (List.replicate count '0')

/-- The positional text of `digits * 10^exp`. -/
def Dec.positional (d : Dec) : String :=
  let s := toString d.digits
  let point : Int := s.length + d.exp
  if point ≤ 0 then "0." ++ zeros (-point).toNat ++ s
  else if point < s.length then
    String.ofList (s.toList.take point.toNat) ++ "." ++ String.ofList (s.toList.drop point.toNat)
  else s ++ zeros (point - s.length).toNat

/-- The text of a double in the given style. -/
def render (style : FloatStyle) (x : Float) : String :=
  let bits := x.toBits
  let negative := bits >>> 63 == 1
  let sign := if negative then "-" else ""
  if x.isNaN then style.nanText
  else if x.isInf then sign ++ style.infinityText
  else
    let text := ((Binary.ofBits bits).shortest style.tie).positional
    let text := if style.pointZero && !text.contains '.' then text ++ ".0" else text
    sign ++ text

end Decimal

end Unwinding
