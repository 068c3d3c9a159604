/-!
# Shortest decimal digits of a double

The decimal of fewest digits that reads back as a given finite double, and of those the one
closest to it. A double stands for the interval of reals that round to it: from halfway to
its lower neighbour to halfway to its upper one, ends included exactly when its mantissa is
even. The search tries grids of one, two, … significant digits; on each it tests the
value's two neighbours by exact comparison of naturals, and the first grid with a hit wins.
-/

namespace Unwinding

namespace Decimal

/-- A finite non-negative double, `m * 2^q`. -/
structure Binary where
  m : Nat
  q : Int
  /-- The gap to the value below is half the gap to the value above. -/
  narrowBelow : Bool

/-- The finite value of a double's bits, sign left out. -/
def Binary.ofBits (b : UInt64) : Binary :=
  let e := ((b >>> 52) &&& 0x7FF).toNat
  let f := (b &&& 0xFFFFFFFFFFFFF).toNat
  if e == 0 then ⟨f, -1074, false⟩ else ⟨Nat.pow 2 52 + f, (e : Int) - 1075, f == 0 && e > 1⟩

/-- The decimal `digits * 10^exp`. -/
structure Dec where
  digits : Nat
  exp : Int
  deriving DecidableEq, Inhabited

/-- Compares `a * 10^i` with `n * 2^j`, exactly. -/
def cmpScaled (a : Nat) (i : Int) (n : Nat) (j : Int) : Ordering :=
  compare (a * Nat.pow 10 i.toNat * Nat.pow 2 (-j).toNat) (n * Nat.pow 2 j.toNat * Nat.pow 10 (-i).toNat)

/-- Whether `d` lies among the reals that round to `x` (to nearest, ties to even). -/
def Binary.readsBack (x : Binary) (d : Dec) : Bool :=
  let lo := if x.narrowBelow then 4 * x.m - 1 else 4 * x.m - 2
  let hi := 4 * x.m + 2
  let incl := x.m % 2 == 0
  let cl := cmpScaled d.digits d.exp lo (x.q - 2)
  let ch := cmpScaled d.digits d.exp hi (x.q - 2)
  (cl == .gt || (incl && cl == .eq)) && (ch == .lt || (incl && ch == .eq))

/-- The least `k` with `x < 10^k`, for a non-zero `x`: an estimate from the binary
logarithm, corrected by exact comparisons. -/
def Binary.scale (x : Binary) : Int :=
  let estimate : Int := ((Nat.log2 x.m : Int) + x.q) * 30103 / 100000
  let candidates : List Int := (List.range 6).map fun (i : Nat) => estimate - 2 + (i : Int)
  match candidates.find? fun k => cmpScaled 1 k x.m x.q == .gt with
  | some k => k
  | none => estimate + 4

/-- Which of two equally close candidates is taken. -/
inductive Tie where
  | toEven
  | up
  deriving DecidableEq, Inhabited

/-- The neighbours of `x` on the grid `10^g`: the one below (or `x` itself) and, when `x`
is not on the grid, the one above. -/
def Binary.neighbours (x : Binary) (g : Int) : Nat × Option Nat :=
  let num := x.m * Nat.pow 2 x.q.toNat * Nat.pow 10 (-g).toNat
  let den := Nat.pow 2 (-x.q).toNat * Nat.pow 10 g.toNat
  (num / den, if num % den == 0 then none else some (num / den + 1))

/-- The candidate on the grid `10^g` that reads back, the closer one of two. -/
def Binary.onGrid (x : Binary) (tie : Tie) (g : Int) : Option Dec :=
  let (below, above?) := x.neighbours g
  let lower : Option Dec := if x.readsBack ⟨below, g⟩ then some ⟨below, g⟩ else none
  let upper : Option Dec :=
    match above? with
    | some above => if x.readsBack ⟨above, g⟩ then some ⟨above, g⟩ else none
    | none => none
  match lower, upper with
  | some l, some u =>
    -- twice the value against the sum of the two candidates
    match cmpScaled (2 * below + 1) g (x.m * 2) x.q with
    | .gt => some l
    | .lt => some u
    | .eq => if tie == .toEven && below % 2 == 0 then some l else some u
  | some l, none => some l
  | none, some u => some u
  | none, none => none

/-- Moves trailing zeros of the digits into the exponent. -/
def Dec.strip (d : Dec) : Dec :=
  let rec go : Nat → Nat → Int → Dec
    | 0, digits, exp => ⟨digits, exp⟩
    | fuel + 1, digits, exp =>
      if digits != 0 && digits % 10 == 0 then go fuel (digits / 10) (exp + 1) else ⟨digits, exp⟩
  go 400 d.digits d.exp

/-- The exact decimal value of `m * 2^q`. -/
def Binary.exact (x : Binary) : Dec :=
  if x.q ≥ 0 then ⟨x.m * Nat.pow 2 x.q.toNat, 0⟩ else ⟨x.m * Nat.pow 5 (-x.q).toNat, x.q⟩

/-- The shortest decimal that reads back as `x`, the closest of its length. -/
def Binary.shortest (x : Binary) (tie : Tie) : Dec :=
  if x.m == 0 then ⟨0, 0⟩
  else
    let k := x.scale
    match (List.range 17).findSome? fun n => x.onGrid tie (k - (n + 1 : Nat)) with
    | some d => d.strip
    | none => x.exact.strip

end Decimal

end Unwinding
