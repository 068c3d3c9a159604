/-!
# TOML values

The values a TOML document holds: strings, 64-bit integers, floats, booleans, dates and
times, arrays and tables. Dates and times are written back in their normal form: a `T`
between date and time, seconds always shown, a fraction of a second without trailing
zeros, and an offset as `Z` or `±hh:mm`.
-/

namespace Unwinding

namespace Toml

/-- A calendar date. -/
structure Date where
  year : Nat
  month : Nat
  day : Nat
  deriving DecidableEq, Inhabited

/-- A time of day, to the nanosecond. -/
structure Time where
  hour : Nat
  minute : Nat
  second : Nat
  nanosecond : Nat
  deriving DecidableEq, Inhabited

/-- The offset of a time from UTC. -/
inductive Offset where
  | utc
  | minutes (m : Int)
  deriving DecidableEq, Inhabited

/-- A date, a time, or both, perhaps with an offset. -/
structure Datetime where
  date : Option Date
  time : Option Time
  offset : Option Offset
  deriving DecidableEq, Inhabited

/-- A value of a TOML document. -/
inductive Value where
  | string (s : String)
  | integer (n : Int)
  | float (x : Float)
  | boolean (b : Bool)
  | datetime (d : Datetime)
  | array (items : List Value)
  | table (entries : List (String × Value))
  deriving Inhabited

/-- The decimal digits of `n`, padded with zeros to `width`. -/
def padded (width n : Nat) : String :=
  let s := toString n
  String.ofList (List.replicate (width - s.length) '0') ++ s

/-- The normal text of a date. -/
def Date.render (d : Date) : String :=
  padded 4 d.year ++ "-" ++ padded 2 d.month ++ "-" ++ padded 2 d.day

/-- The normal text of a time: the fraction without trailing zeros, and none when zero. -/
def Time.render (t : Time) : String :=
  let base := padded 2 t.hour ++ ":" ++ padded 2 t.minute ++ ":" ++ padded 2 t.second
  if t.nanosecond == 0 then base
  else
    let digits := (padded 9 t.nanosecond).toList.reverse.dropWhile (· == '0') |>.reverse
    base ++ "." ++ String.ofList digits

/-- The normal text of an offset. -/
def Offset.render : Offset → String
  | .utc => "Z"
  | .minutes m =>
    let sign := if m < 0 then "-" else "+"
    let a := m.natAbs
    sign ++ padded 2 (a / 60) ++ ":" ++ padded 2 (a % 60)

/-- The normal text of a date and time. -/
def Datetime.render (d : Datetime) : String :=
  let datePart := match d.date with
    | some date => date.render
    | none => ""
  let timePart := match d.time with
    | some time => (if d.date.isSome then "T" else "") ++ time.render
    | none => ""
  let offsetPart := match d.offset with
    | some o => o.render
    | none => ""
  datePart ++ timePart ++ offsetPart

end Toml

end Unwinding
