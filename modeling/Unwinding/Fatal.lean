import Unwinding.Signal

/-!
# Fatal errors and the flow of an evaluation

A fatal error ends an evaluation: no handler takes it. An evaluation either gives a value
or unwinds with a `Flow`: an exit looking for its handler, or a fatal error.
-/

namespace Unwinding

/-- The directive of the report made when a push is refused at the depth limit. -/
def stackOverflowDirective : String := "stack overflow"

/-- Errors that no handler takes. -/
inductive Fatal where
  /-- A diagnostic raised with a printer registered: its text and a backtrace. -/
  | raised (message : String)
  /-- A diagnostic raised before any printer was registered. -/
  | unformatted (directive : String)
  /-- A push refused at the depth limit, with the report raised at that point. -/
  | stackOverflow (limit : Nat) (report : Fatal)
  /-- A pop on a ledger with no pending frame. -/
  | ledgerUnderflow
  /-- An exit that no handler took. -/
  | escaped (kind : SignalKind) (message : String)
  /-- An error signalled by the program itself. -/
  | error (message : String)
  deriving DecidableEq, Inhabited

namespace Fatal

/-- The text shown for a fatal error. A stack overflow shows its report. -/
def display : Fatal → String
  | raised message => message
  | unformatted directive =>
    "fatal error raised before a formatter was registered (" ++ directive ++ ")"
  | stackOverflow _ report => report.display
  | ledgerUnderflow => "frame ledger underflow: pop with no pending frame"
  | escaped _ message => message
  | error message => message

/-- Whether the error was raised without a printer, looking through overflow reports. -/
def isUnformatted : Fatal → Bool
  | unformatted _ => true
  | stackOverflow _ report => report.isUnformatted
  | _ => false

end Fatal

/-- How an evaluation unwinds: an exit in flight, or a fatal error. -/
inductive Flow (α : Type) where
  | signal (s : Signal α)
  | fatal (f : Fatal)

/-- The result of an evaluation: a value, or the flow it unwinds with. -/
abbrev Outcome (α : Type) := Except (Flow α) α

end Unwinding
