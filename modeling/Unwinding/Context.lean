import Unwinding.Fatal
import Unwinding.Ledger
import Unwinding.Backtrace

/-!
# The execution context

A ledger and a printer that can be registered once. The context raises diagnostics (with
a backtrace when a printer is there), reports exits that found no handler, and runs a body
inside a frame: `withFrame` pushes the frame, runs the body, and takes the frame off again,
onto the trail when the body unwinds with an exit.
-/

namespace Unwinding

/-- A frame ledger and the printer registered for it, if any. -/
structure Context (α : Type) where
  ledger : Ledger α
  formatter : Option (Formatter α) := none

/-- Why a printer could not be registered. -/
inductive RegistrationError where
  | alreadyRegistered
  deriving DecidableEq, Inhabited

/-- The text of a registration error. -/
def RegistrationError.message : RegistrationError → String
  | .alreadyRegistered => "a formatter is already registered for this context"

namespace Context

variable {α β : Type}

/-- A context with no frames and no printer. -/
def withLimit (limit : Nat) : Context α := { ledger := Ledger.empty limit }

/-- The number of pending frames. -/
def depth (c : Context α) : Nat := c.ledger.depth

/-- The depth limit. -/
def limit (c : Context α) : Nat := c.ledger.limit

/-- Registers the printer; only the first registration in a context's life succeeds. -/
def register (c : Context α) (f : Formatter α) : Except RegistrationError (Context α) :=
  match c.formatter with
  | some _ => .error .alreadyRegistered
  | none => .ok { c with formatter := some f }

/-- Whether a printer is registered, as the diagnostics show it. -/
def formatterSummary (c : Context α) : String :=
  match c.formatter with
  | some _ => "Some(Formatter(..))"
  | none => "None"

variable [Inspect α]

/-- The pending frames, newest first, as a backtrace. -/
def backtrace (c : Context α) : String := renderFrames c.formatter c.ledger.newestFirst

/-- A diagnostic. Without a printer it records only the directive. With one it is the
printed text (or a marker with the printer's failure), a blank line, and the backtrace. -/
def raise (c : Context α) (directive : String) (data : List α) : Fatal :=
  match c.formatter with
  | none => .unformatted directive
  | some f =>
    let text :=
      match f.format directive data with
      | .ok text => text
      | .error e => "#<error formatting " ++ directive ++ ": " ++ e ++ ">"
    .raised (text ++ "\n\n" ++ c.backtrace)

/-- Pushes a frame. At the limit the push is refused with a stack overflow whose report is
raised on the ledger as it is then. -/
def pushFrame (c : Context α) (frame : α) : Except Fatal Unit × Context α :=
  match c.ledger.push frame with
  | (.ok (), l) => (.ok (), { c with ledger := l })
  | (.error e, l) =>
    let c' := { c with ledger := l }
    (.error (.stackOverflow e.limit (c'.raise stackOverflowDirective [])), c')

/-- Pops the newest frame; an empty ledger is an underflow and stays as it was. -/
@[inline] def popFrame (c : Context α) : Except Fatal α × Context α :=
  match c.ledger.pop with
  | some (frame, l) => (.ok frame, { c with ledger := l })
  | none => (.error .ledgerUnderflow, c)

/-- Takes off the frame a body ran in. After an exit the frame goes onto the trail, so the
trail keeps the path of the exit; otherwise the frame is popped and the trail dropped. -/
def closeFrame (c : Context α) (result : Except (Flow α) β) : Except (Flow α) β × Context α :=
  match result with
  | .error (.signal _) =>
    match c.ledger.popUnwinding with
    | some l => (result, { c with ledger := l })
    | none => (.error (.fatal .ledgerUnderflow), c)
  | _ =>
    match c.ledger.pop with
    | some (_, l) => (result, { c with ledger := l.settle })
    | none => (.error (.fatal .ledgerUnderflow), c)

/-- Runs `body` inside `frame`: push, run, take the frame off. A refused push does not run
the body. -/
def withFrame (c : Context α) (frame : α) (body : Context α → Except (Flow α) β × Context α) :
    Except (Flow α) β × Context α :=
  match c.pushFrame frame with
  | (.error e, c') => (.error (.fatal e), c')
  | (.ok (), c') =>
    let (result, c'') := body c'
    c''.closeFrame result

/-- The fatal error for an exit that found no handler: the operator, what it looked for,
and a backtrace of the trail followed by the pending frames. -/
def escaped (c : Context α) (s : Signal α) : Fatal :=
  let target :=
    match s with
    | .block name _ => "no enclosing block named " ++ name.name
    | .tag level index =>
      "no enclosing tag body at level " ++ toString level ++ " for tag " ++ toString index
    | .dynamic symbol _ => "no catch for tag " ++ renderDatum c.formatter symbol
  .escaped s.kind
    (s.operator ++ ": " ++ target ++ "\n\n" ++ renderFrames c.formatter c.ledger.unwoundFirst)

/-- Ends a top-level evaluation: an exit that got this far escaped, and the trail is
dropped in every case. -/
def finish (c : Context α) (result : Outcome α) : Except Fatal α × Context α :=
  let answer :=
    match result with
    | .ok v => .ok v
    | .error (.fatal f) => .error f
    | .error (.signal s) => .error (c.escaped s)
  (answer, { c with ledger := c.ledger.settle })

end Context

end Unwinding
