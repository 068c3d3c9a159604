import Unwinding.Form.Eval

/-!
# Sessions

A session drives one execution context through a list of steps (push and pop frames,
raise, register a printer, evaluate forms, run nested steps inside a frame) and answers
each step, together with the depth after it.
-/

namespace Unwinding

namespace Session

/-- One step of a session. -/
inductive Step where
  | push (frame : Value)
  | pop
  | backtrace
  | raise (directive : String) (data : List Value)
  | formatterSummary
  | register (formatter : Formatter Value)
  | hasFormatter
  | frames
  | unwound
  /-- Evaluates a form; with `finish` an exit that got this far is reported as escaped. -/
  | eval (form : Form) (finish : Bool)
  | escaped (s : Signal Value)
  | finish (result : Outcome Value)
  /-- Runs the nested steps inside a frame; the body then gives `result`. -/
  | withFrame (frame : Value) (steps : List Step) (result : Outcome Value)

/-- The answer to one step. -/
inductive Answer where
  | ok
  | fatal (f : Fatal)
  | value (v : Value)
  | backtrace (text : String)
  | formatterSummary (text : String)
  | refused (e : RegistrationError)
  | hasFormatter (present : Bool)
  | frames (fs : List Value)
  | evaluated (result : Outcome Value) (log : List Value)
  /-- The result of a frame's body and the answers of its steps, each with its depth. -/
  | framed (result : Outcome Value) (inner : List (Answer × Nat))

mutual

/-- Runs steps in turn, answering each together with the depth after it. -/
def runSteps : List Step → Context Value → Except Halt (List (Answer × Nat) × Context Value)
  | [], c => .ok ([], c)
  | s :: rest, c => do
    let (a, afterStep) ← runStep s c
    let (more, afterRest) ← runSteps rest afterStep
    pure ((a, afterStep.depth) :: more, afterRest)

/-- Runs one step. -/
def runStep : Step → Context Value → Except Halt (Answer × Context Value)
  | .push frame, c =>
    match c.pushFrame frame with
    | (.ok (), c) => .ok (.ok, c)
    | (.error f, c) => .ok (.fatal f, c)
  | .pop, c =>
    match c.popFrame with
    | (.ok v, c) => .ok (.value v, c)
    | (.error f, c) => .ok (.fatal f, c)
  | .backtrace, c => .ok (.backtrace c.backtrace, c)
  | .raise directive data, c => .ok (.fatal (c.raise directive data), c)
  | .formatterSummary, c => .ok (.formatterSummary c.formatterSummary, c)
  | .register f, c =>
    match c.register f with
    | .ok c => .ok (.ok, c)
    | .error e => .ok (.refused e, c)
  | .hasFormatter, c => .ok (.hasFormatter c.formatter.isSome, c)
  | .frames, c => .ok (.frames c.ledger.newestFirst, c)
  | .unwound, c => .ok (.frames c.ledger.unwoundFirst, c)
  | .eval form finish, c => do
    let (r, log, c) ← form.run c finish
    pure (.evaluated r log, c)
  | .escaped s, c => .ok (.fatal (c.escaped s), c)
  | .finish result, c =>
    match c.finish result with
    | (.ok v, c) => .ok (.value v, c)
    | (.error f, c) => .ok (.fatal f, c)
  | .withFrame frame steps result, c =>
    match c.pushFrame frame with
    | (.error f, c) => .ok (.framed (.error (.fatal f)) [], c)
    | (.ok (), c) => do
      let (inner, c) ← runSteps steps c
      let (r, c) := c.closeFrame result
      pure (.framed r inner, c)

end

end Session

end Unwinding
