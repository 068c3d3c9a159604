import Unwinding.Form
import Unwinding.Context
import Unwinding.Handler

/-!
# Evaluating forms

Every form is evaluated inside a frame of its own, pushed and taken off through the
context, so the pending frames after an evaluation are those before it, and an exit leaves
its path on the trail. Handlers are the kernel's: a block applies `catchBlock`, a catcher
`catchThrow`, a tag body `catchTag`.

A tag body can loop for ever, so evaluation takes fuel; running out is an answer of its
own (`Halt.outOfFuel`), as is a `go` to a tag that a tag body counts but does not have.
-/

namespace Unwinding

/-- The state an evaluation works on: the context, and the log that `emit` appends to. -/
structure Machine where
  context : Context Value
  log : Array Value := #[]

/-- Why an evaluation stopped without an answer. -/
inductive Halt where
  | outOfFuel
  /-- A tag body took a `go` to a tag index it counts but holds no tag for. -/
  | missingTag (level index : Nat)
  deriving DecidableEq, Inhabited

/-- The answer of an evaluation step and the state after it. -/
abbrev Run (β : Type) := Except Halt (Except (Flow Value) β × Machine)

namespace Run

variable {β γ : Type}

/-- Goes on with the outcome of a sub-evaluation and the state after it; a halt stops
everything. -/
def onOutcome (x : Run β) (k : Except (Flow Value) β → Machine → Run γ) : Run γ :=
  match x with
  | .ok (r, m) => k r m
  | .error halt => .error halt

/-- Goes on with the value of a finished sub-evaluation; an unwinding one is passed on as
it is. -/
def onValue (x : Run β) (k : β → Machine → Run γ) : Run γ :=
  onOutcome x fun r m =>
    match r with
    | .ok v => k v m
    | .error flow => .ok (.error flow, m)

end Run

mutual

/-- Evaluates a form inside a frame labelled for it. -/
def eval : Nat → Form → Machine → Run Value
  | 0, _, _ => .error .outOfFuel
  | fuel + 1, form, m =>
    match m.context.pushFrame form.frame with
    | (.error e, c) => .ok (.error (.fatal e), { m with context := c })
    | (.ok (), c) =>
      Run.onOutcome (evalIn fuel form { m with context := c }) fun r m' =>
        let (r', c') := m'.context.closeFrame r
        .ok (r', { m' with context := c' })

/-- What a form does inside its frame. -/
def evalIn : Nat → Form → Machine → Run Value
  | 0, _, _ => .error .outOfFuel
  | fuel + 1, form, m =>
    match form with
    | .const v => .ok (.ok v, m)
    | .emit inner =>
      Run.onValue (eval fuel inner m) fun v m => .ok (.ok v, { m with log := m.log.push v })
    | .progn body => evalBody fuel body m
    | .block name body =>
      Run.onOutcome (evalBody fuel body m) fun r m => .ok (catchBlock name r, m)
    | .returnFrom name value =>
      Run.onValue (eval fuel value m) fun v m => .ok (.error (.signal (.block name v)), m)
    | .tagbody level clauses => runClauses fuel level clauses 0 m
    | .go level index => .ok (.error (.signal (.tag level index)), m)
    | .whenLogShorter length inner =>
      if m.log.size < length then eval fuel inner m else .ok (.ok .nil, m)
    | .catcher tag body =>
      Run.onValue (eval fuel tag m) fun t m =>
        Run.onOutcome (evalBody fuel body m) fun r m => .ok (catchThrow t r, m)
    | .throw tag value =>
      Run.onValue (eval fuel tag m) fun t m =>
        Run.onValue (eval fuel value m) fun v m => .ok (.error (.signal (.dynamic t v)), m)
    | .raise directive data =>
      Run.onValue (evalList fuel data m) fun vs m =>
        .ok (.error (.fatal (m.context.raise directive vs)), m)
    | .error message => .ok (.error (.fatal (.error message)), m)
    | .recurse 0 body => eval fuel body m
    | .recurse (depth + 1) body => eval fuel (.recurse depth body) m

/-- Evaluates forms in turn and gives the last value, or `nil` for none. -/
def evalBody : Nat → List Form → Machine → Run Value
  | 0, _, _ => .error .outOfFuel
  | _ + 1, [], m => .ok (.ok .nil, m)
  | fuel + 1, [form], m => eval fuel form m
  | fuel + 1, form :: rest, m =>
    Run.onValue (eval fuel form m) fun _ m => evalBody fuel rest m

/-- Evaluates forms in turn and gives all their values. -/
def evalList : Nat → List Form → Machine → Run (List Value)
  | 0, _, _ => .error .outOfFuel
  | _ + 1, [], m => .ok (.ok [], m)
  | fuel + 1, form :: rest, m =>
    Run.onValue (eval fuel form m) fun v m =>
      Run.onValue (evalList fuel rest m) fun vs m => .ok (.ok (v :: vs), m)

/-- Runs the clauses of a tag body of `level` from position `pc`. -/
def runClauses : Nat → Nat → List Clause → Nat → Machine → Run Value
  | 0, _, _, _, _ => .error .outOfFuel
  | fuel + 1, level, clauses, pc, m =>
    match clauses[pc]? with
    | none => .ok (.ok .nil, m)
    | some (.tag _) => runClauses fuel level clauses (pc + 1) m
    | some (.stmt form) =>
      Run.onOutcome (eval fuel form m) fun r m =>
      match catchTag level (tagCount clauses) r with
      | .error flow => .ok (.error flow, m)
      | .ok (.value _) => runClauses fuel level clauses (pc + 1) m
      | .ok (.go index) =>
        match tagPosition clauses index with
        | some target => runClauses fuel level clauses target m
        | none => .error (.missingTag level index)

end

namespace Form

/-- The fuel a top-level evaluation is given. -/
def fuelBudget : Nat := 1000000

/-- Evaluates a form on a context with an empty log; with `finish` the result goes
through `Context.finish`, so an exit that got this far is reported as escaped. -/
def run (form : Form) (context : Context Value) (finish : Bool) :
    Except Halt (Outcome Value × List Value × Context Value) :=
  match eval fuelBudget form { context } with
  | .error halt => .error halt
  | .ok (r, m) =>
    if finish then
      let (r', c) := m.context.finish r
      .ok (r'.mapError Flow.fatal, m.log.toList, c)
    else
      .ok (r, m.log.toList, m.context)

end Form

end Unwinding
