import Unwinding.Session
import Unwinding.Proofs.Eval.Steps
import Unwinding.Proofs.Backtrace

/-!
# Diagnostics

A context makes two kinds of diagnostic. `raise` reports an error: without a printer it keeps
only the directive; with one it is the printer's text (or a marker with the printer's
failure), a blank line, and the backtrace of the pending frames. `escaped` reports an exit
that found no handler: the operator, what the exit looked for, a blank line, and a backtrace
of the trail followed by the pending frames. `finish` makes that report before it drops the
trail.

Only the first registration of a printer in a context's life succeeds, and nothing else
touches the printer. Along any session every later registration is refused and the first
printer stays, so what `raise` reports after any history is decided by the first printer
ever registered and by the frames then pending.

The main statements are `raise_after_any_history` and
`escape_report_lists_trail_then_pending`.
-/

namespace Unwinding

namespace Context

variable {α β : Type}

/-! ## Nothing but a registration touches the printer -/

theorem formatter_of_popFrame {c c₁ : Context α} {r : Except Fatal α}
    (popped : c.popFrame = (r, c₁)) : c₁.formatter = c.formatter := by
  unfold popFrame at popped
  split at popped <;> cases popped <;> rfl

@[simp] theorem closeFrame_formatter (c : Context α) (result : Except (Flow α) β) :
    (c.closeFrame result).2.formatter = c.formatter := by
  unfold closeFrame
  split <;> split <;> rfl

/-- A registration succeeds exactly on a context with no printer, and installs its printer. -/
theorem register_of_none {c : Context α} (unregistered : c.formatter = none) (f : Formatter α) :
    c.register f = .ok { c with formatter := some f } := by
  simp [register, unregistered]

/-- A registration on a context that has a printer is refused. -/
theorem register_of_some {c : Context α} {g : Formatter α} (registered : c.formatter = some g)
    (f : Formatter α) : c.register f = .error .alreadyRegistered := by
  simp [register, registered]

variable [Inspect α]

theorem formatter_of_pushFrame {c c₁ : Context α} {frame : α} {r : Except Fatal Unit}
    (pushed : c.pushFrame frame = (r, c₁)) : c₁.formatter = c.formatter := by
  unfold pushFrame at pushed
  split at pushed <;> cases pushed <;> rfl

theorem formatter_of_finish {c c₁ : Context α} {result : Outcome α} {r : Except Fatal α}
    (finished : c.finish result = (r, c₁)) : c₁.formatter = c.formatter := by
  cases finished
  rfl

/-! ## Raising -/

/-- Without a printer a diagnostic keeps only its directive. -/
theorem raise_of_none {c : Context α} (unregistered : c.formatter = none) (directive : String)
    (data : List α) : c.raise directive data = .unformatted directive := by
  simp [raise, unregistered]

/-- With a printer a diagnostic is the printer's text for the directive and data (a marker
with the directive and the text of the printer's failure or breakdown when it has none), a
blank line, and the backtrace of the pending frames. -/
theorem raise_of_some {c : Context α} {f : Formatter α} (registered : c.formatter = some f)
    (directive : String) (data : List α) :
    c.raise directive data =
      .raised ((match f.render directive data with
        | .text s => s
        | .failure e => "#<error formatting " ++ directive ++ ": " ++ e ++ ">"
        | .breakdown cause => "#<error formatting " ++ directive ++ ": " ++ cause.describe ++ ">") ++
        "\n\n" ++ c.backtrace) := by
  cases answered : f.render directive data with
  | text s => simp [raise, registered, Formatter.format_of_text answered]
  | failure e => simp [raise, registered, Formatter.format_of_failure answered]
  | breakdown cause => simp [raise, registered, Formatter.format_of_breakdown answered]

/-! ## Reporting an exit that found no handler -/

/-- The backtrace of the trail followed by the pending frames numbers the trail from 0, in
the order its frames were taken off, and goes on numbering the pending frames, newest
first. -/
theorem renderFrames_unwoundFirst (c : Context α) :
    renderFrames c.formatter c.ledger.unwoundFirst =
      backtraceHeader ++ "\n".intercalate
        (c.ledger.trail.toList.mapIdx (fun n x => toString n ++ ": " ++ renderDatum c.formatter x) ++
          c.ledger.newestFirst.mapIdx
            (fun n x => toString (c.ledger.trail.size + n) ++ ": " ++ renderDatum c.formatter x)) := by
  rw [renderFrames_eq_lines, Ledger.unwoundFirst, List.mapIdx_append, Array.length_toList]
  simp only [Nat.add_comm]

/-- The report of an exit that found no handler: the operator that started the exit, what it
looked for, a blank line, and the backtrace of the trail followed by the pending frames. -/
theorem escaped_eq (c : Context α) (s : Signal α) :
    c.escaped s = .escaped s.kind
      ((match s with
        | .block .. => "return-from"
        | .tag .. => "go"
        | .dynamic .. => "throw") ++ ": " ++
      (match s with
        | .block name _ => "no enclosing block named " ++ name.name
        | .tag level index =>
          "no enclosing tag body at level " ++ toString level ++ " for tag " ++ toString index
        | .dynamic symbol _ => "no catch for tag " ++ renderDatum c.formatter symbol) ++
      "\n\n" ++ renderFrames c.formatter c.ledger.unwoundFirst) := by
  cases s <;> rfl

/-- Ending an evaluation drops the trail and nothing else. -/
theorem finish_context (c : Context α) (result : Outcome α) :
    (c.finish result).2 = { c with ledger := { c.ledger with trail := #[] } } := rfl

/-- Ending an evaluation passes a value and a fatal error on, and reports an exit that got
this far from the context as it was before the trail was dropped. -/
theorem finish_answer (c : Context α) (result : Outcome α) :
    (c.finish result).1 =
      match result with
      | .ok v => .ok v
      | .error (.fatal f) => .error f
      | .error (.signal s) => .error (c.escaped s) := by
  rcases result with flow | v
  · cases flow <;> rfl
  · rfl

/-- An exit with no handler is reported as an escape: its operator and target, a blank line,
and a backtrace of the trail in removal order, then the pending frames newest first; `finish`
passes values and fatal errors on, reports an exit so, and then drops the trail. -/
theorem escape_report_lists_trail_then_pending (c : Context α) (s : Signal α)
    (result : Outcome α) :
    (∃ message, c.escaped s = .escaped s.kind message ∧ (c.escaped s).display = message ∧
      message =
        (match s with
          | .block .. => "return-from"
          | .tag .. => "go"
          | .dynamic .. => "throw") ++ ": " ++
        (match s with
          | .block name _ => "no enclosing block named " ++ name.name
          | .tag level index =>
            "no enclosing tag body at level " ++ toString level ++ " for tag " ++ toString index
          | .dynamic symbol _ => "no catch for tag " ++ renderDatum c.formatter symbol) ++
        "\n\n" ++ "Backtrace:\n" ++ "\n".intercalate
          (c.ledger.trail.toList.mapIdx
              (fun n x => toString n ++ ": " ++ renderDatum c.formatter x) ++
            c.ledger.pending.toList.reverse.mapIdx
              (fun n x => toString (c.ledger.trail.size + n) ++ ": " ++
                renderDatum c.formatter x))) ∧
    (c.finish result).1 =
      (match result with
        | .ok v => .ok v
        | .error (.fatal f) => .error f
        | .error (.signal s') => .error (c.escaped s')) ∧
    (c.finish result).2 = { c with ledger := { c.ledger with trail := #[] } } := by
  refine ⟨⟨_, escaped_eq c s, by rw [escaped_eq]; rfl, ?_⟩, finish_answer c result,
    finish_context c result⟩
  rw [renderFrames_unwoundFirst]
  simp only [String.append_assoc]
  rfl

-- The report of an exit lists the frame it unwound, which the context after it no longer holds.
example :
    (({ ledger := { limit := 2, trail := #[.int 1] } } : Context Value).finish
        (.error (.signal (.tag 0 3)))).1 =
      .error (.escaped .tag "go: no enclosing tag body at level 0 for tag 3\n\nBacktrace:\n0: Int(1)") := by
  rfl

end Context

/-! ## Evaluations keep the printer -/

/-- Keeping the printer is kept by every step of an evaluation: pushes and pops change only
the ledger. -/
theorem formatter_kept :
    Kept fun m m' : Machine => m'.context.formatter = m.context.formatter where
  refl _ := rfl
  trans _ _ _ first second := second.trans first
  log _ _ := rfl
  refused _ _ _ _ refused := Context.formatter_of_pushFrame refused
  framed _ _ _ m' r pushed inner :=
    (Context.closeFrame_formatter m'.context r).trans
      (inner.trans (Context.formatter_of_pushFrame pushed))

/-- A top-level run of a form leaves the printer as it found it. -/
theorem Form.run_formatter {form : Form} {c c' : Context Value} {finish : Bool}
    {r : Outcome Value} {log : List Value} (ran : form.run c finish = .ok (r, log, c')) :
    c'.formatter = c.formatter := by
  unfold Form.run at ran
  split at ran
  · cases ran
  · rename_i r₀ m evaluated
    have kept : m.context.formatter = c.formatter :=
      formatter_kept.evaluation.1 Form.fuelBudget form { context := c } r₀ m evaluated
    split at ran
    · cases ran
      exact kept
    · cases ran
      exact kept

namespace Session

/-! ## Registrations along a session -/

mutual

/-- The registrations a run of steps made, each with its printer and the answer it got, in the
order they were made. The steps inside a frame count where they ran; they did not run when the
frame's push was refused, and then they answered nothing. -/
def registrations : List Step → List (Answer × Nat) → List (Formatter Value × Answer)
  | s :: rest, (a, _) :: answers => stepRegistrations s a ++ registrations rest answers
  | _, _ => []

/-- The registrations one step made, given its answer. -/
def stepRegistrations : Step → Answer → List (Formatter Value × Answer)
  | .register f, a => [(f, a)]
  | .withFrame _ steps _, .framed _ inner => registrations steps inner
  | _, _ => []

end

@[simp] theorem registrations_nil_answers (steps : List Step) : registrations steps [] = [] := by
  cases steps <;> rfl

/-- The registrations of a run keep the printer there was, or else install the first one: the
first succeeds when there was no printer, and every other one is refused. -/
structure RegistersOnce (before : Option (Formatter Value))
    (calls : List (Formatter Value × Answer)) (after : Option (Formatter Value)) : Prop where
  keeps_first : after = before.or (calls.head?.map Prod.fst)
  answers : ∀ n call, calls[n]? = some call →
    call.2 = if n = 0 ∧ before = none then .ok else .refused .alreadyRegistered

namespace RegistersOnce

/-- A run that registers nothing and keeps the printer. -/
theorem unchanged {before after : Option (Formatter Value)} (same : after = before) :
    RegistersOnce before [] after where
  keeps_first := by simp [same]
  answers _ _ none_at := by simp at none_at

/-- A run that makes one registration, which succeeds exactly when there was no printer. -/
theorem singleton {before after : Option (Formatter Value)} {f : Formatter Value} {a : Answer}
    (keeps : after = before.or (some f))
    (answered : a = if before = none then .ok else .refused .alreadyRegistered) :
    RegistersOnce before [(f, a)] after where
  keeps_first := by simpa using keeps
  answers n call at_n := by
    cases n with
    | zero =>
      simp only [List.getElem?_cons_zero, Option.some.injEq] at at_n
      subst at_n
      simpa using answered
    | succ n => simp at at_n

/-- One registration on a context. -/
theorem register {c c' : Context Value} {f : Formatter Value} {a : Answer}
    (ran : runStep (.register f) c = .ok (a, c')) :
    RegistersOnce c.formatter [(f, a)] c'.formatter := by
  cases registered : c.formatter with
  | none =>
    simp only [runStep, Context.register_of_none registered] at ran
    cases ran
    exact .singleton (by simp) (by simp)
  | some g =>
    simp only [runStep, Context.register_of_some registered] at ran
    cases ran
    exact .singleton (by simp [registered]) (by simp)

/-- Two runs one after the other: the printer after both is the one before, or else the
first printer registered in either run, and once a printer is there every registration is
refused. -/
theorem append {p q r : Option (Formatter Value)} {first second : List (Formatter Value × Answer)}
    (before : RegistersOnce p first q) (after : RegistersOnce q second r) :
    RegistersOnce p (first ++ second) r := by
  rcases first with _ | ⟨call, calls⟩
  · -- the first run registered nothing, so it kept the printer
    have same : q = p := by simpa using before.keeps_first
    subst same
    exact after
  · -- the first run registered a printer, so a printer is there for the second
    have present : q = some (p.getD call.1) := by simpa using before.keeps_first
    constructor
    · rw [after.keeps_first, present]
      cases p <;> simp
    · intro n entry at_n
      by_cases inFirst : n < (call :: calls).length
      · rw [List.getElem?_append_left inFirst] at at_n
        exact before.answers n entry at_n
      · rw [List.getElem?_append_right (Nat.le_of_not_lt inFirst)] at at_n
        have refused := after.answers _ entry at_n
        simp only [present, reduceCtorEq, and_false, if_false] at refused
        have later : n ≠ 0 := by simp at inFirst; omega
        simp [refused, later]

end RegistersOnce

/-- A run of steps runs the first step, then the rest from where it left the context, and
answers each step with the depth after it. -/
theorem runSteps_cons_eq (s : Step) (rest : List Step) (c : Context Value) :
    runSteps (s :: rest) c =
      match runStep s c with
      | .error halt => .error halt
      | .ok (a, c₁) => (runSteps rest c₁).map fun (more, c₂) => ((a, c₁.depth) :: more, c₂) := by
  rw [runSteps]
  rcases runStep s c with halt | ⟨a, c₁⟩
  · rfl
  · simp only [bind, Except.bind]
    cases runSteps rest c₁ with
    | error halt => rfl
    | ok answer => rfl

/-- A run of steps that answered ran its first step, then the rest. -/
theorem runSteps_cons_eq_ok {s : Step} {rest : List Step} {c c' : Context Value}
    {answers : List (Answer × Nat)} (ran : runSteps (s :: rest) c = .ok (answers, c')) :
    ∃ a c₁ more, runStep s c = .ok (a, c₁) ∧ runSteps rest c₁ = .ok (more, c') ∧
      answers = (a, c₁.depth) :: more := by
  rw [runSteps_cons_eq] at ran
  rcases first : runStep s c with halt | ⟨a, c₁⟩
  · rw [first] at ran
    cases ran
  · rw [first] at ran
    dsimp only at ran
    rcases later : runSteps rest c₁ with halt | ⟨more, c₂⟩
    · rw [later] at ran
      cases ran
    · rw [later] at ran
      cases ran
      exact ⟨a, c₁, more, rfl, later, rfl⟩

/-- Every step, and so every run of steps, registers as `RegistersOnce` says. -/
theorem registersOnce_of_run :
    (∀ steps c answers c', runSteps steps c = .ok (answers, c') →
      RegistersOnce c.formatter (registrations steps answers) c'.formatter) ∧
    (∀ s c a c', runStep s c = .ok (a, c') →
      RegistersOnce c.formatter (stepRegistrations s a) c'.formatter) := by
  refine runSteps.mutual_induct _ _ ?push ?pushRefused ?pop ?popEmpty ?backtrace ?raise
    ?summary ?register ?registerRefused ?hasFormatter ?frames ?unwound ?eval ?escaped ?finished
    ?finishedFatal ?framedRefused ?framed ?nil ?cons
  case push =>
    intro frame c c₁ pushed a c' ran
    simp only [runStep, pushed] at ran
    cases ran
    exact .unchanged (Context.formatter_of_pushFrame pushed)
  case pushRefused =>
    intro frame c f c₁ refused a c' ran
    simp only [runStep, refused] at ran
    cases ran
    exact .unchanged (Context.formatter_of_pushFrame refused)
  case pop =>
    intro c v c₁ popped a c' ran
    simp only [runStep, popped] at ran
    cases ran
    exact .unchanged (Context.formatter_of_popFrame popped)
  case popEmpty =>
    intro c f c₁ popped a c' ran
    simp only [runStep, popped] at ran
    cases ran
    exact .unchanged (Context.formatter_of_popFrame popped)
  case backtrace => intro c a c' ran; cases ran; exact .unchanged rfl
  case raise => intro directive data c a c' ran; cases ran; exact .unchanged rfl
  case summary => intro c a c' ran; cases ran; exact .unchanged rfl
  case register => intro f c c₁ _ a c' ran; exact .register ran
  case registerRefused => intro f c e _ a c' ran; exact .register ran
  case hasFormatter => intro c a c' ran; cases ran; exact .unchanged rfl
  case frames => intro c a c' ran; cases ran; exact .unchanged rfl
  case unwound => intro c a c' ran; cases ran; exact .unchanged rfl
  case eval =>
    intro form finish c a c' ran
    simp only [runStep] at ran
    cases evaluated : form.run c finish with
    | error halt => rw [evaluated] at ran; cases ran
    | ok answer =>
      obtain ⟨r, log, c₁⟩ := answer
      simp only [evaluated] at ran
      cases ran
      exact .unchanged (Form.run_formatter evaluated)
  case escaped => intro s c a c' ran; cases ran; exact .unchanged rfl
  case finished =>
    intro result c v c₁ finished a c' ran
    simp only [runStep, finished] at ran
    cases ran
    exact .unchanged (Context.formatter_of_finish finished)
  case finishedFatal =>
    intro result c f c₁ finished a c' ran
    simp only [runStep, finished] at ran
    cases ran
    exact .unchanged (Context.formatter_of_finish finished)
  case framedRefused =>
    intro frame steps result c f c₁ refused a c' ran
    simp only [runStep, refused] at ran
    cases ran
    rw [show stepRegistrations (.withFrame frame steps result) (.framed _ []) = [] from
      registrations_nil_answers steps]
    exact .unchanged (Context.formatter_of_pushFrame refused)
  case framed =>
    intro frame steps result c c₁ pushed nested a c' ran
    simp only [runStep, pushed] at ran
    cases inner : runSteps steps c₁ with
    | error halt => rw [inner] at ran; cases ran
    | ok answer =>
      obtain ⟨innerAnswers, c₂⟩ := answer
      simp only [inner] at ran
      cases ran
      have law := nested innerAnswers c₂ inner
      rw [Context.formatter_of_pushFrame pushed] at law
      exact ⟨by rw [Context.closeFrame_formatter]; exact law.keeps_first, law.answers⟩
  case nil => intro c answers c' ran; cases ran; exact .unchanged rfl
  case cons =>
    intro s rest c step restRuns answers c' ran
    obtain ⟨a, c₁, more, first, later, rfl⟩ := runSteps_cons_eq_ok ran
    exact (step a c₁ first).append (restRuns c₁ more c' later)

/-- Steps run after others go on from where those left the context, and their answers follow
those of the others. -/
theorem runSteps_append {steps : List Step} {c c₁ : Context Value}
    {answers : List (Answer × Nat)} (first : runSteps steps c = .ok (answers, c₁))
    (more : List Step) :
    runSteps (steps ++ more) c =
      (runSteps more c₁).map fun (moreAnswers, c₂) => (answers ++ moreAnswers, c₂) := by
  induction steps generalizing c answers with
  | nil =>
    cases first
    rw [List.nil_append]
    cases runSteps more c₁ with
    | error halt => rfl
    | ok answer => rfl
  | cons s rest inductionHypothesis =>
    obtain ⟨a, c₀, restAnswers, stepped, later, rfl⟩ := runSteps_cons_eq_ok first
    rw [List.cons_append, runSteps_cons_eq, stepped]
    dsimp only
    rw [inductionHypothesis later]
    cases runSteps more c₁ with
    | error halt => rfl
    | ok answer => rfl

end Session

/-- After any history from a fresh context the first registration succeeded and later ones were
refused; raising leaves the context as it is and reports the directive alone when nothing was
registered, else the first printer's text, a blank line and the backtrace. -/
theorem raise_after_any_history (limit : Nat) (steps : List Session.Step)
    (answers : List (Session.Answer × Nat)) (c : Context Value)
    (ran : Session.runSteps steps (Context.withLimit limit) = .ok (answers, c))
    (directive : String) (data : List Value) :
    (∀ n call, (Session.registrations steps answers)[n]? = some call →
      call.2 = if n = 0 then .ok else .refused .alreadyRegistered) ∧
    c.formatter = (Session.registrations steps answers).head?.map Prod.fst ∧
    Session.runSteps (steps ++ [.raise directive data]) (Context.withLimit limit) =
      .ok (answers ++ [(.fatal (c.raise directive data), c.depth)], c) ∧
    (c.raise directive data = .unformatted directive ↔ Session.registrations steps answers = []) ∧
    (∀ f, (Session.registrations steps answers).head?.map Prod.fst = some f →
      ∃ message, c.raise directive data = .raised message ∧
        (c.raise directive data).display = message ∧
        message =
          (match f.render directive data with
            | .text s => s
            | .failure e => "#<error formatting " ++ directive ++ ": " ++ e ++ ">"
            | .breakdown cause =>
              "#<error formatting " ++ directive ++ ": " ++ cause.describe ++ ">") ++
          "\n\n" ++ c.backtrace) := by
  have law := Session.registersOnce_of_run.1 steps _ answers c ran
  have printer : c.formatter = (Session.registrations steps answers).head?.map Prod.fst := by
    simpa [Context.withLimit] using law.keeps_first
  refine ⟨fun n call at_n => ?_, printer, ?_, ?_, fun f first => ?_⟩
  · simpa [Context.withLimit] using law.answers n call at_n
  · rw [Session.runSteps_append ran]
    rfl
  · -- a diagnostic keeps only its directive exactly when there is no printer
    cases calls : Session.registrations steps answers with
    | nil => simp [Context.raise_of_none (by simpa [calls] using printer)]
    | cons call rest =>
      rw [Context.raise_of_some (by simpa [calls] using printer)]
      simp
  · have raised := Context.raise_of_some (printer.trans first) directive data
    exact ⟨_, raised, by rw [raised]; rfl, rfl⟩

/-- A second printer is refused: after a push, a registration of the label printer, another
push and a registration of the echo printer, a diagnostic is printed by the label printer over
the two pending frames. -/
theorem second_printer_refused_first_reports :
    ∃ answers c,
      Session.runSteps [.push (.int 1), .register Printers.label, .push (.int 2),
          .register Printers.echo] (Context.withLimit 4) = .ok (answers, c) ∧
      (Session.registrations [.push (.int 1), .register Printers.label, .push (.int 2),
          .register Printers.echo] answers).map Prod.snd = [.ok, .refused .alreadyRegistered] ∧
      (c.raise "oops ~S" [.int 5]).display = "oops 5\n\nBacktrace:\n0: 2\n1: 1" := by
  refine ⟨_, _, rfl, ?_⟩
  obtain ⟨-, -, -, -, reported⟩ := raise_after_any_history 4
    [.push (.int 1), .register Printers.label, .push (.int 2), .register Printers.echo] _ _ rfl
    "oops ~S" [.int 5]
  obtain ⟨message, -, shown, text⟩ := reported Printers.label rfl
  refine ⟨rfl, ?_⟩
  rw [shown, text]
  rfl

end Unwinding
