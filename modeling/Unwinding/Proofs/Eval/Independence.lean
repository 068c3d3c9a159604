import Unwinding.Proofs.Eval.Simulation
import Unwinding.Value.Printers

/-!
# What an evaluation does not depend on

Two facts about every evaluation, each an instance of `Simulation`.

The printer registered decides no step of an evaluation: two evaluations that differ only in
their printers make the same steps, keep the same log and ledger, and answer alike, apart from
the texts of diagnostics and whether a diagnostic was printed or not
(`eval_same_under_any_printer`).

The depth limit matters only where it is reached: under a larger limit an evaluation that
does not overflow the smaller one makes the same steps and gives the same answer, texts of
diagnostics included; and an evaluation that overflows the larger limit overflows the
smaller one first (`eval_depth_limit_shows_only_in_overflow`).
-/

namespace Unwinding

/-! ## Shapes of fatal errors -/

/-- What a fatal error says apart from the texts of diagnostics: its kind, the limit and the
report's shape of an overflow, the kind of an escaped exit, and the message of a program
error. A printed and an unprinted diagnostic have one shape. -/
inductive Fatal.Shape where
  | diagnostic
  | stackOverflow (limit : Nat) (report : Fatal.Shape)
  | ledgerUnderflow
  | escaped (kind : SignalKind)
  | error (message : String)
  deriving DecidableEq

namespace Fatal

/-- The shape of a fatal error. -/
def shape : Fatal → Fatal.Shape
  | raised _ | unformatted _ => .diagnostic
  | stackOverflow limit report => .stackOverflow limit report.shape
  | ledgerUnderflow => .ledgerUnderflow
  | escaped kind _ => .escaped kind
  | error message => .error message

end Fatal

namespace Context

variable {α : Type} [Inspect α]

/-- Every diagnostic has the one shape of diagnostics, printed or not. -/
@[simp] theorem shape_raise (c : Context α) (directive : String) (data : List α) :
    (c.raise directive data).shape = .diagnostic := by
  unfold raise
  split <;> rfl

/-- An escaped exit has the shape of its kind, whatever its report says. -/
@[simp] theorem shape_escaped (c : Context α) (s : Signal α) :
    (c.escaped s).shape = .escaped s.kind := rfl

/-- A diagnostic reads only the printer and the pending frames. -/
theorem raise_congr {c₁ c₂ : Context α} (sameFormatter : c₂.formatter = c₁.formatter)
    (samePending : c₂.ledger.pending = c₁.ledger.pending) (directive : String) (data : List α) :
    c₂.raise directive data = c₁.raise directive data := by
  simp only [raise, backtrace, Ledger.newestFirst, sameFormatter, samePending]

/-- Closing a top-level evaluation reads only the printer, the pending frames and the trail. -/
theorem finish_congr {c₁ c₂ : Context α} (sameFormatter : c₂.formatter = c₁.formatter)
    (samePending : c₂.ledger.pending = c₁.ledger.pending)
    (sameTrail : c₂.ledger.trail = c₁.ledger.trail) (result : Outcome α) :
    (c₂.finish result).1 = (c₁.finish result).1 := by
  simp only [finish, escaped, Ledger.unwoundFirst, Ledger.newestFirst, sameFormatter,
    samePending, sameTrail]

end Context

/-! ## The printer -/

/-- Two machines that differ at most in their printers. -/
structure Machine.AgreeButPrinter (m₁ m₂ : Machine) : Prop where
  log_eq : m₂.log = m₁.log
  ledger_eq : m₂.context.ledger = m₁.context.ledger

/-- Machines that differ only in their printers make the same pushes and take off the same
frames, and every fatal error they meet has one shape on both: a diagnostic is a diagnostic,
printed or not. -/
theorem printer_simulation :
    Simulation Machine.AgreeButPrinter (fun f₁ f₂ => f₁.shape = f₂.shape) (fun _ => False) where
  log_eq related := related.log_eq.symm
  log_push v related := ⟨by simp [related.log_eq], related.ledger_eq⟩
  push {m₁ m₂} frame related := by
    have sameDepth : m₂.context.depth = m₁.context.depth := by
      simp [Context.depth, related.ledger_eq]
    have sameLimit : m₂.context.limit = m₁.context.limit := by
      simp [Context.limit, related.ledger_eq]
    by_cases room : m₁.context.depth < m₁.context.limit
    · refine .accepted (Context.pushFrame_of_lt room frame)
        (Context.pushFrame_of_lt (by rwa [sameDepth, sameLimit]) frame) ⟨related.log_eq, ?_⟩
      simp [related.ledger_eq]
    · have full : m₁.context.limit ≤ m₁.context.depth := Nat.le_of_not_lt room
      refine .refused (Context.pushFrame_of_le full frame)
        (Context.pushFrame_of_le (by rwa [sameDepth, sameLimit]) frame) ?_ ⟨related.log_eq, ?_⟩
      · simp [Fatal.shape, sameLimit]
      · simp [related.ledger_eq]
  close {m₁ m₂ r₁ r₂} related agrees := by
    obtain ⟨closed, pending, trail, closed₁, closed₂⟩ :=
      Context.closeFrame_agrees (congrArg Ledger.pending related.ledger_eq)
        (congrArg Ledger.trail related.ledger_eq) agrees rfl
    refine ⟨closed, related.log_eq, ?_⟩
    simp [closed₁, closed₂, related.ledger_eq]
  raise directive data _ := by simp
  error _ := rfl

/-- Evaluations on machines that differ only in their printers halt together and keep the same
log, pending frames and trail; their answers agree up to the texts of diagnostics. -/
theorem eval_same_under_any_printer (n : Nat) (form : Form) (m₁ m₂ : Machine)
    (sameLog : m₂.log = m₁.log) (sameLedger : m₂.context.ledger = m₁.context.ledger) :
    (∀ halt, eval n form m₁ = .error halt ↔ eval n form m₂ = .error halt) ∧
      ∀ r₁ m₁' r₂ m₂', eval n form m₁ = .ok (r₁, m₁') → eval n form m₂ = .ok (r₂, m₂') →
        m₂'.log = m₁'.log ∧ m₂'.context.ledger = m₁'.context.ledger ∧
        Agrees (fun f₁ f₂ => f₁.shape = f₂.shape) r₁ r₂ ∧
        (m₁'.context.finish r₁).1.mapError Fatal.shape =
          (m₂'.context.finish r₂).1.mapError Fatal.shape := by
  have similar := printer_simulation.evaluation.1 n form m₁ m₂ ⟨sameLog, sameLedger⟩
  refine ⟨similar.halt_iff fun _ _ _ stop => stop, fun r₁ m₁' r₂ m₂' ran₁ ran₂ => ?_⟩
  obtain ⟨r₂', m₂'', ran₂', agrees, related⟩ := similar.answer ran₁ fun _ _ stop => stop
  obtain ⟨rfl, rfl⟩ := Prod.mk.inj (Except.ok.inj (ran₂.symm.trans ran₂'))
  refine ⟨related.log_eq, related.ledger_eq, agrees, ?_⟩
  cases agrees with
  | value v => rfl
  | flow flows =>
    cases flows with
    | signal s => rfl
    | fatal same => exact congrArg Except.error same

/-- The label printer and no printer at all, on a `raise`: one run prints the diagnostic and
the other does not, and the two answers have one shape. -/
theorem raise_shape_same_with_and_without_printer :
    ∃ r₁ m₁' r₂ m₂',
      eval 3 (.raise "boom" []) { context := Context.withLimit 4 } = .ok (r₁, m₁') ∧
      eval 3 (.raise "boom" [])
          { context := { Context.withLimit 4 with formatter := some Printers.label } } =
        .ok (r₂, m₂') ∧
      r₁ = .error (.fatal (.unformatted "boom")) ∧
      Agrees (fun f₁ f₂ => f₁.shape = f₂.shape) r₁ r₂ := by
  refine ⟨_, _, _, _, rfl, rfl, rfl, ?_⟩
  obtain ⟨-, answered⟩ := eval_same_under_any_printer 3 (.raise "boom" [])
    { context := Context.withLimit 4 }
    { context := { Context.withLimit 4 with formatter := some Printers.label } } rfl rfl
  exact (answered _ _ _ _ rfl rfl).2.2.1

/-! ## The depth limit -/

/-- The fatal errors that are stack overflows at `limit`. -/
def OverflowsAt (limit : Nat) (f : Fatal) : Prop := ∃ report, f = .stackOverflow limit report

/-- Two fatal errors that are one and the same, and no stack overflow. -/
def SameAndNoOverflow (f₁ f₂ : Fatal) : Prop :=
  f₂ = f₁ ∧ ∀ limit report, f₁ ≠ .stackOverflow limit report

/-- Two machines alike but for the depth limit: the first has the limit `limit`, the second a
limit at least as large, and the log, the printer, the pending frames and the trail are the
same. -/
structure Machine.AgreeBelowLimit (limit : Nat) (m₁ m₂ : Machine) : Prop where
  limit_eq : m₁.context.limit = limit
  limit_le : limit ≤ m₂.context.limit
  log_eq : m₂.log = m₁.log
  formatter_eq : m₂.context.formatter = m₁.context.formatter
  pending_eq : m₂.context.ledger.pending = m₁.context.ledger.pending
  trail_eq : m₂.context.ledger.trail = m₁.context.ledger.trail

/-- Machines alike but for a larger limit on the second accept the same pushes as long as the
first does, and the first stops at its first refused push, a stack overflow at its limit.
Every other fatal error they meet is the same on both. -/
theorem limit_simulation (limit : Nat) :
    Simulation (Machine.AgreeBelowLimit limit) SameAndNoOverflow (OverflowsAt limit) where
  log_eq related := related.log_eq.symm
  log_push v related :=
    { related with log_eq := by simp [related.log_eq] }
  push {m₁ m₂} frame related := by
    by_cases room : m₁.context.depth < m₁.context.limit
    · -- the second has as many frames pending and room for at least as many
      have room₂ : m₂.context.depth < m₂.context.limit := by
        have sameDepth : m₂.context.depth = m₁.context.depth := by
          simp [Context.depth, Ledger.depth, related.pending_eq]
        have := related.limit_le
        rw [related.limit_eq] at room
        omega
      refine .accepted (Context.pushFrame_of_lt room frame) (Context.pushFrame_of_lt room₂ frame)
        { related with pending_eq := ?_, trail_eq := rfl }
      simp [related.pending_eq]
    · refine .stopped (Context.pushFrame_of_le (Nat.le_of_not_lt room) frame)
        ⟨m₁.context.raise stackOverflowDirective [], ?_⟩
      rw [related.limit_eq]
  close {m₁ m₂ r₁ r₂} related agrees := by
    obtain ⟨closed, pending, trail, closed₁, closed₂⟩ :=
      Context.closeFrame_agrees related.pending_eq related.trail_eq agrees ⟨rfl, by simp⟩
    refine ⟨closed, ?_⟩
    rw [closed₁, closed₂]
    exact { related with pending_eq := rfl, trail_eq := rfl }
  raise directive data related := by
    refine ⟨Context.raise_congr related.formatter_eq related.pending_eq directive data, ?_⟩
    intro limit report overflow
    have shape_eq := congrArg Fatal.shape overflow
    simp [Fatal.shape] at shape_eq
  error message := ⟨rfl, by simp⟩

/-- Outcomes that agree as the same fatal error or the same value or exit are equal. -/
theorem Agrees.eq_of_same {β : Type} {r₁ r₂ : Except (Flow Value) β}
    (agrees : Agrees SameAndNoOverflow r₁ r₂) : r₂ = r₁ := by
  cases agrees with
  | value v => rfl
  | flow flows =>
    cases flows with
    | signal s => rfl
    | fatal same => rw [same.1]

/-- A larger depth limit changes nothing but overflows: unless the first evaluation overflows,
the second answers the same with the same log and ledger, and when the second overflows, so
does the first, at its own limit. -/
theorem eval_depth_limit_shows_only_in_overflow (n : Nat) (form : Form) (m₁ m₂ : Machine)
    (sameLog : m₂.log = m₁.log) (sameFormatter : m₂.context.formatter = m₁.context.formatter)
    (samePending : m₂.context.ledger.pending = m₁.context.ledger.pending)
    (sameTrail : m₂.context.ledger.trail = m₁.context.ledger.trail)
    (higher : m₁.context.limit ≤ m₂.context.limit) :
    ((∀ k report m₁', eval n form m₁ ≠ .ok (.error (.fatal (.stackOverflow k report)), m₁')) →
      (∀ halt, eval n form m₁ = .error halt ↔ eval n form m₂ = .error halt) ∧
      ∀ r m₁', eval n form m₁ = .ok (r, m₁') →
        ∃ m₂', eval n form m₂ = .ok (r, m₂') ∧ m₂'.log = m₁'.log ∧
          m₂'.context.ledger.pending = m₁'.context.ledger.pending ∧
          m₂'.context.ledger.trail = m₁'.context.ledger.trail ∧
          (m₂'.context.finish r).1 = (m₁'.context.finish r).1) ∧
    (∀ k report m₂', eval n form m₂ = .ok (.error (.fatal (.stackOverflow k report)), m₂') →
      ∃ report' m₁',
        eval n form m₁ = .ok (.error (.fatal (.stackOverflow m₁.context.limit report')), m₁')) := by
  have similar := (limit_simulation m₁.context.limit).evaluation.1 n form m₁ m₂
    ⟨rfl, higher, sameLog, sameFormatter, samePending, sameTrail⟩
  refine ⟨fun noOverflow => ⟨similar.halt_iff ?_, fun r m₁' ran => ?_⟩,
    fun k report m₂' overflow => ?_⟩
  · rintro f m ran ⟨report, rfl⟩
    exact noOverflow _ report _ ran
  · obtain ⟨r₂, m₂', ran₂, agrees, related⟩ := similar.answer ran fun f failed ⟨report, stopped⟩ =>
      noOverflow m₁.context.limit report m₁' (by rw [ran, failed, stopped])
    rw [agrees.eq_of_same] at ran₂
    refine ⟨m₂', ran₂, related.log_eq, related.pending_eq, related.trail_eq, ?_⟩
    exact Context.finish_congr related.formatter_eq related.pending_eq related.trail_eq r
  · rcases similar.answer_right overflow with ⟨r₁, m₁', -, agrees, -⟩ | ⟨f, m₁', ran, report', rfl⟩
    · -- agreeing fatal errors are no overflows, yet the second answered with one
      cases agrees with
      | flow flows =>
        cases flows with
        | fatal same => exact absurd same.1 (same.2 k report).symm
    · exact ⟨report', m₁', ran⟩

/-- A recursion of depth one under the limit 3 does not overflow, so under the limit 5 it
answers the same value. -/
theorem recursion_same_under_higher_limit :
    ∃ m₂', eval 10 (.recurse 1 (.const (.int 7))) { context := Context.withLimit 5 } =
      .ok (.ok (.int 7), m₂') := by
  obtain ⟨sameRuns, -⟩ := eval_depth_limit_shows_only_in_overflow 10
    (.recurse 1 (.const (.int 7))) { context := Context.withLimit 3 }
    { context := Context.withLimit 5 } rfl rfl rfl rfl (by decide)
  obtain ⟨-, answered⟩ := sameRuns (fun _ _ _ ran => by cases ran)
  obtain ⟨m₂', ran, -⟩ := answered _ _ rfl
  exact ⟨m₂', ran⟩

end Unwinding
