import Mathlib.Data.Nat.Init
import Unwinding.Proofs.Eval.Trail

/-!
# Fatal errors end an evaluation

A fatal error reaches the evaluator from three kernel calls only: a push refused at the
limit, `error`, and `raise`. From there it passes out unchanged: no handler takes it, no
form after it is evaluated, and every frame is taken off on the way. The evaluator makes
no fatal error of its own; in particular it never underflows the ledger.

The main statement is `fatal_error_passes_out_unchanged`.
-/

namespace Unwinding

/-- A kernel call hands over a stack overflow, a diagnostic or a program error, never a
ledger underflow. -/
theorem Call.Fails.ne_ledgerUnderflow {c : Call} {f : Fatal} {mb : Machine} (fails : c.Fails f mb) :
    f ≠ .ledgerUnderflow := by
  cases fails with
  | refused refused =>
    obtain ⟨-, rfl, -⟩ := Context.pushFrame_eq_error refused
    simp
  | inner _ inner =>
    cases inner with
    | error => simp
    | raise _ =>
      unfold Context.raise
      split <;> simp

/-- A fatal error that an evaluation answers with was handed over by a kernel call during
it, and the log is what it was at that moment. The induction is on the fuel: the error was
handed to the form itself, or came out of one of the evaluations it made. -/
theorem eval_fatal_origin {n : Nat} {form : Form} {m m' : Machine} {f : Fatal}
    (ran : eval n form m = .ok (.error (.fatal f), m')) :
    ∃ c mb, (Call.mk n form m).Occurs c ∧ c.Fails f mb ∧ m'.log = mb.log := by
  induction n using Nat.strong_induction_on generalizing form m m' with
  | _ n inductionHypothesis =>
    cases n with
    | zero => simp [eval] at ran
    | succ n =>
      rcases eval_succ_cases ran with
        ⟨e, c₀, refused, overflow, rfl⟩ | ⟨c₀, m₁, pushed, inner, -, -, log_eq, -, -⟩
      · -- the push of the form's own frame was refused
        cases overflow
        exact ⟨_, _, Relation.ReflTransGen.refl, .refused refused, rfl⟩
      · rcases evalIn_flow inner with
          ⟨s, signal_eq, -⟩ | ⟨f', fatal_eq, failed⟩ | ⟨c₁, calls, answered⟩
        · cases signal_eq
        · -- `error` or `raise` failed in the form's frame
          cases fatal_eq
          exact ⟨_, m₁, Relation.ReflTransGen.refl, .inner pushed failed, log_eq⟩
        · -- the error came out of one of the evaluations the form made
          obtain ⟨c, mb, occurs, fails, log_eq'⟩ :=
            inductionHypothesis c₁.fuel (Nat.lt_succ_of_lt calls.fuel_lt) answered
          exact ⟨c, mb, .head (.mk pushed calls) occurs, fails, log_eq.trans log_eq'⟩

/-- The evaluator never answers with a ledger underflow: every frame it takes off is one it
pushed. -/
theorem eval_ne_ledgerUnderflow {n : Nat} {form : Form} {m m' : Machine} {r : Outcome Value}
    (ran : eval n form m = .ok (r, m')) : r ≠ .error (.fatal .ledgerUnderflow) := by
  intro underflow
  subst underflow
  obtain ⟨c, mb, -, fails, -⟩ := eval_fatal_origin ran
  exact fails.ne_ledgerUnderflow rfl

/-- A fatal error handed to any evaluation during `form` ends the evaluation unchanged, with the
log of that moment and every frame taken off; every fatal error an evaluation answers with was
handed over so, and none is a ledger underflow. -/
theorem fatal_error_passes_out_unchanged :
    (∀ n form m c f mb, (Call.mk n form m).Occurs c → c.Fails f mb →
      ∃ m', eval n form m = .ok (.error (.fatal f), m') ∧ m'.log = mb.log ∧
        m'.context.ledger.pending = m.context.ledger.pending ∧
        m'.context.ledger.trail = #[] ∧
        (m'.context.finish (.error (.fatal f))).1 = .error f) ∧
    (∀ n form m f m', eval n form m = .ok (.error (.fatal f), m') →
      ∃ c mb, (Call.mk n form m).Occurs c ∧ c.Fails f mb ∧ m'.log = mb.log) ∧
    (∀ n form m r m', eval n form m = .ok (r, m') → r ≠ .error (.fatal .ledgerUnderflow)) := by
  refine ⟨fun n form m c f mb occurs fails => ?_, fun _ _ _ _ _ ran => eval_fatal_origin ran,
    fun _ _ _ _ _ ran => eval_ne_ledgerUnderflow ran⟩
  obtain ⟨m', answered, log_eq⟩ := occurs.fatal fails
  rw [Call.run_mk] at answered
  exact ⟨m', answered, log_eq, eval_pending answered,
    eval_trail_of_not_signal answered (by simp), rfl⟩

/-- An `error` in the middle of a `progn` ends it: the form after it never runs. -/
theorem error_ends_progn :
    ∃ m', eval 10 (.progn [.emit (.const (.int 1)), .error "boom", .emit (.const (.int 2))])
        { context := Context.withLimit 8 } = .ok (.error (.fatal (.error "boom")), m') ∧
      m'.log = #[.int 1] ∧ m'.context.ledger.pending = #[] := by
  obtain ⟨passes, -, -⟩ := fatal_error_passes_out_unchanged
  obtain ⟨m', answered, log_eq, pending_eq, -, -⟩ :=
    passes 10 (.progn [.emit (.const (.int 1)), .error "boom", .emit (.const (.int 2))])
      { context := Context.withLimit 8 } _ _ _
      (.single (.mk rfl (.progn (.tail (by simp) rfl .head)))) (.inner (by rfl) .error)
  exact ⟨m', answered, log_eq, pending_eq⟩

end Unwinding
