import Mathlib.Data.Nat.Init
import Unwinding.Proofs.Eval.Calls

/-!
# The trail of an exit

An exit is built by a `go`, `return-from` or `throw` form in its own frame, on an empty
trail. From there to the top nothing is pushed and nothing settled: every frame on the way
out is taken off onto the trail, and taking a frame off onto the trail does not change the
unwound view (the trail, then the pending frames newest first). So when an evaluation ends
with an exit, its unwound view is the list of frames that were pending when the exit was
built, newest first; its trail ends with the evaluation's own frame. After a value or a
fatal error the trail is empty, and every evaluation leaves the pending frames as it found
them.

The main statement is `eval_restores_frames_and_keeps_exit_path`.
-/

namespace Unwinding

/-- An evaluation that ends with a value or a fatal error leaves no trail. -/
theorem eval_trail_of_not_signal {n : Nat} {form : Form} {m m' : Machine} {r : Outcome Value}
    (ran : eval n form m = .ok (r, m')) (notSignal : ∀ s, r ≠ .error (.signal s)) :
    m'.context.ledger.trail = #[] := by
  cases n with
  | zero => simp [eval] at ran
  | succ n =>
    rcases eval_succ_cases ran with ⟨e, c₀, refused, -, rfl⟩ | ⟨_, _, -, -, -, -, -, -, otherTrail⟩
    · obtain ⟨-, -, rfl⟩ := Context.pushFrame_eq_error refused
      rfl
    · exact otherTrail notSignal

/-- An evaluation that ends with an exit has its own frame last on the trail. -/
theorem eval_trail_last {n : Nat} {form : Form} {m m' : Machine} {s : Signal Value}
    (ran : eval n form m = .ok (.error (.signal s), m')) :
    m'.context.ledger.trail.toList.getLast? = some form.frame := by
  cases n with
  | zero => simp [eval] at ran
  | succ n =>
    rcases eval_succ_cases ran with ⟨_, _, -, overflow, -⟩ | ⟨_, _, -, -, -, -, -, signalTrail, -⟩
    · cases overflow
    · rw [signalTrail s rfl]
      simp

namespace InnerBuilds

/-- A form builds its exit with the pending frames it started with: the forms it evaluated
first gave values. -/
theorem pending {n : Nat} {form : Form} {m mb : Machine} {s : Signal Value}
    (builds : InnerBuilds n form m s mb) :
    mb.context.ledger.pending = m.context.ledger.pending := by
  cases builds with
  | go => rfl
  | returnFrom first => exact eval_pending first
  | throw first second => rw [eval_pending second, eval_pending first]

/-- A form that starts on an empty trail builds its exit on an empty trail: the forms it
evaluated first gave values, and a value leaves no trail. -/
theorem trail {n : Nat} {form : Form} {m mb : Machine} {s : Signal Value}
    (builds : InnerBuilds n form m s mb) (empty : m.context.ledger.trail = #[]) :
    mb.context.ledger.trail = #[] := by
  cases builds with
  | go => exact empty
  | returnFrom first => exact eval_trail_of_not_signal first (by simp)
  | throw first second => exact eval_trail_of_not_signal second (by simp)

end InnerBuilds

/-- When a call builds an exit, the trail is empty and the call's own frame is the newest
pending one. -/
theorem Call.Builds.top {c : Call} {s : Signal Value} {mb : Machine} (builds : c.Builds s mb) :
    mb.context.ledger.trail = #[] ∧ mb.context.ledger.newestFirst.head? = some c.form.frame := by
  cases builds with
  | mk pushed inner =>
    obtain ⟨-, rfl⟩ := Context.pushFrame_eq_ok pushed
    refine ⟨inner.trail rfl, ?_⟩
    rw [Ledger.newestFirst_eq_reverse, inner.pending]
    simp

/-- An exit that leaves an evaluation was built during it, and the unwound view at the end is
the list of frames pending when it was built, newest first. -/
theorem eval_signal_built {n : Nat} {form : Form} {m m' : Machine} {s : Signal Value}
    (ran : eval n form m = .ok (.error (.signal s), m')) :
    ∃ c mb, (Call.mk n form m).Occurs c ∧ c.Builds s mb ∧
      m'.context.ledger.unwoundFirst = mb.context.ledger.newestFirst := by
  induction n using Nat.strong_induction_on generalizing form m m' with
  | _ n inductionHypothesis =>
    cases n with
    | zero => simp [eval] at ran
    | succ n =>
      rcases eval_succ_cases ran with
        ⟨_, _, -, overflow, -⟩ | ⟨c₀, m₁, pushed, inner, m₁_pending, pending_eq, -, signalTrail, -⟩
      · cases overflow
      · have view_eq :
            m'.context.ledger.unwoundFirst = m₁.context.ledger.unwoundFirst := by
          simp [Ledger.unwoundFirst_eq_append, signalTrail s rfl, pending_eq, m₁_pending]
        rcases evalIn_flow inner with
          ⟨s', signal_eq, built⟩ | ⟨f, fatal_eq, -⟩ | ⟨c₁, calls, answered⟩
        · -- the form built the exit itself, in its own frame
          cases signal_eq
          have builds : (Call.mk (n + 1) form m).Builds s m₁ := .mk pushed built
          refine ⟨_, m₁, Relation.ReflTransGen.refl, builds, ?_⟩
          rw [view_eq, Ledger.unwoundFirst_eq_append, Ledger.newestFirst_eq_reverse,
            builds.top.1]
          rfl
        · cases fatal_eq
        · -- the exit came out of one of the evaluations the form made
          obtain ⟨c, mb, occurs, builds, snapshot⟩ :=
            inductionHypothesis c₁.fuel (Nat.lt_succ_of_lt calls.fuel_lt) answered
          exact ⟨c, mb, .head (.mk pushed calls) occurs, builds, view_eq.trans snapshot⟩

/-- A terminating evaluation restores the pending frames; after an exit the unwound view is the
frames pending when the exit was built, from its form's frame out to the evaluation's own, and
after a value or a fatal error the trail is empty. -/
theorem eval_restores_frames_and_keeps_exit_path (n : Nat) (form : Form) (m : Machine)
    (r : Outcome Value) (m' : Machine) (terminates : eval n form m = .ok (r, m')) :
    m'.context.ledger.pending = m.context.ledger.pending ∧
      (∀ s, r = .error (.signal s) →
        ∃ c mb, (Call.mk n form m).Occurs c ∧ c.Builds s mb ∧
          m'.context.ledger.unwoundFirst = mb.context.ledger.newestFirst ∧
          m'.context.ledger.unwoundFirst.head? = some c.form.frame ∧
          m'.context.ledger.trail.toList.getLast? = some form.frame) ∧
      ((∀ s, r ≠ .error (.signal s)) → m'.context.ledger.trail = #[]) ∧
      (m'.context.finish r).2.ledger.pending = m.context.ledger.pending ∧
      (m'.context.finish r).2.ledger.trail = #[] ∧
      ∀ context result log c, form.run context true = .ok (result, log, c) →
        c.ledger.pending = context.ledger.pending ∧ c.ledger.trail = #[] := by
  have pending_eq := eval_pending terminates
  refine ⟨pending_eq, fun s signalled => ?_, eval_trail_of_not_signal terminates, pending_eq,
    rfl, fun context result log c finished => ?_⟩
  · subst signalled
    obtain ⟨c, mb, occurs, builds, snapshot⟩ := eval_signal_built terminates
    refine ⟨c, mb, occurs, builds, snapshot, ?_, eval_trail_last terminates⟩
    rw [snapshot]
    exact builds.top.2
  · -- a run evaluates with the budget and then closes with `finish`
    unfold Form.run at finished
    split at finished
    · cases finished
    · rename_i r₁ m₁ ran
      simp only [if_true, Except.ok.injEq, Prod.mk.injEq] at finished
      obtain ⟨-, -, rfl⟩ := finished
      exact ⟨eval_pending ran, rfl⟩

/-- A `go` with nothing to take it leaves with its own frame on the trail. -/
theorem go_unwinds_its_frame :
    ∃ r m', eval 2 (.go 0 0) { context := Context.withLimit 1 } = .ok (r, m') ∧
      r = .error (.signal (.tag 0 0)) ∧ m'.context.ledger.pending = #[] ∧
      m'.context.ledger.trail.toList.getLast? = some (Form.go 0 0).frame := by
  refine ⟨_, _, rfl, ?_⟩
  obtain ⟨pending_eq, signalled, -⟩ :=
    eval_restores_frames_and_keeps_exit_path 2 (.go 0 0) { context := Context.withLimit 1 } _ _ rfl
  obtain ⟨-, -, -, -, -, -, last⟩ := signalled _ rfl
  exact ⟨rfl, pending_eq, last⟩

end Unwinding
