import Unwinding.Form.Eval
import Unwinding.Proofs.Context

/-!
# Steps of the evaluator

Every evaluation runs inside a frame of its own: `eval` pushes the form's frame, runs the
form, and takes the frame off again. This module states that step once
(`eval_of_pushFrame_ok`, `eval_of_pushFrame_error`), gives the rules for the two ways the
evaluator goes on after a sub-evaluation (`Run.onOutcome`, `Run.onValue`), and proves once,
following the evaluator's own recursion, that a relation between machines that every step
keeps holds between the machine before and the machine after every evaluation
(`Kept.evaluation`). The first such relation: the pending frames are those before.
-/

namespace Unwinding

namespace Run

variable {β γ : Type}

@[simp] theorem onOutcome_ok (r : Except (Flow Value) β) (m : Machine)
    (k : Except (Flow Value) β → Machine → Run γ) :
    Run.onOutcome (Except.ok (r, m)) k = k r m := rfl

@[simp] theorem onOutcome_halt (halt : Halt) (k : Except (Flow Value) β → Machine → Run γ) :
    Run.onOutcome (Except.error halt) k = Except.error halt := rfl

@[simp] theorem onValue_value (v : β) (m : Machine) (k : β → Machine → Run γ) :
    Run.onValue (Except.ok (.ok v, m)) k = k v m := rfl

@[simp] theorem onValue_flow (flow : Flow Value) (m : Machine) (k : β → Machine → Run γ) :
    Run.onValue (Except.ok (.error flow, m)) k = Except.ok (.error flow, m) := rfl

@[simp] theorem onValue_halt (halt : Halt) (k : β → Machine → Run γ) :
    Run.onValue (Except.error halt) k = Except.error halt := rfl

/-- A step that goes on with an outcome answers only after its sub-evaluation answered. -/
theorem onOutcome_eq_ok {x : Run β} {k : Except (Flow Value) β → Machine → Run γ}
    {answer : Except (Flow Value) γ × Machine} (answered : x.onOutcome k = .ok answer) :
    ∃ r m, x = .ok (r, m) ∧ k r m = .ok answer := by
  cases x with
  | error halt => cases answered
  | ok result => exact ⟨result.1, result.2, rfl, answered⟩

/-- A step that goes on with a value either went on after a value, or passes on the flow
its sub-evaluation unwound with, on the machine that sub-evaluation left. -/
theorem onValue_eq_ok {x : Run β} {k : β → Machine → Run γ}
    {answer : Except (Flow Value) γ × Machine} (answered : x.onValue k = .ok answer) :
    (∃ v m, x = .ok (.ok v, m) ∧ k v m = .ok answer) ∨
      ∃ flow m, x = .ok (.error flow, m) ∧ answer = (.error flow, m) := by
  cases x with
  | error halt => cases answered
  | ok result =>
    obtain ⟨r, m⟩ := result
    cases r with
    | ok v => exact .inl ⟨v, m, rfl, answered⟩
    | error flow =>
      simp only [onValue_flow, Except.ok.injEq] at answered
      exact .inr ⟨flow, m, rfl, answered.symm⟩

/-- A step that goes on with a value unwinds only because the sub-evaluation did, or
because what it went on with did. -/
theorem onValue_eq_flow {x : Run β} {k : β → Machine → Run γ} {flow : Flow Value}
    {m' : Machine} (answered : x.onValue k = .ok (.error flow, m')) :
    (∃ v m, x = .ok (.ok v, m) ∧ k v m = .ok (.error flow, m')) ∨
      x = .ok (.error flow, m') := by
  rcases onValue_eq_ok answered with continued | ⟨flow', m, ran, passed⟩
  · exact .inl continued
  · obtain ⟨flow_eq, rfl⟩ := Prod.mk.inj passed
    cases Except.error.inj flow_eq
    exact .inr ran

/-- Every answer of `x` ends on a machine that `R` relates to `m`. -/
def Keeps (R : Machine → Machine → Prop) (m : Machine) (x : Run β) : Prop :=
  ∀ r m', x = .ok (r, m') → R m m'

namespace Keeps

variable {R : Machine → Machine → Prop} {m : Machine}

theorem halted (halt : Halt) : Keeps R m (.error halt : Run β) := by
  intro r m' answered
  cases answered

theorem answer {m' : Machine} (related : R m m') (r : Except (Flow Value) β) :
    Keeps R m (.ok (r, m')) := by
  intro r'' m'' answered
  cases answered
  exact related

theorem onOutcome (trans : ∀ a b c, R a b → R b c → R a c) {x : Run β}
    {k : Except (Flow Value) β → Machine → Run γ} (first : Keeps R m x)
    (rest : ∀ r m₁, Keeps R m₁ (k r m₁)) : Keeps R m (x.onOutcome k) := by
  intro r m' answered
  obtain ⟨r₁, m₁, ran, continued⟩ := Run.onOutcome_eq_ok answered
  exact trans _ _ _ (first r₁ m₁ ran) (rest r₁ m₁ r m' continued)

theorem onValue (trans : ∀ a b c, R a b → R b c → R a c) {x : Run β}
    {k : β → Machine → Run γ} (first : Keeps R m x) (rest : ∀ v m₁, Keeps R m₁ (k v m₁)) :
    Keeps R m (x.onValue k) := by
  intro r m' answered
  rcases Run.onValue_eq_ok answered with ⟨v, m₁, ran, continued⟩ | ⟨flow, m₁, ran, passed⟩
  · exact trans _ _ _ (first _ m₁ ran) (rest v m₁ r m' continued)
  · obtain ⟨-, rfl⟩ := Prod.mk.inj passed
    exact first _ m' ran

end Keeps

end Run

/-! ## The frame of an evaluation -/

/-- An accepted push runs the form in its frame, then takes the frame off. -/
theorem eval_of_pushFrame_ok {n : Nat} {form : Form} {m : Machine} {c : Context Value}
    (pushed : m.context.pushFrame form.frame = (.ok (), c)) :
    eval (n + 1) form m =
      (evalIn n form { m with context := c }).onOutcome fun r m' =>
        .ok ((m'.context.closeFrame r).1, { m' with context := (m'.context.closeFrame r).2 }) := by
  rw [eval, pushed]

/-- A refused push ends the evaluation with its stack overflow. -/
theorem eval_of_pushFrame_error {n : Nat} {form : Form} {m : Machine} {c : Context Value}
    {e : Fatal} (refused : m.context.pushFrame form.frame = (.error e, c)) :
    eval (n + 1) form m = .ok (.error (.fatal e), { m with context := c }) := by
  rw [eval, refused]

/-! ## Relations every evaluation keeps -/

/-- What a relation between machines needs to hold across every evaluation: it is a
preorder, appending to the log keeps it, and so do a refused push and a run inside a frame
(an accepted push, a run that keeps it, the frame taken off). -/
structure Kept (R : Machine → Machine → Prop) : Prop where
  refl : ∀ m, R m m
  trans : ∀ a b c, R a b → R b c → R a c
  log : ∀ m v, R m { m with log := m.log.push v }
  refused : ∀ m frame e c, m.context.pushFrame frame = (.error e, c) →
    R m { m with context := c }
  framed : ∀ m frame c m' (r : Outcome Value), m.context.pushFrame frame = (.ok (), c) →
    R { m with context := c } m' → R m { m' with context := (m'.context.closeFrame r).2 }

namespace Kept

variable {R : Machine → Machine → Prop}

/-- A kept relation holds across every evaluation, of a form, inside a frame, of a list, of
a body and of tag body clauses. The induction follows the evaluator's recursion, one case
for each of its equations. -/
theorem evaluation (kept : Kept R) :
    (∀ n form m, Run.Keeps R m (eval n form m)) ∧
      (∀ n form m, Run.Keeps R m (evalIn n form m)) ∧
      (∀ n data m, Run.Keeps R m (evalList n data m)) ∧
      (∀ n level clauses pc m, Run.Keeps R m (runClauses n level clauses pc m)) ∧
      (∀ n body m, Run.Keeps R m (evalBody n body m)) := by
  refine eval.mutual_induct _ _ _ _ _ ?evalNoFuel ?evalRefused ?evalFramed ?inNoFuel ?const ?emit
    ?progn ?block ?returnFrom ?tagbody ?go ?whenShorter ?whenLonger ?catcher ?throw ?raise
    ?error ?recurseZero ?recurseSucc ?listNoFuel ?listNil ?listCons ?clausesNoFuel
    ?clausesEnd ?clausesTag ?clausesStmt ?bodyNoFuel ?bodyNil ?bodySingle ?bodyCons
  case evalNoFuel => intro form m; rw [eval]; exact Run.Keeps.halted _
  case evalRefused =>
    intro fuel form m e c refused
    rw [eval_of_pushFrame_error refused]
    exact Run.Keeps.answer (kept.refused m _ e c refused) _
  case evalFramed =>
    intro fuel form m c pushed inner r m' answered
    rw [eval_of_pushFrame_ok pushed] at answered
    obtain ⟨r₁, m₁, ran, closed⟩ := Run.onOutcome_eq_ok answered
    simp only [Except.ok.injEq, Prod.mk.injEq] at closed
    obtain ⟨-, rfl⟩ := closed
    exact kept.framed m form.frame c m₁ r₁ pushed (inner r₁ m₁ ran)
  case inNoFuel => intro form m; rw [evalIn]; exact Run.Keeps.halted _
  case const => intro fuel m v; exact Run.Keeps.answer (kept.refl m) _
  case emit =>
    intro fuel m inner inner_kept
    exact Run.Keeps.onValue kept.trans inner_kept fun v m₁ =>
      Run.Keeps.answer (kept.log m₁ v) _
  case progn => intro fuel m body body_kept; exact body_kept
  case block =>
    intro fuel m name body body_kept
    exact Run.Keeps.onOutcome kept.trans body_kept fun r m₁ =>
      Run.Keeps.answer (kept.refl m₁) _
  case returnFrom =>
    intro fuel m name value value_kept
    exact Run.Keeps.onValue kept.trans value_kept fun v m₁ =>
      Run.Keeps.answer (kept.refl m₁) _
  case tagbody => intro fuel m level clauses clauses_kept; exact clauses_kept
  case go => intro fuel m level index; exact Run.Keeps.answer (kept.refl m) _
  case whenShorter =>
    intro fuel m length inner shorter inner_kept
    simp only [evalIn, if_pos shorter]
    exact inner_kept
  case whenLonger =>
    intro fuel m length inner notShorter
    simp only [evalIn, if_neg notShorter]
    exact Run.Keeps.answer (kept.refl m) _
  case catcher =>
    intro fuel m tag body tag_kept body_kept
    exact Run.Keeps.onValue kept.trans tag_kept fun t m₁ =>
      Run.Keeps.onOutcome kept.trans (body_kept m₁) fun r m₂ =>
        Run.Keeps.answer (kept.refl m₂) _
  case throw =>
    intro fuel m tag value tag_kept value_kept
    exact Run.Keeps.onValue kept.trans tag_kept fun t m₁ =>
      Run.Keeps.onValue kept.trans (value_kept m₁) fun v m₂ =>
        Run.Keeps.answer (kept.refl m₂) _
  case raise =>
    intro fuel m directive data data_kept
    exact Run.Keeps.onValue kept.trans data_kept fun vs m₁ =>
      Run.Keeps.answer (kept.refl m₁) _
  case error => intro fuel m message; exact Run.Keeps.answer (kept.refl m) _
  case recurseZero => intro fuel m body body_kept; exact body_kept
  case recurseSucc => intro fuel m depth body body_kept; exact body_kept
  case listNoFuel => intro data m; rw [evalList]; exact Run.Keeps.halted _
  case listNil => intro n m; exact Run.Keeps.answer (kept.refl m) _
  case listCons =>
    intro fuel form rest m form_kept rest_kept
    exact Run.Keeps.onValue kept.trans form_kept fun v m₁ =>
      Run.Keeps.onValue kept.trans (rest_kept m₁) fun vs m₂ =>
        Run.Keeps.answer (kept.refl m₂) _
  case clausesNoFuel => intro level clauses pc m; rw [runClauses]; exact Run.Keeps.halted _
  case clausesEnd =>
    intro fuel level clauses pc m atEnd
    simp only [runClauses, atEnd]
    exact Run.Keeps.answer (kept.refl m) _
  case clausesTag =>
    intro fuel level clauses pc m t atTag next_kept
    simp only [runClauses, atTag]
    exact next_kept
  case clausesStmt =>
    intro fuel level clauses pc m form atStmt form_kept next_kept jump_kept
    simp only [runClauses, atStmt]
    refine Run.Keeps.onOutcome kept.trans form_kept fun r m₁ => ?_
    split
    · exact Run.Keeps.answer (kept.refl m₁) _
    · exact next_kept m₁
    · split
      · exact jump_kept m₁ _
      · exact Run.Keeps.halted _
  case bodyNoFuel => intro body m; rw [evalBody]; exact Run.Keeps.halted _
  case bodyNil => intro n m; exact Run.Keeps.answer (kept.refl m) _
  case bodySingle => intro fuel form m form_kept; exact form_kept
  case bodyCons =>
    intro fuel form rest m nonempty form_kept rest_kept
    rw [evalBody.eq_4 _ _ _ _ nonempty]
    exact Run.Keeps.onValue kept.trans form_kept fun _ m₁ => rest_kept m₁

end Kept

/-! ## Pending frames -/

/-- Keeping the pending frames is kept by every step: a refused push only drops the trail,
and a frame that is pushed is taken off again. -/
theorem pending_kept :
    Kept fun m m' : Machine => m'.context.ledger.pending = m.context.ledger.pending where
  refl _ := rfl
  trans _ _ _ first second := second.trans first
  log _ _ := rfl
  refused m frame e c refused := by
    obtain ⟨-, -, rfl⟩ := Context.pushFrame_eq_error refused
    rfl
  framed m frame c m' r pushed inner := by
    obtain ⟨-, rfl⟩ := Context.pushFrame_eq_ok pushed
    exact (Context.closeFrame_spec inner r).2.1

/-- Every evaluation of a form leaves the pending frames as it found them. -/
theorem eval_pending {n : Nat} {form : Form} {m m' : Machine} {r : Outcome Value}
    (ran : eval n form m = .ok (r, m')) :
    m'.context.ledger.pending = m.context.ledger.pending :=
  pending_kept.evaluation.1 n form m r m' ran

/-- What a form does inside its frame leaves the pending frames as it found them. -/
theorem evalIn_pending {n : Nat} {form : Form} {m m' : Machine} {r : Outcome Value}
    (ran : evalIn n form m = .ok (r, m')) :
    m'.context.ledger.pending = m.context.ledger.pending :=
  pending_kept.evaluation.2.1 n form m r m' ran

/-- Inside its frame a form leaves the pending frames as its push made them: those before,
with its own frame on top. -/
theorem evalIn_pending_pushed {n : Nat} {form : Form} {m : Machine} {c₀ : Context Value}
    {r : Outcome Value} {m₁ : Machine} (pushed : m.context.pushFrame form.frame = (.ok (), c₀))
    (answered : evalIn n form { m with context := c₀ } = .ok (r, m₁)) :
    m₁.context.ledger.pending = m.context.ledger.pending.push form.frame := by
  rw [evalIn_pending answered, (Context.pushFrame_eq_ok pushed).2]

/-- An evaluation that answers either overflowed on its push, or answers as its form did with
the pending frames restored and its frame added to the trail after an exit. -/
theorem eval_succ_cases {n : Nat} {form : Form} {m m' : Machine} {r : Outcome Value}
    (ran : eval (n + 1) form m = .ok (r, m')) :
    (∃ e c₀, m.context.pushFrame form.frame = (.error e, c₀) ∧ r = .error (.fatal e) ∧
        m' = { m with context := c₀ }) ∨
      ∃ c₀ m₁, m.context.pushFrame form.frame = (.ok (), c₀) ∧
        evalIn n form { m with context := c₀ } = .ok (r, m₁) ∧
        m₁.context.ledger.pending = m.context.ledger.pending.push form.frame ∧
        m'.context.ledger.pending = m.context.ledger.pending ∧ m'.log = m₁.log ∧
        (∀ s, r = .error (.signal s) →
          m'.context.ledger.trail = m₁.context.ledger.trail.push form.frame) ∧
        ((∀ s, r ≠ .error (.signal s)) → m'.context.ledger.trail = #[]) := by
  rcases pushed : m.context.pushFrame form.frame with ⟨_ | ⟨⟩, c₀⟩
  case error e =>
    rw [eval_of_pushFrame_error pushed] at ran
    obtain ⟨r_eq, m'_eq⟩ := Prod.mk.inj (Except.ok.inj ran)
    exact .inl ⟨e, c₀, rfl, r_eq.symm, m'_eq.symm⟩
  case ok =>
    rw [eval_of_pushFrame_ok pushed] at ran
    obtain ⟨r₁, m₁, inner, closed⟩ := Run.onOutcome_eq_ok ran
    obtain ⟨r_eq, m'_eq⟩ := Prod.mk.inj (Except.ok.inj closed)
    have m₁_pending := evalIn_pending_pushed pushed inner
    obtain ⟨result_eq, pending_eq, -, -, signalTrail, otherTrail⟩ :=
      Context.closeFrame_spec m₁_pending r₁
    have r₁_eq : r₁ = r := result_eq.symm.trans r_eq
    subst r₁_eq m'_eq
    exact .inr ⟨c₀, m₁, rfl, inner, m₁_pending, pending_eq, rfl, signalTrail, otherTrail⟩

/-- A form that answers inside its frame makes the evaluation answer the same, with the log
the form left: its frame is taken off again, onto the trail after an exit, which keeps the
unwound view. -/
theorem eval_of_evalIn {n : Nat} {form : Form} {m : Machine} {c₀ : Context Value}
    {r : Outcome Value} {m₂ : Machine} (pushed : m.context.pushFrame form.frame = (.ok (), c₀))
    (answered : evalIn n form { m with context := c₀ } = .ok (r, m₂)) :
    ∃ m', eval (n + 1) form m = .ok (r, m') ∧ m'.log = m₂.log ∧
      (∀ s, r = .error (.signal s) →
        m'.context.ledger.unwoundFirst = m₂.context.ledger.unwoundFirst) := by
  have m₂_pending := evalIn_pending_pushed pushed answered
  obtain ⟨result_eq, -⟩ := Context.closeFrame_spec m₂_pending r
  refine ⟨{ m₂ with context := (m₂.context.closeFrame r).2 }, ?_, rfl, fun s signalled => ?_⟩
  · rw [eval_of_pushFrame_ok pushed, answered, Run.onOutcome_ok, result_eq]
  · subst signalled
    rw [Context.closeFrame_signal m₂_pending s]
    simp [Ledger.unwoundFirst_eq_append, m₂_pending]

end Unwinding
