import Unwinding.Proofs.Eval.Steps
import Unwinding.Proofs.Handler

/-!
# Two evaluations side by side

Two evaluations of one form, started on machines that differ in what the evaluator never
decides anything on, take the same steps: the same pushes are accepted, the same values are
computed, the same exits are made, and the fatal errors they meet are related. This module
says once what a relation `M` between machines and a relation `F` between fatal errors must
satisfy for that (`Simulation`), and proves once, following the evaluator's recursion, that
every evaluation started on related machines then answers alike on both
(`Simulation.evaluation`).

A simulation may let the first evaluation stop at a fatal error of a chosen kind `Stop` while
the second goes on in its own way (`Run.Similar.stopped`); that is how an evaluation under a
smaller depth limit is compared with one under a larger limit.
-/

namespace Unwinding

variable {β γ : Type} {F : Fatal → Fatal → Prop} {M : Machine → Machine → Prop}
  {Stop : Fatal → Prop}

/-- Two flows agree when they are the same exit, or fatal errors related by `F`. -/
inductive FlowAgrees (F : Fatal → Fatal → Prop) : Flow Value → Flow Value → Prop
  | signal (s : Signal Value) : FlowAgrees F (.signal s) (.signal s)
  | fatal {f₁ f₂ : Fatal} : F f₁ f₂ → FlowAgrees F (.fatal f₁) (.fatal f₂)

/-- Two outcomes agree when they are the same value, or flows that agree. -/
inductive Agrees (F : Fatal → Fatal → Prop) :
    Except (Flow Value) β → Except (Flow Value) β → Prop
  | value (v : β) : Agrees F (.ok v) (.ok v)
  | flow {flow₁ flow₂ : Flow Value} :
      FlowAgrees F flow₁ flow₂ → Agrees F (.error flow₁) (.error flow₂)

namespace Agrees

/-- An outcome that is no fatal error agrees with itself, whatever `F` is. -/
theorem self {r : Except (Flow Value) β} (notFatal : ∀ f, r ≠ .error (.fatal f)) :
    Agrees F r r := by
  cases r with
  | ok v => exact .value v
  | error flow =>
    cases flow with
    | signal s => exact .flow (.signal s)
    | fatal f => exact absurd rfl (notFatal f)

/-- A block makes agreeing outcomes of agreeing ones: it takes the same exits on both sides. -/
theorem catchBlock (name : Ident) {r₁ r₂ : Outcome Value} (agrees : Agrees F r₁ r₂) :
    Agrees F (Unwinding.catchBlock name r₁) (Unwinding.catchBlock name r₂) := by
  cases agrees with
  | value v => exact .value v
  | flow flows =>
    cases flows with
    | signal s => exact self fun f taken => by cases catchBlock_eq_error taken
    | fatal related => exact .flow (.fatal related)

/-- A catcher makes agreeing outcomes of agreeing ones. -/
theorem catchThrow (tag : Value) {r₁ r₂ : Outcome Value} (agrees : Agrees F r₁ r₂) :
    Agrees F (Unwinding.catchThrow tag r₁) (Unwinding.catchThrow tag r₂) := by
  cases agrees with
  | value v => exact .value v
  | flow flows =>
    cases flows with
    | signal s => exact self fun f taken => by cases catchThrow_eq_error taken
    | fatal related => exact .flow (.fatal related)

end Agrees

namespace Run

/-- Two answers of evaluations are alike: the same halt; agreeing outcomes on machines that
`M` relates; or the first stopped at a fatal error of the kind `Stop`, whatever the second
answered. -/
inductive Similar (F : Fatal → Fatal → Prop) (M : Machine → Machine → Prop)
    (Stop : Fatal → Prop) : Run β → Run β → Prop
  | halted (halt : Halt) : Similar F M Stop (.error halt) (.error halt)
  | answered {r₁ r₂ : Except (Flow Value) β} {m₁ m₂ : Machine} :
      Agrees F r₁ r₂ → M m₁ m₂ → Similar F M Stop (.ok (r₁, m₁)) (.ok (r₂, m₂))
  | stopped {f : Fatal} {m : Machine} {x₂ : Run β} :
      Stop f → Similar F M Stop (.ok (.error (.fatal f), m)) x₂

namespace Similar

/-- Going on with the values of two alike answers keeps them alike, when the continuations
answer alike on related machines: a flow passes on both sides unchanged. -/
theorem onValue {x₁ x₂ : Run β} {k₁ k₂ : β → Machine → Run γ}
    (first : Similar F M Stop x₁ x₂)
    (rest : ∀ v m₁ m₂, M m₁ m₂ → Similar F M Stop (k₁ v m₁) (k₂ v m₂)) :
    Similar F M Stop (x₁.onValue k₁) (x₂.onValue k₂) := by
  cases first with
  | halted halt => exact .halted halt
  | answered agrees related =>
    cases agrees with
    | value v => exact rest v _ _ related
    | flow flows => exact .answered (.flow flows) related
  | stopped stop => exact .stopped stop

/-- Going on with the outcomes of two alike answers keeps them alike, when the continuations
answer alike on agreeing outcomes and related machines, and the first continuation passes
on a fatal error at which the first evaluation stopped. -/
theorem onOutcome {x₁ x₂ : Run β} {k₁ k₂ : Except (Flow Value) β → Machine → Run γ}
    (first : Similar F M Stop x₁ x₂)
    (rest : ∀ r₁ r₂ m₁ m₂, Agrees F r₁ r₂ → M m₁ m₂ → Similar F M Stop (k₁ r₁ m₁) (k₂ r₂ m₂))
    (passes : ∀ f m, x₁ = .ok (.error (.fatal f), m) → Stop f →
      ∃ m', k₁ (.error (.fatal f)) m = .ok (.error (.fatal f), m')) :
    Similar F M Stop (x₁.onOutcome k₁) (x₂.onOutcome k₂) := by
  cases first with
  | halted halt => exact .halted halt
  | answered agrees related => exact rest _ _ _ _ agrees related
  | stopped stop =>
    obtain ⟨m', passed⟩ := passes _ _ rfl stop
    rw [onOutcome_ok, passed]
    exact .stopped stop

/-- Of two alike answers where the first did not stop, one halts exactly when the other does. -/
theorem halt_iff {x₁ x₂ : Run β} (similar : Similar F M Stop x₁ x₂)
    (unstopped : ∀ f m, x₁ = .ok (.error (.fatal f), m) → ¬ Stop f) (halt : Halt) :
    x₁ = .error halt ↔ x₂ = .error halt := by
  cases similar with
  | halted => rfl
  | answered _ _ => simp
  | stopped stop => exact absurd stop (unstopped _ _ rfl)

/-- Of two alike answers, an answer of the first that is no stop is matched by an agreeing
answer of the second on a related machine. -/
theorem answer {x₁ x₂ : Run β} (similar : Similar F M Stop x₁ x₂) {r₁ : Except (Flow Value) β}
    {m₁ : Machine} (ran : x₁ = .ok (r₁, m₁))
    (unstopped : ∀ f, r₁ = .error (.fatal f) → ¬ Stop f) :
    ∃ r₂ m₂, x₂ = .ok (r₂, m₂) ∧ Agrees F r₁ r₂ ∧ M m₁ m₂ := by
  subst ran
  cases similar with
  | answered agrees related => exact ⟨_, _, rfl, agrees, related⟩
  | stopped stop => exact absurd stop (unstopped _ rfl)

/-- Of two alike answers, an answer of the second is matched by the first: by an agreeing
answer on a related machine, or by a stop. -/
theorem answer_right {x₁ x₂ : Run β} (similar : Similar F M Stop x₁ x₂)
    {r₂ : Except (Flow Value) β} {m₂ : Machine} (ran : x₂ = .ok (r₂, m₂)) :
    (∃ r₁ m₁, x₁ = .ok (r₁, m₁) ∧ Agrees F r₁ r₂ ∧ M m₁ m₂) ∨
      ∃ f m, x₁ = .ok (.error (.fatal f), m) ∧ Stop f := by
  subst ran
  cases similar with
  | answered agrees related => exact .inl ⟨_, _, rfl, agrees, related⟩
  | stopped stop => exact .inr ⟨_, _, rfl, stop⟩

end Similar

end Run

/-- How one frame is pushed on two related machines: accepted on both, refused on both with
related errors, or refused on the first with an error of the kind `Stop`. -/
inductive Pushes (M : Machine → Machine → Prop) (F : Fatal → Fatal → Prop)
    (Stop : Fatal → Prop) (m₁ m₂ : Machine) (frame : Value) : Prop
  | accepted {c₁ c₂ : Context Value} : m₁.context.pushFrame frame = (.ok (), c₁) →
      m₂.context.pushFrame frame = (.ok (), c₂) →
      M { m₁ with context := c₁ } { m₂ with context := c₂ } → Pushes M F Stop m₁ m₂ frame
  | refused {e₁ e₂ : Fatal} {c₁ c₂ : Context Value} :
      m₁.context.pushFrame frame = (.error e₁, c₁) → m₂.context.pushFrame frame = (.error e₂, c₂) →
      F e₁ e₂ → M { m₁ with context := c₁ } { m₂ with context := c₂ } →
      Pushes M F Stop m₁ m₂ frame
  | stopped {e₁ : Fatal} {c₁ : Context Value} :
      m₁.context.pushFrame frame = (.error e₁, c₁) → Stop e₁ → Pushes M F Stop m₁ m₂ frame

/-- What relations `M` on machines and `F` on fatal errors must satisfy for evaluations on
related machines to answer alike, `Stop` being the fatal errors where the first may part. -/
structure Simulation (M : Machine → Machine → Prop) (F : Fatal → Fatal → Prop)
    (Stop : Fatal → Prop) : Prop where
  log_eq : ∀ {m₁ m₂}, M m₁ m₂ → m₁.log = m₂.log
  log_push : ∀ {m₁ m₂} (v : Value), M m₁ m₂ →
    M { m₁ with log := m₁.log.push v } { m₂ with log := m₂.log.push v }
  push : ∀ {m₁ m₂} (frame : Value), M m₁ m₂ → Pushes M F Stop m₁ m₂ frame
  close : ∀ {m₁ m₂} {r₁ r₂ : Outcome Value}, M m₁ m₂ → Agrees F r₁ r₂ →
    Agrees F (m₁.context.closeFrame r₁).1 (m₂.context.closeFrame r₂).1 ∧
      M { m₁ with context := (m₁.context.closeFrame r₁).2 }
        { m₂ with context := (m₂.context.closeFrame r₂).2 }
  raise : ∀ {m₁ m₂} (directive : String) (data : List Value), M m₁ m₂ →
    F (m₁.context.raise directive data) (m₂.context.raise directive data)
  error : ∀ message, F (.error message) (.error message)

/-- Taking off a frame reads only the pending frames, the trail and whether the outcome is an
exit, so on contexts that agree there it gives agreeing answers and ledgers. -/
theorem Context.closeFrame_agrees {c₁ c₂ : Context Value}
    (samePending : c₂.ledger.pending = c₁.ledger.pending)
    (sameTrail : c₂.ledger.trail = c₁.ledger.trail) {r₁ r₂ : Outcome Value}
    (agrees : Agrees F r₁ r₂) (underflow : F .ledgerUnderflow .ledgerUnderflow) :
    Agrees F (c₁.closeFrame r₁).1 (c₂.closeFrame r₂).1 ∧
      ∃ pending trail,
        (c₁.closeFrame r₁).2 = { c₁ with ledger := { c₁.ledger with pending, trail } } ∧
        (c₂.closeFrame r₂).2 = { c₂ with ledger := { c₂.ledger with pending, trail } } := by
  cases newest : c₁.ledger.pending.back? with
  | none =>
    have newest₂ : c₂.ledger.pending.back? = none := by rw [samePending, newest]
    rw [Context.closeFrame_underflow newest, Context.closeFrame_underflow newest₂]
    refine ⟨.flow (.fatal underflow), c₁.ledger.pending, c₁.ledger.trail, rfl, ?_⟩
    rw [← samePending, ← sameTrail]
  | some frame =>
    cases agrees with
    | value v =>
      simp [Context.closeFrame, Ledger.pop_eq, samePending, sameTrail, newest, Ledger.settle,
        Agrees.value]
    | flow flows =>
      cases flows with
      | signal s =>
        simp [Context.closeFrame, Ledger.popUnwinding_eq, samePending, sameTrail, newest,
          Agrees.flow, FlowAgrees.signal]
      | fatal related =>
        simp [Context.closeFrame, Ledger.pop_eq, samePending, sameTrail, newest, Ledger.settle,
          Agrees.flow, FlowAgrees.fatal, related]

namespace Simulation

/-- An evaluation that answers with a fatal error inside its frame answers with it after
the frame is taken off: the form left its own frame on top, so nothing underflows. -/
theorem closeFrame_passes_fatal {n : Nat} {form : Form} {m : Machine} {c : Context Value}
    (pushed : m.context.pushFrame form.frame = (.ok (), c)) {f : Fatal} {m' : Machine}
    (failed : evalIn n form { m with context := c } = .ok (.error (.fatal f), m')) :
    (m'.context.closeFrame (.error (.fatal f) : Outcome Value)).1 = .error (.fatal f) := by
  exact (Context.closeFrame_spec (evalIn_pending_pushed pushed failed) _).1

variable (sim : Simulation M F Stop)
include sim

/-- Evaluations of one form on related machines answer alike, as do the evaluations of a form in
its frame, of a list, of tag body clauses and of a body. -/
theorem evaluation :
    (∀ n form m₁ m₂, M m₁ m₂ → Run.Similar F M Stop (eval n form m₁) (eval n form m₂)) ∧
      (∀ n form m₁ m₂, M m₁ m₂ → Run.Similar F M Stop (evalIn n form m₁) (evalIn n form m₂)) ∧
      (∀ n data m₁ m₂, M m₁ m₂ →
        Run.Similar F M Stop (evalList n data m₁) (evalList n data m₂)) ∧
      (∀ n level clauses pc m₁ m₂, M m₁ m₂ →
        Run.Similar F M Stop (runClauses n level clauses pc m₁)
          (runClauses n level clauses pc m₂)) ∧
      (∀ n body m₁ m₂, M m₁ m₂ →
        Run.Similar F M Stop (evalBody n body m₁) (evalBody n body m₂)) := by
  refine eval.mutual_induct
    (fun n form m₁ => ∀ m₂, M m₁ m₂ → Run.Similar F M Stop (eval n form m₁) (eval n form m₂))
    (fun n form m₁ => ∀ m₂, M m₁ m₂ →
      Run.Similar F M Stop (evalIn n form m₁) (evalIn n form m₂))
    (fun n data m₁ => ∀ m₂, M m₁ m₂ →
      Run.Similar F M Stop (evalList n data m₁) (evalList n data m₂))
    (fun n level clauses pc m₁ => ∀ m₂, M m₁ m₂ →
      Run.Similar F M Stop (runClauses n level clauses pc m₁) (runClauses n level clauses pc m₂))
    (fun n body m₁ => ∀ m₂, M m₁ m₂ →
      Run.Similar F M Stop (evalBody n body m₁) (evalBody n body m₂))
    ?evalNoFuel ?evalRefused ?evalFramed ?inNoFuel ?const ?emit ?progn ?block ?returnFrom
    ?tagbody ?go ?whenShorter ?whenLonger ?catcher ?throw ?raise ?error ?recurseZero
    ?recurseSucc ?listNoFuel ?listNil ?listCons ?clausesNoFuel ?clausesEnd ?clausesTag
    ?clausesStmt ?bodyNoFuel ?bodyNil ?bodySingle ?bodyCons
  case evalNoFuel => intro form m₁ m₂ _; exact .halted .outOfFuel
  case evalRefused =>
    intro fuel form m₁ e c refused m₂ related
    rw [eval_of_pushFrame_error refused]
    cases sim.push form.frame related with
    | accepted pushed₁ _ _ => cases refused.symm.trans pushed₁
    | refused pushed₁ pushed₂ errors related' =>
      obtain ⟨error_eq, rfl⟩ := Prod.mk.inj (refused.symm.trans pushed₁)
      cases error_eq
      rw [eval_of_pushFrame_error pushed₂]
      exact .answered (.flow (.fatal errors)) related'
    | stopped pushed₁ stop =>
      obtain ⟨error_eq, rfl⟩ := Prod.mk.inj (refused.symm.trans pushed₁)
      cases error_eq
      exact .stopped stop
  case evalFramed =>
    intro fuel form m₁ c pushed inner m₂ related
    cases sim.push form.frame related with
    | refused pushed₁ _ _ _ => cases pushed.symm.trans pushed₁
    | stopped pushed₁ _ => cases pushed.symm.trans pushed₁
    | accepted pushed₁ pushed₂ related' =>
      cases (Prod.mk.inj (pushed.symm.trans pushed₁)).2
      rw [eval_of_pushFrame_ok pushed, eval_of_pushFrame_ok pushed₂]
      refine (inner _ related').onOutcome (fun r₁ r₂ m₁' m₂' agrees related'' => ?_) ?_
      · obtain ⟨closed, closedRelated⟩ := sim.close related'' agrees
        exact .answered closed closedRelated
      · intro f m' failed _
        exact ⟨_, by rw [closeFrame_passes_fatal pushed failed]⟩
  case inNoFuel => intro form m₁ m₂ _; exact .halted .outOfFuel
  case const => intro fuel m₁ v m₂ related; exact .answered (.value v) related
  case emit =>
    intro fuel m₁ inner inner_similar m₂ related
    exact (inner_similar m₂ related).onValue fun v _ _ related' =>
      .answered (.value v) (sim.log_push v related')
  case progn => intro fuel m₁ body body_similar m₂ related; exact body_similar m₂ related
  case block =>
    intro fuel m₁ name body body_similar m₂ related
    refine (body_similar m₂ related).onOutcome
      (fun r₁ r₂ _ _ agrees related' => .answered (agrees.catchBlock name) related') ?_
    intro f m _ _
    exact ⟨m, rfl⟩
  case returnFrom =>
    intro fuel m₁ name value value_similar m₂ related
    exact (value_similar m₂ related).onValue fun v _ _ related' =>
      .answered (.flow (.signal _)) related'
  case tagbody =>
    intro fuel m₁ level clauses clauses_similar m₂ related
    exact clauses_similar m₂ related
  case go => intro fuel m₁ level index m₂ related; exact .answered (.flow (.signal _)) related
  case whenShorter =>
    intro fuel m₁ length inner shorter inner_similar m₂ related
    have shorter₂ : m₂.log.size < length := by rwa [← sim.log_eq related]
    simp only [evalIn, if_pos shorter, if_pos shorter₂]
    exact inner_similar m₂ related
  case whenLonger =>
    intro fuel m₁ length inner notShorter m₂ related
    have notShorter₂ : ¬ m₂.log.size < length := by rwa [← sim.log_eq related]
    simp only [evalIn, if_neg notShorter, if_neg notShorter₂]
    exact .answered (.value _) related
  case catcher =>
    intro fuel m₁ tag body tag_similar body_similar m₂ related
    refine (tag_similar m₂ related).onValue fun t m₁' m₂' related' => ?_
    refine (body_similar m₁' m₂' related').onOutcome
      (fun r₁ r₂ _ _ agrees related'' => .answered (agrees.catchThrow t) related'') ?_
    intro f m _ _
    exact ⟨m, rfl⟩
  case throw =>
    intro fuel m₁ tag value tag_similar value_similar m₂ related
    exact (tag_similar m₂ related).onValue fun t m₁' m₂' related' =>
      (value_similar m₁' m₂' related').onValue fun v _ _ related'' =>
        .answered (.flow (.signal _)) related''
  case raise =>
    intro fuel m₁ directive data data_similar m₂ related
    exact (data_similar m₂ related).onValue fun vs _ _ related' =>
      .answered (.flow (.fatal (sim.raise directive vs related'))) related'
  case error =>
    intro fuel m₁ message m₂ related
    exact .answered (.flow (.fatal (sim.error message))) related
  case recurseZero => intro fuel m₁ body body_similar m₂ related; exact body_similar m₂ related
  case recurseSucc =>
    intro fuel m₁ depth body body_similar m₂ related
    exact body_similar m₂ related
  case listNoFuel => intro data m₁ m₂ _; exact .halted .outOfFuel
  case listNil => intro n m₁ m₂ related; exact .answered (.value []) related
  case listCons =>
    intro fuel form rest m₁ form_similar rest_similar m₂ related
    exact (form_similar m₂ related).onValue fun v m₁' m₂' related' =>
      (rest_similar m₁' m₂' related').onValue fun vs _ _ related'' =>
        .answered (.value (v :: vs)) related''
  case clausesNoFuel => intro level clauses pc m₁ m₂ _; exact .halted .outOfFuel
  case clausesEnd =>
    intro fuel level clauses pc m₁ atEnd m₂ related
    simp only [runClauses, atEnd]
    exact .answered (.value _) related
  case clausesTag =>
    intro fuel level clauses pc m₁ t atTag next_similar m₂ related
    simp only [runClauses, atTag]
    exact next_similar m₂ related
  case clausesStmt =>
    intro fuel level clauses pc m₁ form atStmt form_similar next_similar jump_similar m₂ related
    simp only [runClauses, atStmt]
    refine (form_similar m₂ related).onOutcome (fun r₁ r₂ m₁' m₂' agrees related' => ?_) ?_
    · -- agreeing statement results make the tag body go on alike: the same value or exit
      cases agrees with
      | value v => exact next_similar m₁' m₂' related'
      | flow flows =>
        cases flows with
        | fatal errors => exact .answered (.flow (.fatal errors)) related'
        | signal s =>
          split
          next flow passed =>
            cases catchTag_eq_error passed
            exact .answered (.flow (.signal s)) related'
          next => exact next_similar m₁' m₂' related'
          next =>
            split
            · exact jump_similar m₁' _ m₂' related'
            · exact .halted _
    · intro f m _ _
      exact ⟨m, rfl⟩
  case bodyNoFuel => intro body m₁ m₂ _; exact .halted .outOfFuel
  case bodyNil => intro n m₁ m₂ related; exact .answered (.value _) related
  case bodySingle => intro fuel form m₁ form_similar m₂ related; exact form_similar m₂ related
  case bodyCons =>
    intro fuel form rest m₁ nonempty form_similar rest_similar m₂ related
    rw [evalBody.eq_4 _ _ _ _ nonempty, evalBody.eq_4 _ _ _ _ nonempty]
    exact (form_similar m₂ related).onValue fun _ m₁' m₂' related' => rest_similar m₁' m₂' related'

end Simulation

end Unwinding
