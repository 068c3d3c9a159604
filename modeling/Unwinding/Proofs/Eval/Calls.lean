import Mathlib.Logic.Relation
import Unwinding.Proofs.Eval.Steps
import Unwinding.Proofs.Handler

/-!
# Evaluations during an evaluation

To speak of what happens *during* an evaluation, this module names the calls of `eval` that
an evaluation makes. `InnerCalls`, `BodyCalls`, `ListCalls` and `ClauseCalls` list the
evaluations that a form inside its frame, a body, a list and the clauses of a tag body make
directly, one constructor per place where the evaluator calls `eval`; `Call.Calls` adds the
form's own frame, `Call.Occurs` is any chain of them, and `InnerAround` names the handler a
direct evaluation runs inside.

`Call.Builds` says that a call makes an exit itself, and `Call.Fails` that a kernel call hands
it a fatal error. A flow that leaves a form was made by it or came unchanged from one of its
direct evaluations (`evalIn_flow`), and one that no handler takes leaves the form unchanged
(`InnerCalls.flow`); a fatal error is taken by no handler (`InnerCalls.fatal`).
-/

namespace Unwinding

/-- A call of `eval`: the fuel, the form, and the machine it starts from. -/
structure Call where
  fuel : Nat
  form : Form
  machine : Machine

namespace Call

/-- What the call answers. -/
def run (c : Call) : Run Value := eval c.fuel c.form c.machine

@[simp] theorem run_mk (n : Nat) (form : Form) (m : Machine) :
    (Call.mk n form m).run = eval n form m := rfl

end Call

/-! ## The evaluations a form makes directly -/

/-- The evaluations a body makes directly, each form from the machine the forms before it
left, as long as they gave values. -/
inductive BodyCalls : Nat → List Form → Machine → Call → Prop
  | head {n : Nat} {form : Form} {rest : List Form} {m : Machine} :
      BodyCalls (n + 1) (form :: rest) m ⟨n, form, m⟩
  | tail {n : Nat} {form : Form} {rest : List Form} {m m₁ : Machine} {v : Value} {c : Call} :
      rest ≠ [] → eval n form m = .ok (.ok v, m₁) → BodyCalls n rest m₁ c →
      BodyCalls (n + 1) (form :: rest) m c

/-- The evaluations a list of forms makes directly, as a body does. -/
inductive ListCalls : Nat → List Form → Machine → Call → Prop
  | head {n : Nat} {form : Form} {rest : List Form} {m : Machine} :
      ListCalls (n + 1) (form :: rest) m ⟨n, form, m⟩
  | tail {n : Nat} {form : Form} {rest : List Form} {m m₁ : Machine} {v : Value} {c : Call} :
      eval n form m = .ok (.ok v, m₁) → ListCalls n rest m₁ c →
      ListCalls (n + 1) (form :: rest) m c

/-- The evaluations the clauses of a tag body of `level` make directly from position `pc`:
the statement there, then the clauses after it, or after the tag a `go` it took aims at. -/
inductive ClauseCalls : Nat → Nat → List Clause → Nat → Machine → Call → Prop
  | skip {n level : Nat} {clauses : List Clause} {pc t : Nat} {m : Machine} {c : Call} :
      clauses[pc]? = some (.tag t) → ClauseCalls n level clauses (pc + 1) m c →
      ClauseCalls (n + 1) level clauses pc m c
  | stmt {n level : Nat} {clauses : List Clause} {pc : Nat} {m : Machine} {form : Form} :
      clauses[pc]? = some (.stmt form) → ClauseCalls (n + 1) level clauses pc m ⟨n, form, m⟩
  | next {n level : Nat} {clauses : List Clause} {pc : Nat} {m m₁ : Machine} {form : Form}
      {r : Outcome Value} {v : Value} {c : Call} :
      clauses[pc]? = some (.stmt form) → eval n form m = .ok (r, m₁) →
      catchTag level (tagCount clauses) r = .ok (.value v) →
      ClauseCalls n level clauses (pc + 1) m₁ c → ClauseCalls (n + 1) level clauses pc m c
  | jump {n level : Nat} {clauses : List Clause} {pc : Nat} {m m₁ : Machine} {form : Form}
      {r : Outcome Value} {index target : Nat} {c : Call} :
      clauses[pc]? = some (.stmt form) → eval n form m = .ok (r, m₁) →
      catchTag level (tagCount clauses) r = .ok (.go index) →
      tagPosition clauses index = some target →
      ClauseCalls n level clauses target m₁ c → ClauseCalls (n + 1) level clauses pc m c

/-- The evaluations a form makes directly inside its frame. -/
inductive InnerCalls : Nat → Form → Machine → Call → Prop
  | emit {n : Nat} {inner : Form} {m : Machine} :
      InnerCalls (n + 1) (.emit inner) m ⟨n, inner, m⟩
  | progn {n : Nat} {body : List Form} {m : Machine} {c : Call} :
      BodyCalls n body m c → InnerCalls (n + 1) (.progn body) m c
  | block {n : Nat} {name : Ident} {body : List Form} {m : Machine} {c : Call} :
      BodyCalls n body m c → InnerCalls (n + 1) (.block name body) m c
  | returnFrom {n : Nat} {name : Ident} {value : Form} {m : Machine} :
      InnerCalls (n + 1) (.returnFrom name value) m ⟨n, value, m⟩
  | tagbody {n level : Nat} {clauses : List Clause} {m : Machine} {c : Call} :
      ClauseCalls n level clauses 0 m c → InnerCalls (n + 1) (.tagbody level clauses) m c
  | whenLogShorter {n length : Nat} {inner : Form} {m : Machine} :
      m.log.size < length → InnerCalls (n + 1) (.whenLogShorter length inner) m ⟨n, inner, m⟩
  | catcherTag {n : Nat} {tag : Form} {body : List Form} {m : Machine} :
      InnerCalls (n + 1) (.catcher tag body) m ⟨n, tag, m⟩
  | catcherBody {n : Nat} {tag : Form} {body : List Form} {m m₁ : Machine} {t : Value}
      {c : Call} :
      eval n tag m = .ok (.ok t, m₁) → BodyCalls n body m₁ c →
      InnerCalls (n + 1) (.catcher tag body) m c
  | throwTag {n : Nat} {tag value : Form} {m : Machine} :
      InnerCalls (n + 1) (.throw tag value) m ⟨n, tag, m⟩
  | throwValue {n : Nat} {tag value : Form} {m m₁ : Machine} {t : Value} :
      eval n tag m = .ok (.ok t, m₁) → InnerCalls (n + 1) (.throw tag value) m ⟨n, value, m₁⟩
  | raise {n : Nat} {directive : String} {data : List Form} {m : Machine} {c : Call} :
      ListCalls n data m c → InnerCalls (n + 1) (.raise directive data) m c
  | recurseZero {n : Nat} {body : Form} {m : Machine} :
      InnerCalls (n + 1) (.recurse 0 body) m ⟨n, body, m⟩
  | recurseSucc {n depth : Nat} {body : Form} {m : Machine} :
      InnerCalls (n + 1) (.recurse (depth + 1) body) m ⟨n, .recurse depth body, m⟩

namespace Call

/-- The evaluations a call makes directly: its push is accepted, and the form makes them
inside its frame. -/
inductive Calls : Call → Call → Prop
  | mk {n : Nat} {form : Form} {m : Machine} {c₀ : Context Value} {c : Call} :
      m.context.pushFrame form.frame = (.ok (), c₀) →
      InnerCalls n form { m with context := c₀ } c → Calls ⟨n + 1, form, m⟩ c

/-- `c` takes place during `top` (or is `top` itself). -/
def Occurs (top c : Call) : Prop := Relation.ReflTransGen Calls top c

end Call

/-- The handler a form establishes around one of its direct evaluations: a block around the
forms of its body, a catcher around its body once its tag gave a value (never around its tag
form), a tag body around its statements. -/
inductive InnerAround : Nat → Form → Machine → Catcher Value → Call → Prop
  | block {n : Nat} {name : Ident} {body : List Form} {m : Machine} {c : Call} :
      BodyCalls n body m c → InnerAround (n + 1) (.block name body) m (.block name) c
  | catcher {n : Nat} {tag : Form} {body : List Form} {m m₁ : Machine} {t : Value} {c : Call} :
      eval n tag m = .ok (.ok t, m₁) → BodyCalls n body m₁ c →
      InnerAround (n + 1) (.catcher tag body) m (.dynamic t) c
  | tagbody {n level : Nat} {clauses : List Clause} {m : Machine} {c : Call} :
      ClauseCalls n level clauses 0 m c →
      InnerAround (n + 1) (.tagbody level clauses) m (.tagBody level (tagCount clauses)) c

/-- An evaluation made inside a handler is one the form makes directly. -/
theorem InnerAround.innerCalls {n : Nat} {form : Form} {m : Machine} {h : Catcher Value}
    {c : Call} (around : InnerAround n form m h c) : InnerCalls n form m c := by
  cases around with
  | block body => exact .block body
  | catcher first body => exact .catcherBody first body
  | tagbody clauses => exact .tagbody clauses

/-! ## Where exits and fatal errors are made -/

/-- A form makes an exit itself inside its frame, and `mb` is the machine at that moment: a
`go`, or a `return-from` or `throw` once the forms it evaluates first gave values. -/
inductive InnerBuilds : Nat → Form → Machine → Signal Value → Machine → Prop
  | go {n level index : Nat} {m : Machine} :
      InnerBuilds (n + 1) (.go level index) m (.tag level index) m
  | returnFrom {n : Nat} {name : Ident} {value : Form} {m m₁ : Machine} {v : Value} :
      eval n value m = .ok (.ok v, m₁) →
      InnerBuilds (n + 1) (.returnFrom name value) m (.block name v) m₁
  | throw {n : Nat} {tag value : Form} {m m₁ m₂ : Machine} {t v : Value} :
      eval n tag m = .ok (.ok t, m₁) → eval n value m₁ = .ok (.ok v, m₂) →
      InnerBuilds (n + 1) (.throw tag value) m (.dynamic t v) m₂

/-- A kernel call hands a form a fatal error inside its frame, and `mb` is the machine at
that moment: `error`, or `raise` once its data gave values. -/
inductive InnerFails : Nat → Form → Machine → Fatal → Machine → Prop
  | error {n : Nat} {message : String} {m : Machine} :
      InnerFails (n + 1) (.error message) m (.error message) m
  | raise {n : Nat} {directive : String} {data : List Form} {m m₁ : Machine}
      {vs : List Value} :
      evalList n data m = .ok (.ok vs, m₁) →
      InnerFails (n + 1) (.raise directive data) m (m₁.context.raise directive vs) m₁

namespace Call

/-- The call makes the exit `s` itself, in its own frame, on the machine `mb`. -/
inductive Builds : Call → Signal Value → Machine → Prop
  | mk {n : Nat} {form : Form} {m mb : Machine} {c₀ : Context Value} {s : Signal Value} :
      m.context.pushFrame form.frame = (.ok (), c₀) →
      InnerBuilds n form { m with context := c₀ } s mb → Builds ⟨n + 1, form, m⟩ s mb

/-- A kernel call hands the call the fatal error `f`, and `mb` is the machine at that
moment: the push of its frame is refused, or the form fails inside its frame. -/
inductive Fails : Call → Fatal → Machine → Prop
  | refused {n : Nat} {form : Form} {m : Machine} {c₀ : Context Value} {e : Fatal} :
      m.context.pushFrame form.frame = (.error e, c₀) →
      Fails ⟨n + 1, form, m⟩ e { m with context := c₀ }
  | inner {n : Nat} {form : Form} {m mb : Machine} {c₀ : Context Value} {f : Fatal} :
      m.context.pushFrame form.frame = (.ok (), c₀) →
      InnerFails n form { m with context := c₀ } f mb → Fails ⟨n + 1, form, m⟩ f mb

end Call

/-! ## Direct evaluations spend fuel -/

theorem BodyCalls.fuel_lt {n : Nat} {body : List Form} {m : Machine} {c : Call}
    (calls : BodyCalls n body m c) : c.fuel < n := by
  induction calls with
  | head => exact Nat.lt_succ_self _
  | tail _ _ _ inductionHypothesis => exact Nat.lt_succ_of_lt inductionHypothesis

theorem ListCalls.fuel_lt {n : Nat} {data : List Form} {m : Machine} {c : Call}
    (calls : ListCalls n data m c) : c.fuel < n := by
  induction calls with
  | head => exact Nat.lt_succ_self _
  | tail _ _ inductionHypothesis => exact Nat.lt_succ_of_lt inductionHypothesis

theorem ClauseCalls.fuel_lt {n level : Nat} {clauses : List Clause} {pc : Nat} {m : Machine}
    {c : Call} (calls : ClauseCalls n level clauses pc m c) : c.fuel < n := by
  induction calls with
  | skip _ _ inductionHypothesis => exact Nat.lt_succ_of_lt inductionHypothesis
  | stmt => exact Nat.lt_succ_self _
  | next _ _ _ _ inductionHypothesis => exact Nat.lt_succ_of_lt inductionHypothesis
  | jump _ _ _ _ _ inductionHypothesis => exact Nat.lt_succ_of_lt inductionHypothesis

theorem InnerCalls.fuel_lt {n : Nat} {form : Form} {m : Machine} {c : Call}
    (calls : InnerCalls n form m c) : c.fuel < n := by
  cases calls with
  | progn body => exact Nat.lt_succ_of_lt body.fuel_lt
  | block body => exact Nat.lt_succ_of_lt body.fuel_lt
  | tagbody clauses => exact Nat.lt_succ_of_lt clauses.fuel_lt
  | catcherBody _ body => exact Nat.lt_succ_of_lt body.fuel_lt
  | raise data => exact Nat.lt_succ_of_lt data.fuel_lt
  | emit | returnFrom | whenLogShorter _ | catcherTag | throwTag | throwValue _
  | recurseZero | recurseSucc => exact Nat.lt_succ_self _

theorem Call.Calls.fuel_lt {c c' : Call} (calls : c.Calls c') : c'.fuel < c.fuel := by
  cases calls with
  | mk _ inner => exact Nat.lt_succ_of_lt inner.fuel_lt

/-! ## Where a flow comes from -/

/-- A flow that leaves a body came unchanged from one of the evaluations it made, on the
machine that evaluation left. -/
theorem evalBody_flow {n : Nat} {body : List Form} {m m' : Machine} {flow : Flow Value}
    (ran : evalBody n body m = .ok (.error flow, m')) :
    ∃ c, BodyCalls n body m c ∧ c.run = .ok (.error flow, m') := by
  induction n generalizing body m with
  | zero => simp [evalBody] at ran
  | succ n inductionHypothesis =>
    cases body with
    | nil => simp [evalBody] at ran
    | cons form tail =>
      cases tail with
      | nil =>
        rw [evalBody.eq_3] at ran
        exact ⟨⟨n, form, m⟩, .head, ran⟩
      | cons second rest =>
        rw [evalBody.eq_4 _ _ _ _ (List.cons_ne_nil second rest)] at ran
        rcases Run.onValue_eq_flow ran with ⟨v, m₁, first, continued⟩ | passed
        · obtain ⟨c, calls, answered⟩ := inductionHypothesis continued
          exact ⟨c, .tail (List.cons_ne_nil second rest) first calls, answered⟩
        · exact ⟨⟨n, form, m⟩, .head, passed⟩

/-- A flow that leaves a list of forms came unchanged from one of the evaluations it made. -/
theorem evalList_flow {n : Nat} {data : List Form} {m m' : Machine} {flow : Flow Value}
    (ran : evalList n data m = .ok (.error flow, m')) :
    ∃ c, ListCalls n data m c ∧ c.run = .ok (.error flow, m') := by
  induction n generalizing data m with
  | zero => simp [evalList] at ran
  | succ n inductionHypothesis =>
    cases data with
    | nil => simp [evalList] at ran
    | cons form rest =>
      rw [evalList.eq_3] at ran
      rcases Run.onValue_eq_flow ran with ⟨v, m₁, first, continued⟩ | passed
      · rcases Run.onValue_eq_flow continued with ⟨vs, m₂, -, listed⟩ | restPassed
        · simp at listed
        · obtain ⟨c, calls, answered⟩ := inductionHypothesis restPassed
          exact ⟨c, .tail first calls, answered⟩
      · exact ⟨⟨n, form, m⟩, .head, passed⟩

/-- A flow that leaves the clauses of a tag body came unchanged from one of the statements
it evaluated: the tag body takes only the tag exits aimed at it. -/
theorem runClauses_flow {n level : Nat} {clauses : List Clause} {pc : Nat} {m m' : Machine}
    {flow : Flow Value} (ran : runClauses n level clauses pc m = .ok (.error flow, m')) :
    ∃ c, ClauseCalls n level clauses pc m c ∧ c.run = .ok (.error flow, m') := by
  induction n generalizing pc m with
  | zero => simp [runClauses] at ran
  | succ n inductionHypothesis =>
    rw [runClauses.eq_2] at ran
    cases clause : clauses[pc]? with
    | none => simp [clause] at ran
    | some item =>
      cases item with
      | tag t =>
        simp only [clause] at ran
        obtain ⟨c, calls, answered⟩ := inductionHypothesis ran
        exact ⟨c, .skip clause calls, answered⟩
      | stmt form =>
        simp only [clause] at ran
        obtain ⟨r, m₁, stmt, continued⟩ := Run.onOutcome_eq_ok ran
        cases resumed : catchTag level (tagCount clauses) r with
        | error flow' =>
          simp only [resumed, Except.ok.injEq, Prod.mk.injEq, Except.error.injEq] at continued
          obtain ⟨rfl, rfl⟩ := continued
          rw [catchTag_eq_error resumed] at stmt
          exact ⟨⟨n, form, m⟩, .stmt clause, stmt⟩
        | ok resume =>
          cases resume with
          | value v =>
            simp only [resumed] at continued
            obtain ⟨c, calls, answered⟩ := inductionHypothesis continued
            exact ⟨c, .next clause stmt resumed calls, answered⟩
          | go index =>
            cases position : tagPosition clauses index with
            | none => simp [resumed, position] at continued
            | some target =>
              simp only [resumed, position] at continued
              obtain ⟨c, calls, answered⟩ := inductionHypothesis continued
              exact ⟨c, .jump clause stmt resumed position calls, answered⟩

/-- A flow that leaves a form inside its frame was made there (an exit the form builds, or a
fatal error a kernel call hands it) or came unchanged from one of the evaluations the form
made, on the machine that evaluation left. -/
theorem evalIn_flow {n : Nat} {form : Form} {m m' : Machine} {flow : Flow Value}
    (ran : evalIn n form m = .ok (.error flow, m')) :
    (∃ s, flow = .signal s ∧ InnerBuilds n form m s m') ∨
      (∃ f, flow = .fatal f ∧ InnerFails n form m f m') ∨
      ∃ c, InnerCalls n form m c ∧ c.run = .ok (.error flow, m') := by
  cases n with
  | zero => simp [evalIn] at ran
  | succ n =>
    cases form with
    | const v => simp [evalIn] at ran
    | emit inner =>
      simp only [evalIn] at ran
      rcases Run.onValue_eq_flow ran with ⟨v, m₁, -, logged⟩ | passed
      · simp at logged
      · exact .inr (.inr ⟨_, .emit, passed⟩)
    | progn body =>
      simp only [evalIn] at ran
      obtain ⟨c, calls, answered⟩ := evalBody_flow ran
      exact .inr (.inr ⟨c, .progn calls, answered⟩)
    | block name body =>
      simp only [evalIn] at ran
      obtain ⟨r, m₁, ranBody, handled⟩ := Run.onOutcome_eq_ok ran
      obtain ⟨handled_eq, rfl⟩ := Prod.mk.inj (Except.ok.inj handled)
      rw [catchBlock_eq_error handled_eq] at ranBody
      obtain ⟨c, calls, answered⟩ := evalBody_flow ranBody
      exact .inr (.inr ⟨c, .block calls, answered⟩)
    | returnFrom name value =>
      simp only [evalIn] at ran
      rcases Run.onValue_eq_flow ran with ⟨v, m₁, first, built⟩ | passed
      · simp only [Except.ok.injEq, Prod.mk.injEq, Except.error.injEq] at built
        obtain ⟨rfl, rfl⟩ := built
        exact .inl ⟨_, rfl, .returnFrom first⟩
      · exact .inr (.inr ⟨_, .returnFrom, passed⟩)
    | tagbody level clauses =>
      simp only [evalIn] at ran
      obtain ⟨c, calls, answered⟩ := runClauses_flow ran
      exact .inr (.inr ⟨c, .tagbody calls, answered⟩)
    | go level index =>
      simp only [evalIn, Except.ok.injEq, Prod.mk.injEq, Except.error.injEq] at ran
      obtain ⟨rfl, rfl⟩ := ran
      exact .inl ⟨_, rfl, .go⟩
    | whenLogShorter length inner =>
      by_cases shorter : m.log.size < length
      · simp only [evalIn, if_pos shorter] at ran
        exact .inr (.inr ⟨_, .whenLogShorter shorter, ran⟩)
      · simp [evalIn, shorter] at ran
    | catcher tag body =>
      simp only [evalIn] at ran
      rcases Run.onValue_eq_flow ran with ⟨t, m₁, first, continued⟩ | passed
      · obtain ⟨r, m₂, ranBody, handled⟩ := Run.onOutcome_eq_ok continued
        obtain ⟨handled_eq, rfl⟩ := Prod.mk.inj (Except.ok.inj handled)
        rw [catchThrow_eq_error handled_eq] at ranBody
        obtain ⟨c, calls, answered⟩ := evalBody_flow ranBody
        exact .inr (.inr ⟨c, .catcherBody first calls, answered⟩)
      · exact .inr (.inr ⟨_, .catcherTag, passed⟩)
    | throw tag value =>
      simp only [evalIn] at ran
      rcases Run.onValue_eq_flow ran with ⟨t, m₁, first, continued⟩ | passed
      · rcases Run.onValue_eq_flow continued with ⟨v, m₂, second, built⟩ | valuePassed
        · simp only [Except.ok.injEq, Prod.mk.injEq, Except.error.injEq] at built
          obtain ⟨rfl, rfl⟩ := built
          exact .inl ⟨_, rfl, .throw first second⟩
        · exact .inr (.inr ⟨_, .throwValue first, valuePassed⟩)
      · exact .inr (.inr ⟨_, .throwTag, passed⟩)
    | raise directive data =>
      simp only [evalIn] at ran
      rcases Run.onValue_eq_flow ran with ⟨vs, m₁, listed, raised⟩ | passed
      · simp only [Except.ok.injEq, Prod.mk.injEq, Except.error.injEq] at raised
        obtain ⟨rfl, rfl⟩ := raised
        exact .inr (.inl ⟨_, rfl, .raise listed⟩)
      · obtain ⟨c, calls, answered⟩ := evalList_flow passed
        exact .inr (.inr ⟨c, .raise calls, answered⟩)
    | error message =>
      simp only [evalIn, Except.ok.injEq, Prod.mk.injEq, Except.error.injEq] at ran
      obtain ⟨rfl, rfl⟩ := ran
      exact .inr (.inl ⟨_, rfl, .error⟩)
    | recurse depth body =>
      cases depth with
      | zero =>
        simp only [evalIn] at ran
        exact .inr (.inr ⟨_, .recurseZero, ran⟩)
      | succ depth =>
        simp only [evalIn] at ran
        exact .inr (.inr ⟨_, .recurseSucc, ran⟩)

/-! ## Flows pass out unchanged -/

/-- A flow that one of a body's evaluations answers with is the body's answer, on the machine
that evaluation left: the forms after it are not evaluated. -/
theorem BodyCalls.flow {n : Nat} {body : List Form} {m : Machine} {c : Call} {flow : Flow Value}
    {m₂ : Machine} (calls : BodyCalls n body m c) (answered : c.run = .ok (.error flow, m₂)) :
    evalBody n body m = .ok (.error flow, m₂) := by
  induction calls with
  | @head n form rest m =>
    rw [Call.run_mk] at answered
    cases rest with
    | nil => rw [evalBody.eq_3, answered]
    | cons second rest =>
      rw [evalBody.eq_4 _ _ _ _ (List.cons_ne_nil _ _), answered, Run.onValue_flow]
  | tail nonempty first _ inductionHypothesis =>
    rw [evalBody.eq_4 _ _ _ _ nonempty, first, Run.onValue_value]
    exact inductionHypothesis answered

/-- A flow that one of a list's evaluations answers with is the list's answer. -/
theorem ListCalls.flow {n : Nat} {data : List Form} {m : Machine} {c : Call} {flow : Flow Value}
    {m₂ : Machine} (calls : ListCalls n data m c) (answered : c.run = .ok (.error flow, m₂)) :
    evalList n data m = .ok (.error flow, m₂) := by
  induction calls with
  | head =>
    rw [Call.run_mk] at answered
    rw [evalList.eq_3, answered, Run.onValue_flow]
  | tail first _ inductionHypothesis =>
    rw [evalList.eq_3, first, Run.onValue_value, inductionHypothesis answered, Run.onValue_flow]

/-- A flow that one of a tag body's statements answers with, and that the tag body does not
take, is the answer of its clauses. -/
theorem ClauseCalls.flow {n level : Nat} {clauses : List Clause} {pc : Nat} {m : Machine}
    {c : Call} {flow : Flow Value} {m₂ : Machine} (calls : ClauseCalls n level clauses pc m c)
    (answered : c.run = .ok (.error flow, m₂))
    (passes : catchTag level (tagCount clauses) (.error flow : Outcome Value) = .error flow) :
    runClauses n level clauses pc m = .ok (.error flow, m₂) := by
  induction calls with
  | skip clause _ inductionHypothesis =>
    simp only [runClauses.eq_2, clause]
    exact inductionHypothesis answered passes
  | stmt clause =>
    rw [Call.run_mk] at answered
    simp only [runClauses.eq_2, clause, answered, Run.onOutcome_ok, passes]
  | next clause stmt resumed _ inductionHypothesis =>
    simp only [runClauses.eq_2, clause, stmt, Run.onOutcome_ok, resumed]
    exact inductionHypothesis answered passes
  | jump clause stmt resumed position _ inductionHypothesis =>
    simp only [runClauses.eq_2, clause, stmt, Run.onOutcome_ok, resumed, position]
    exact inductionHypothesis answered passes

/-- A flow that one of a form's direct evaluations answers with, and that no handler the form
establishes around that evaluation takes, is the form's answer inside its frame, on the same
machine: nothing after it runs. -/
theorem InnerCalls.flow {n : Nat} {form : Form} {m : Machine} {c : Call} {flow : Flow Value}
    {m₂ : Machine} (calls : InnerCalls n form m c) (answered : c.run = .ok (.error flow, m₂))
    (passes : ∀ h, InnerAround n form m h c → h.takesFlow flow = false) :
    evalIn n form m = .ok (.error flow, m₂) := by
  cases calls with
  | emit =>
    rw [Call.run_mk] at answered
    simp only [evalIn, answered, Run.onValue_flow]
  | progn body =>
    simp only [evalIn]
    exact body.flow answered
  | block body =>
    simp only [evalIn, body.flow answered, Run.onOutcome_ok,
      catchBlock_of_not_takes (passes _ (.block body))]
  | returnFrom =>
    rw [Call.run_mk] at answered
    simp only [evalIn, answered, Run.onValue_flow]
  | tagbody clauses =>
    simp only [evalIn]
    exact clauses.flow answered (catchTag_of_not_takes (passes _ (.tagbody clauses)))
  | whenLogShorter shorter =>
    rw [Call.run_mk] at answered
    simp only [evalIn, if_pos shorter, answered]
  | catcherTag =>
    rw [Call.run_mk] at answered
    simp only [evalIn, answered, Run.onValue_flow]
  | catcherBody first body =>
    simp only [evalIn, first, Run.onValue_value, body.flow answered, Run.onOutcome_ok,
      catchThrow_of_not_takes (passes _ (.catcher first body))]
  | throwTag =>
    rw [Call.run_mk] at answered
    simp only [evalIn, answered, Run.onValue_flow]
  | throwValue first =>
    rw [Call.run_mk] at answered
    simp only [evalIn, first, Run.onValue_value, answered, Run.onValue_flow]
  | raise data => simp only [evalIn, data.flow answered, Run.onValue_flow]
  | recurseZero =>
    rw [Call.run_mk] at answered
    simp only [evalIn, answered]
  | recurseSucc =>
    rw [Call.run_mk] at answered
    simp only [evalIn, answered]

/-- A fatal error that one of a form's direct evaluations answers with is the form's answer
inside its frame, on the same machine: no handler takes it, and nothing after it runs. -/
theorem InnerCalls.fatal {n : Nat} {form : Form} {m : Machine} {c : Call} {f : Fatal}
    {m₂ : Machine} (calls : InnerCalls n form m c) (failed : c.run = .ok (.error (.fatal f), m₂)) :
    evalIn n form m = .ok (.error (.fatal f), m₂) :=
  calls.flow failed fun h _ => Catcher.takesFlow_fatal h f

/-- A form that fails inside its frame answers with that fatal error, on that machine. -/
theorem InnerFails.answers {n : Nat} {form : Form} {m : Machine} {f : Fatal} {mb : Machine}
    (fails : InnerFails n form m f mb) : evalIn n form m = .ok (.error (.fatal f), mb) := by
  cases fails with
  | error => simp only [evalIn]
  | raise listed => simp only [evalIn, listed, Run.onValue_value]

namespace Call

/-- A call that a kernel call hands a fatal error answers with it, with the log of that
moment. -/
theorem Fails.answers {c : Call} {f : Fatal} {mb : Machine} (fails : c.Fails f mb) :
    ∃ m', c.run = .ok (.error (.fatal f), m') ∧ m'.log = mb.log := by
  cases fails with
  | refused refused => exact ⟨_, eval_of_pushFrame_error refused, rfl⟩
  | inner pushed inner =>
    obtain ⟨m', ran, log_eq, -⟩ := eval_of_evalIn pushed inner.answers
    exact ⟨m', ran, log_eq⟩

/-- A fatal error that a direct evaluation answers with is the call's answer too, with that
evaluation's log. -/
theorem Calls.fatal {c c' : Call} {f : Fatal} {m₂ : Machine} (calls : c.Calls c')
    (failed : c'.run = .ok (.error (.fatal f), m₂)) :
    ∃ m', c.run = .ok (.error (.fatal f), m') ∧ m'.log = m₂.log := by
  cases calls with
  | mk pushed inner =>
    obtain ⟨m', ran, log_eq, -⟩ := eval_of_evalIn pushed (inner.fatal failed)
    exact ⟨m', ran, log_eq⟩

/-- A fatal error that a kernel call hands to any evaluation during `top` is the answer of
`top`, with the log of the moment it was handed over. -/
theorem Occurs.fatal {top c : Call} {f : Fatal} {mb : Machine} (occurs : top.Occurs c)
    (fails : c.Fails f mb) :
    ∃ m', top.run = .ok (.error (.fatal f), m') ∧ m'.log = mb.log := by
  induction occurs using Relation.ReflTransGen.head_induction_on with
  | refl => exact fails.answers
  | head calls _ inductionHypothesis =>
    obtain ⟨m₂, failed, log_eq⟩ := inductionHypothesis
    obtain ⟨m', answered, log_eq'⟩ := calls.fatal failed
    exact ⟨m', answered, log_eq'.trans log_eq⟩

end Call

end Unwinding
