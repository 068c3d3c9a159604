import Unwinding.Proofs.Eval.Trail

/-!
# Which handler takes an exit

An exit made during an evaluation is taken by the innermost handler around it that matches
it: a block named by the very same identifier, a catcher holding the very object thrown, a tag
body of the exit's level with more tags than its index. Every handler inside that one passes
the exit on as it is, and nothing more is evaluated on the way out; the taking block or
catcher answers the exit's value, and the taking tag body goes on at the tag. An exit that no
handler around it takes leaves the whole evaluation and is reported as escaped.

`Call.Within` lists the handlers around an evaluation, innermost first. A handler is around a
direct evaluation only as `InnerAround` says, so the tag form of a catcher is inside none of
that catcher's handlers. The step is `Call.Calls.passes_exit` (an exit no handler takes goes
one evaluation up unchanged), the run is `Call.Within.carries`, and the main statement is
`exit_taken_by_innermost_matching_handler`.
-/

namespace Unwinding

/-- The clauses of a tag body of `level` resumed at the tag `index`: from the first clause
with that tag, and a halt when the tag body has none. -/
def resumeClauses (fuel level : Nat) (clauses : List Clause) (index : Nat) (m : Machine) :
    Run Value :=
  match tagPosition clauses index with
  | some target => runClauses fuel level clauses target m
  | none => .error (.missingTag level index)

namespace Call

/-- `a` makes `c` directly, inside the handler `h` it establishes. -/
inductive Around : Call → Catcher Value → Call → Prop
  | mk {n : Nat} {form : Form} {m : Machine} {c₀ : Context Value} {h : Catcher Value}
      {c : Call} :
      m.context.pushFrame form.frame = (.ok (), c₀) →
      InnerAround n form { m with context := c₀ } h c → Around ⟨n + 1, form, m⟩ h c

/-- The handlers around the evaluation `c` during `top`, innermost first, each with the
evaluation that establishes it. -/
inductive Within (top : Call) : Call → List (Call × Catcher Value) → Prop
  | refl : Within top top []
  | plain {a c : Call} {hs : List (Call × Catcher Value)} :
      Within top a hs → a.Calls c → (∀ h, ¬ a.Around h c) → Within top c hs
  | enclosed {a c : Call} {h : Catcher Value} {hs : List (Call × Catcher Value)} :
      Within top a hs → a.Around h c → Within top c ((a, h) :: hs)

/-- What `a`, around whose direct evaluation the handler `h` stands, does with an exit `s` it
takes, the exit having come with the log `log`: a block or a catcher answers the exit's value
on that log; a tag body goes on at the tag, resuming its clauses on a machine with that log. -/
def Resolves (a : Call) (h : Catcher Value) (s : Signal Value) (log : Array Value) : Prop :=
  match h, s with
  | .block _, .block _ v | .dynamic _, .dynamic _ v => ∃ m', a.run = .ok (.ok v, m') ∧ m'.log = log
  | .tagBody level _, .tag _ index =>
    ∃ clauses fuel c₀ m', a.form = .tagbody level clauses ∧
      a.machine.context.pushFrame a.form.frame = (.ok (), c₀) ∧ m'.log = log ∧
      evalIn (a.fuel - 1) a.form { a.machine with context := c₀ } =
        resumeClauses fuel level clauses index m'
  | _, _ => False

/-! ## Handlers around an evaluation -/

/-- An evaluation made inside a handler is a direct one. -/
theorem Around.calls {a c : Call} {h : Catcher Value} (around : a.Around h c) : a.Calls c := by
  cases around with
  | mk pushed inner => exact .mk pushed inner.innerCalls

/-- A form stands one handler around a direct evaluation: a catcher holds the one value its
tag form gives. -/
theorem Around.unique {a c : Call} {h h' : Catcher Value} (around : a.Around h c)
    (around' : a.Around h' c) : h' = h := by
  cases around with
  | mk pushed inner =>
    cases around' with
    | mk pushed' inner' =>
      cases (Prod.mk.inj (pushed.symm.trans pushed')).2
      cases inner with
      | block _ => cases inner' with | block _ => rfl
      | tagbody _ => cases inner' with | tagbody _ => rfl
      | catcher first _ =>
        cases inner' with
        | catcher first' _ =>
          have same := first.symm.trans first'
          simp only [Except.ok.injEq, Prod.mk.injEq] at same
          rw [same.1]

/-- The handlers around an evaluation lie on a chain of direct evaluations from the top. -/
theorem Within.occurs {top c : Call} {hs : List (Call × Catcher Value)}
    (within : top.Within c hs) : top.Occurs c := by
  induction within with
  | refl => exact .refl
  | plain _ calls _ occurs => exact occurs.tail calls
  | enclosed _ around occurs => exact occurs.tail around.calls

/-- Every evaluation during `top` has its list of handlers around it. -/
theorem Occurs.within {top c : Call} (occurs : top.Occurs c) : ∃ hs, top.Within c hs := by
  induction occurs with
  | refl => exact ⟨[], .refl⟩
  | @tail a c _ calls inductionHypothesis =>
    obtain ⟨hs, within⟩ := inductionHypothesis
    by_cases inside : ∃ h, a.Around h c
    · obtain ⟨h, around⟩ := inside
      exact ⟨_, .enclosed within around⟩
    · exact ⟨hs, .plain within calls fun h around => inside ⟨h, around⟩⟩

end Call

/-! ## One step out -/

namespace InnerBuilds

/-- A form that builds an exit answers with it inside its frame, on the machine of that
moment. -/
theorem answers {n : Nat} {form : Form} {m mb : Machine} {s : Signal Value}
    (builds : InnerBuilds n form m s mb) : evalIn n form m = .ok (.error (.signal s), mb) := by
  cases builds with
  | go => rfl
  | returnFrom first => simp only [evalIn, first, Run.onValue_value]
  | throw first second => simp only [evalIn, first, Run.onValue_value, second]

end InnerBuilds

namespace Call

/-- An evaluation that builds an exit answers with it, with the log of the moment it was
built, and its unwound view lists the frames that were pending at that moment. -/
theorem Builds.answers {c : Call} {s : Signal Value} {mb : Machine} (builds : c.Builds s mb) :
    ∃ mc, c.run = .ok (.error (.signal s), mc) ∧ mc.log = mb.log ∧
      mc.context.ledger.unwoundFirst = mb.context.ledger.newestFirst := by
  have empty := builds.top.1
  cases builds with
  | mk pushed inner =>
    obtain ⟨mc, answered, log_eq, view_eq⟩ := eval_of_evalIn pushed inner.answers
    refine ⟨mc, answered, log_eq, ?_⟩
    rw [view_eq _ rfl, Ledger.unwoundFirst_eq_append, empty]
    rfl

/-- An exit that a direct evaluation answers with, and that no handler its parent stands
around it takes, is the parent's answer too: the parent's frame goes onto the trail, and the
log and the unwound view stay as they were. -/
theorem Calls.passes_exit {a c : Call} (calls : a.Calls c) {s : Signal Value} {mc : Machine}
    (answered : c.run = .ok (.error (.signal s), mc))
    (notTaken : ∀ h, a.Around h c → h.takes s = false) :
    ∃ ma, a.run = .ok (.error (.signal s), ma) ∧ ma.log = mc.log ∧
      ma.context.ledger.unwoundFirst = mc.context.ledger.unwoundFirst := by
  cases calls with
  | mk pushed inner =>
    have passed := inner.flow answered fun h around => notTaken h (.mk pushed around)
    obtain ⟨ma, ran, log_eq, view_eq⟩ := eval_of_evalIn pushed passed
    exact ⟨ma, ran, log_eq, view_eq _ rfl⟩

/-- A block or a catcher that takes an exit coming out of its body answers the exit's value,
with the log the exit came with. -/
theorem Around.answers_value {a c : Call} {h : Catcher Value} (around : a.Around h c)
    {s : Signal Value} {mc : Machine} (answered : c.run = .ok (.error (.signal s), mc))
    (taken : h.takes s = true) {v : Value} (valued : s.value? = some v) :
    ∃ ma, a.run = .ok (.ok v, ma) ∧ ma.log = mc.log := by
  cases around with
  | @mk n form m c₀ _ _ pushed inner =>
    have resolved : evalIn n form { m with context := c₀ } = .ok (.ok v, mc) := by
      cases inner with
      | block body =>
        simp only [evalIn, body.flow answered, Run.onOutcome_ok,
          catchBlock_of_takes taken valued]
      | catcher first body =>
        simp only [evalIn, first, Run.onValue_value, body.flow answered, Run.onOutcome_ok,
          catchThrow_of_takes taken valued]
      | tagbody _ =>
        cases s <;> simp [Catcher.takes, Signal.value?] at taken valued
    obtain ⟨ma, ran, log_eq, -⟩ := eval_of_evalIn pushed resolved
    exact ⟨ma, ran, log_eq⟩

end Call

/-- A tag exit that one of a tag body's statements answers with, and that the tag body takes,
sends its clauses to the tag: from there they answer what they answer when resumed at the tag
on the machine the exit came with, with the fuel the statement had. -/
theorem ClauseCalls.resumes {n level : Nat} {clauses : List Clause} {pc : Nat} {m : Machine}
    {c : Call} {r : Outcome Value} {mc : Machine} {index : Nat}
    (calls : ClauseCalls n level clauses pc m c) (answered : c.run = .ok (r, mc))
    (jumped : catchTag level (tagCount clauses) r = .ok (.go index)) :
    runClauses n level clauses pc m = resumeClauses c.fuel level clauses index mc := by
  induction calls with
  | skip clause _ inductionHypothesis =>
    simp only [runClauses.eq_2, clause, inductionHypothesis answered jumped]
  | @stmt n level clauses pc m form clause =>
    rw [Call.run_mk] at answered
    simp only [runClauses.eq_2, clause, answered, Run.onOutcome_ok, jumped]
    rfl
  | next clause stmt resumed _ inductionHypothesis =>
    simp only [runClauses.eq_2, clause, stmt, Run.onOutcome_ok, resumed,
      inductionHypothesis answered jumped]
  | jump clause stmt resumed position _ inductionHypothesis =>
    simp only [runClauses.eq_2, clause, stmt, Run.onOutcome_ok, resumed, position,
      inductionHypothesis answered jumped]

namespace Call

/-- A tag body that takes a tag exit coming out of one of its statements goes on at the tag:
inside its frame it answers what its clauses answer when resumed at the tag, on the machine
the exit came with. -/
theorem Around.resumes {a c : Call} {level count : Nat} (around : a.Around (.tagBody level count) c)
    {l index : Nat} {mc : Machine} (answered : c.run = .ok (.error (.signal (.tag l index)), mc))
    (taken : (Catcher.tagBody level count : Catcher Value).takes (.tag l index) = true) :
    ∃ clauses fuel c₀, a.form = .tagbody level clauses ∧
      a.machine.context.pushFrame a.form.frame = (.ok (), c₀) ∧
      evalIn (a.fuel - 1) a.form { a.machine with context := c₀ } =
        resumeClauses fuel level clauses index mc := by
  cases around with
  | mk pushed inner =>
    cases inner with
    | tagbody clauses =>
      have resumed := clauses.resumes answered (catchTag_of_takes taken)
      exact ⟨_, c.fuel, _, rfl, pushed, by simp only [evalIn, Nat.add_sub_cancel, resumed]⟩

/-- A handler that takes an exit coming out of the evaluation it stands around resolves it. -/
theorem Around.resolves {a c : Call} {h : Catcher Value} (around : a.Around h c)
    {s : Signal Value} {mc : Machine} (answered : c.run = .ok (.error (.signal s), mc))
    (taken : h.takes s = true) : a.Resolves h s mc.log := by
  cases h with
  | block name =>
    cases s with
    | block target v => exact around.answers_value answered taken rfl
    | tag l i => simp [Catcher.takes] at taken
    | dynamic symbol v => simp [Catcher.takes] at taken
  | dynamic tag =>
    cases s with
    | block target v => simp [Catcher.takes] at taken
    | tag l i => simp [Catcher.takes] at taken
    | dynamic symbol v => exact around.answers_value answered taken rfl
  | tagBody level count =>
    cases s with
    | block target v => simp [Catcher.takes] at taken
    | tag l index =>
      obtain ⟨clauses, fuel, c₀, form_eq, pushed, resumed⟩ := around.resumes answered taken
      exact ⟨clauses, fuel, c₀, mc, form_eq, pushed, rfl, resumed⟩
    | dynamic symbol v => simp [Catcher.takes] at taken

/-! ## All the way out -/

/-- An exit out of `c` passes unchanged through each handler around `c` inside the first one
that takes it, and that one resolves it; when none takes it, it comes out of `top`. -/
theorem Within.carries {top c : Call} {hs : List (Call × Catcher Value)}
    (within : top.Within c hs) {s : Signal Value} {mc : Machine}
    (answered : c.run = .ok (.error (.signal s), mc)) :
    (∀ inner a h outer, hs = inner ++ (a, h) :: outer → (∀ p ∈ inner, p.2.takes s = false) →
      (h.takes s = false → ∃ ma, a.run = .ok (.error (.signal s), ma) ∧ ma.log = mc.log ∧
        ma.context.ledger.unwoundFirst = mc.context.ledger.unwoundFirst) ∧
      (h.takes s = true → a.Resolves h s mc.log)) ∧
    ((∀ p ∈ hs, p.2.takes s = false) →
      ∃ mt, top.run = .ok (.error (.signal s), mt) ∧ mt.log = mc.log ∧
        mt.context.ledger.unwoundFirst = mc.context.ledger.unwoundFirst) := by
  induction within generalizing mc with
  | refl =>
    refine ⟨fun inner a h outer split => ?_, fun _ => ⟨mc, answered, rfl, rfl⟩⟩
    simp at split
  | plain _ calls outside inductionHypothesis =>
    obtain ⟨ma, passed, log_eq, view_eq⟩ :=
      calls.passes_exit answered fun h around => absurd around (outside h)
    obtain ⟨inside, escapes⟩ := inductionHypothesis passed
    rw [log_eq, view_eq] at inside escapes
    exact ⟨inside, escapes⟩
  | @enclosed a c h hs _ around inductionHypothesis =>
    have passesUp : h.takes s = false → ∃ ma, a.run = .ok (.error (.signal s), ma) ∧
        ma.log = mc.log ∧ ma.context.ledger.unwoundFirst = mc.context.ledger.unwoundFirst :=
      fun notTaken => around.calls.passes_exit answered fun h' around' => by
        rw [around.unique around']
        exact notTaken
    refine ⟨fun inner a' h' outer split prefixPasses => ?_, fun nonePasses => ?_⟩
    · cases inner with
      | nil =>
        obtain ⟨⟨rfl, rfl⟩, -⟩ := List.cons.inj split
        exact ⟨passesUp, around.resolves answered⟩
      | cons p inner =>
        rw [List.cons_append, List.cons.injEq] at split
        obtain ⟨rfl, split⟩ := split
        obtain ⟨ma, passed, log_eq, view_eq⟩ := passesUp (prefixPasses _ List.mem_cons_self)
        obtain ⟨inside, -⟩ := inductionHypothesis passed
        rw [log_eq, view_eq] at inside
        exact inside inner a' h' outer split fun p' mem =>
          prefixPasses p' (List.mem_cons_of_mem _ mem)
    · obtain ⟨ma, passed, log_eq, view_eq⟩ := passesUp (nonePasses _ List.mem_cons_self)
      obtain ⟨-, escapes⟩ := inductionHypothesis passed
      rw [log_eq, view_eq] at escapes
      exact escapes fun p mem => nonePasses p (List.mem_cons_of_mem _ mem)

end Call

/-- An exit built during `top` passes unchanged, with the log and pending frames of the moment
it was built, through every handler inside the innermost one that matches it; that handler
resolves it, and with none it comes out of `top` and is reported as escaped. -/
theorem exit_taken_by_innermost_matching_handler (top : Call) :
    (∀ c, top.Occurs c → ∃ hs, top.Within c hs) ∧
    ∀ c hs s mb, top.Within c hs → c.Builds s mb →
      (∀ inner a h outer, hs = inner ++ (a, h) :: outer → (∀ p ∈ inner, p.2.takes s = false) →
        (h.takes s = false → ∃ ma, a.run = .ok (.error (.signal s), ma) ∧ ma.log = mb.log ∧
          ma.context.ledger.unwoundFirst = mb.context.ledger.newestFirst) ∧
        (h.takes s = true → a.Resolves h s mb.log)) ∧
      ((∀ p ∈ hs, p.2.takes s = false) →
        ∃ mt, top.run = .ok (.error (.signal s), mt) ∧ mt.log = mb.log ∧
          mt.context.ledger.unwoundFirst = mb.context.ledger.newestFirst ∧
          ∃ text, (mt.context.finish (.error (.signal s))).1 = .error (.escaped s.kind text)) := by
  refine ⟨fun c occurs => occurs.within, fun c hs s mb within builds => ?_⟩
  obtain ⟨mc, answered, log_eq, view_eq⟩ := builds.answers
  obtain ⟨inside, escapes⟩ := within.carries answered
  rw [log_eq, view_eq] at inside escapes
  refine ⟨inside, fun nonePasses => ?_⟩
  obtain ⟨mt, ran, top_log, top_view⟩ := escapes nonePasses
  exact ⟨mt, ran, top_log, top_view, _, rfl⟩

/-- An exit aimed at the outer of two blocks that print alike passes the inner one, which is
another object, and the outer block answers the exit's value; the form after the inner block
never runs, so nothing is logged. -/
theorem exit_passes_namesake_block :
    ∃ inner c mb,
      (Call.mk 12 (.block ⟨"b", 0⟩ [.block ⟨"b", 1⟩ [.returnFrom ⟨"b", 0⟩ (.const (.int 1))],
          .emit (.const (.int 2))]) { context := Context.withLimit 16 }).Within c
        [(inner, .block ⟨"b", 1⟩),
          (Call.mk 12 (.block ⟨"b", 0⟩ [.block ⟨"b", 1⟩ [.returnFrom ⟨"b", 0⟩ (.const (.int 1))],
            .emit (.const (.int 2))]) { context := Context.withLimit 16 }, .block ⟨"b", 0⟩)] ∧
      c.Builds (.block ⟨"b", 0⟩ (.int 1)) mb ∧
      ∃ m', (Call.mk 12 (.block ⟨"b", 0⟩ [.block ⟨"b", 1⟩ [.returnFrom ⟨"b", 0⟩ (.const (.int 1))],
          .emit (.const (.int 2))]) { context := Context.withLimit 16 }).run =
        .ok (.ok (.int 1), m') ∧ m'.log = #[] := by
  have within : (Call.mk 12 (.block ⟨"b", 0⟩
      [.block ⟨"b", 1⟩ [.returnFrom ⟨"b", 0⟩ (.const (.int 1))], .emit (.const (.int 2))])
      { context := Context.withLimit 16 }).Within _ _ :=
    .enclosed (.enclosed .refl (.mk (by rfl) (.block .head))) (.mk (by rfl) (.block .head))
  refine ⟨_, _, _, within, .mk (by rfl) (.returnFrom (by rfl)), ?_⟩
  obtain ⟨inside, -⟩ := (exit_taken_by_innermost_matching_handler _).2 _ _ _ _ within
    (.mk (by rfl) (.returnFrom (by rfl)))
  obtain ⟨-, resolves⟩ := inside [_] _ _ [] rfl (by simp [Catcher.takes, Ident.same])
  obtain ⟨m', ran, log_eq⟩ := resolves (by simp [Catcher.takes, Ident.same])
  exact ⟨m', ran, log_eq⟩

end Unwinding
