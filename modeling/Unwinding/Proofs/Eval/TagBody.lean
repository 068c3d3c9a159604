import Unwinding.Proofs.Eval.Exits

/-!
# Where a tag body goes on after a `go`

A tag body counts its tags, and takes a `go` of its level whose index is below that count;
it then looks the target up by label, at the first tag with that label. The two agree when
the tags are labelled `0`, `1`, … in order. This module states what a tag body does with a
`go` that one of its statements answers with, for every labelling: below the count, with the
label present, the clauses go on after the first tag with that label; at or past the count
the `go` leaves the tag body unchanged, even when a tag with that label is there.

The main statement is `tag_body_takes_go_below_its_tag_count`; `go_to_lone_tag_five_escapes`
runs a body whose one tag is labelled 5.
-/

namespace Unwinding

/-! ## The first tag with a label -/

namespace Clause

@[simp] theorem isTag_iff {c : Clause} {t : Nat} : c.isTag t = true ↔ c = .tag t := by
  cases c <;> simp [isTag]

end Clause

/-- The position of a label is that of the first clause that is the tag with that label. -/
theorem tagPosition_eq_some_iff {clauses : List Clause} {t p : Nat} :
    tagPosition clauses t = some p ↔
      clauses[p]? = some (.tag t) ∧ ∀ q < p, clauses[q]? ≠ some (.tag t) := by
  rw [tagPosition, List.findIdx?_eq_some_iff_getElem]
  constructor
  · rintro ⟨inside, atP, before⟩
    refine ⟨by simpa [List.getElem?_eq_getElem inside] using atP, fun q below => ?_⟩
    rw [List.getElem?_eq_getElem (by omega)]
    simpa using before q below
  · rintro ⟨atP, before⟩
    obtain ⟨inside, atP⟩ := List.getElem?_eq_some_iff.mp atP
    refine ⟨inside, by simp [atP], fun q below => ?_⟩
    have notTag := before q below
    rw [List.getElem?_eq_getElem (by omega)] at notTag
    simpa using notTag

/-- A tag is a clause that the run steps over. -/
theorem runClauses_of_tag {fuel level : Nat} {clauses : List Clause} {pc t : Nat} {m : Machine}
    (atTag : clauses[pc]? = some (.tag t)) :
    runClauses (fuel + 1) level clauses pc m = runClauses fuel level clauses (pc + 1) m := by
  simp only [runClauses.eq_2, atTag]

/-- Resuming at a label that a tag carries goes on after the first tag with that label. -/
theorem resumeClauses_of_first {fuel level : Nat} {clauses : List Clause} {t p : Nat}
    {m : Machine} (atP : clauses[p]? = some (.tag t))
    (before : ∀ q < p, clauses[q]? ≠ some (.tag t)) :
    resumeClauses (fuel + 1) level clauses t m = runClauses fuel level clauses (p + 1) m := by
  rw [resumeClauses, tagPosition_eq_some_iff.mpr ⟨atP, before⟩]
  exact runClauses_of_tag atP

/-- Resuming at a label that no tag carries halts the evaluation. -/
theorem resumeClauses_of_missing {fuel level : Nat} {clauses : List Clause} {t : Nat}
    {m : Machine} (missing : ∀ p : Nat, clauses[p]? ≠ some (Clause.tag t)) :
    resumeClauses fuel level clauses t m = .error (.missingTag level t) := by
  have noPosition : tagPosition clauses t = none := by
    cases position : tagPosition clauses t with
    | none => rfl
    | some p => exact absurd (tagPosition_eq_some_iff.mp position).1 (missing p)
  rw [resumeClauses, noPosition]

/-! ## A `go` out of a statement -/

/-- An evaluation that answers at all had fuel for its first step. -/
theorem Call.fuel_pos_of_run {c : Call} {r : Outcome Value} {m : Machine}
    (answered : c.run = .ok (r, m)) : 0 < c.fuel := by
  cases c with
  | mk fuel form machine =>
    cases fuel with
    | zero => simp [Call.run, eval] at answered
    | succ n => exact Nat.succ_pos n

/-- A go of a tag body's own level out of one of its statements is taken exactly when its
index is below the body's tag count. Taken, the clauses go on after the first tag with that
label, or the evaluation halts when no tag has it; not taken, the go leaves the body. -/
theorem tag_body_takes_go_below_its_tag_count {a c : Call} {level count : Nat}
    (around : a.Around (.tagBody level count) c) {i : Nat} {mc : Machine}
    (answered : c.run = .ok (.error (.signal (.tag level i)), mc)) :
    ∃ clauses c₀, a.form = .tagbody level clauses ∧ count = tagCount clauses ∧
      a.machine.context.pushFrame a.form.frame = (.ok (), c₀) ∧
      (i < tagCount clauses → ∀ p, clauses[p]? = some (.tag i) →
        (∀ q < p, clauses[q]? ≠ some (.tag i)) →
        evalIn (a.fuel - 1) a.form { a.machine with context := c₀ } =
          runClauses (c.fuel - 1) level clauses (p + 1) mc) ∧
      (i < tagCount clauses → (∀ p : Nat, clauses[p]? ≠ some (Clause.tag i)) →
        a.run = .error (.missingTag level i)) ∧
      (tagCount clauses ≤ i →
        ∃ ma, a.run = .ok (.error (.signal (.tag level i)), ma) ∧ ma.log = mc.log) := by
  have calls := around.calls
  cases around with
  | @mk n form m c₀ _ _ pushed inner =>
    cases inner with
    | @tagbody n level clauses m c statements =>
      have resumed (below : i < tagCount clauses) :
          evalIn (n + 1) (.tagbody level clauses) { m with context := c₀ } =
            resumeClauses c.fuel level clauses i mc := by
        have taken : catchTag level (tagCount clauses) (.error (.signal (.tag level i)) :
            Outcome Value) = .ok (.go i) := catchTag_of_takes (by simpa [Catcher.takes] using below)
        simp only [evalIn, statements.resumes answered taken]
      obtain ⟨fuel, fuel_eq⟩ : ∃ fuel, c.fuel = fuel + 1 :=
        ⟨c.fuel - 1, by have := Call.fuel_pos_of_run answered; omega⟩
      refine ⟨clauses, c₀, rfl, rfl, pushed, fun below p atP before => ?_,
        fun below missing => ?_, fun past => ?_⟩
      · rw [Nat.add_sub_cancel, resumed below, fuel_eq, resumeClauses_of_first atP before,
          Nat.add_sub_cancel]
      · rw [Call.run_mk, eval_of_pushFrame_ok pushed, resumed below,
          resumeClauses_of_missing missing]
        rfl
      · obtain ⟨ma, passed, log_eq, -⟩ := calls.passes_exit answered fun h around' => by
          rw [(Call.Around.mk pushed (.tagbody statements)).unique around']
          simpa [Catcher.takes] using past
        exact ⟨ma, passed, log_eq⟩

/-- A tag body with the tag `0` and a statement that goes to it takes the go and goes on
after the tag, at the statement again. -/
theorem go_to_tag_zero_resumes_after_it :
    ∃ c mc, (Call.mk 20 (.tagbody 0 [.tag 0, .stmt (.go 0 0)])
        { context := Context.withLimit 8 }).Around (.tagBody 0 1) c ∧
      c.run = .ok (.error (.signal (.tag 0 0)), mc) ∧
      ∃ c₀, (Context.withLimit 8 : Context Value).pushFrame
          (Form.tagbody 0 [.tag 0, .stmt (.go 0 0)]).frame = (.ok (), c₀) ∧
        evalIn 19 (.tagbody 0 [.tag 0, .stmt (.go 0 0)]) { context := c₀ } =
          runClauses (c.fuel - 1) 0 [.tag 0, .stmt (.go 0 0)] 1 mc := by
  have around : (Call.mk 20 (.tagbody 0 [.tag 0, .stmt (.go 0 0)])
      { context := Context.withLimit 8 }).Around (.tagBody 0 1) _ :=
    .mk (by rfl) (.tagbody (.skip (by rfl) (.stmt (by rfl))))
  obtain ⟨clauses, c₀, form_eq, -, pushed, goesOn, -, -⟩ :=
    tag_body_takes_go_below_its_tag_count around (by rfl)
  cases form_eq
  exact ⟨_, _, around, by rfl, c₀, pushed,
    goesOn (by decide) 0 rfl (fun q below => absurd below (Nat.not_lt_zero q))⟩

/-- A tag body whose one tag is labelled `5` counts one tag, so a go to `5` passes it
although the tag is there: the statements run once and the go comes out of the body. -/
theorem go_to_lone_tag_five_escapes :
    ∃ m, eval 12 (.tagbody 0 [.tag 5, .stmt (.emit (.const (.int 1))),
        .stmt (.whenLogShorter 2 (.go 0 5))]) { context := Context.withLimit 64 } =
      .ok (.error (.signal (.tag 0 5)), m) ∧ m.log = #[.int 1] :=
  ⟨_, rfl, rfl⟩

end Unwinding
