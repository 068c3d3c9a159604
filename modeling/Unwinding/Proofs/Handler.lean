import Unwinding.Handler

/-!
# What handlers let through

A handler only ever turns an exit aimed at it into a value. It never makes a flow of its
own and never changes one: whatever flow leaves a handler is the flow that reached it, and
a fatal error passes every handler unchanged.
-/

namespace Unwinding

variable {α : Type}

@[simp] theorem catchBlock_fatal (name : Ident) (f : Fatal) :
    catchBlock name (.error (.fatal f) : Outcome α) = .error (.fatal f) := rfl

@[simp] theorem catchThrow_fatal [Identity α] (tag : α) (f : Fatal) :
    catchThrow tag (.error (.fatal f) : Outcome α) = .error (.fatal f) := rfl

@[simp] theorem catchTag_fatal (level tagCount : Nat) (f : Fatal) :
    catchTag level tagCount (.error (.fatal f) : Outcome α) = .error (.fatal f) := rfl

/-- A block passes on only what reached it. -/
theorem catchBlock_eq_error {name : Ident} {r : Outcome α} {flow : Flow α}
    (passed : catchBlock name r = .error flow) : r = .error flow := by
  unfold catchBlock at passed
  split at passed
  · split at passed
    · cases passed
    · exact passed
  · exact passed

/-- A catcher passes on only what reached it. -/
theorem catchThrow_eq_error [Identity α] {tag : α} {r : Outcome α} {flow : Flow α}
    (passed : catchThrow tag r = .error flow) : r = .error flow := by
  unfold catchThrow at passed
  split at passed
  · split at passed
    · cases passed
    · exact passed
  · exact passed

/-- A tag body passes on only what reached it. -/
theorem catchTag_eq_error {level tagCount : Nat} {r : Outcome α} {flow : Flow α}
    (passed : catchTag level tagCount r = .error flow) : r = .error flow := by
  unfold catchTag at passed
  split at passed
  · cases passed
  · split at passed
    · cases passed
    · exact congrArg Except.error (Except.error.inj passed)
  · exact congrArg Except.error (Except.error.inj passed)

end Unwinding

namespace Unwinding

namespace Catcher

variable {α : Type} [Identity α]

/-- Whether a handler takes an exit: a block takes a block exit aimed at the same identifier,
a catcher a dynamic exit whose symbol is the very object it holds, and a tag body a tag exit of
its level whose index is below its number of tags. -/
def takes : Catcher α → Signal α → Bool
  | .block name, .block target _ => target.same name
  | .dynamic tag, .dynamic symbol _ => Identity.same symbol tag
  | .tagBody level count, .tag l i => l == level && decide (i < count)
  | _, _ => false

/-- Whether a handler takes a flow: it takes only exits, never a fatal error. -/
def takesFlow (h : Catcher α) : Flow α → Bool
  | .signal s => h.takes s
  | .fatal _ => false

@[simp] theorem takesFlow_signal (h : Catcher α) (s : Signal α) :
    h.takesFlow (.signal s) = h.takes s := rfl

@[simp] theorem takesFlow_fatal (h : Catcher α) (f : Fatal) : h.takesFlow (.fatal f) = false :=
  rfl

end Catcher

variable {α : Type} [Identity α]

/-- A block passes on every flow it does not take. -/
theorem catchBlock_of_not_takes {name : Ident} {flow : Flow α}
    (passes : (Catcher.block name).takesFlow flow = false) :
    catchBlock name (.error flow : Outcome α) = .error flow := by
  cases flow with
  | fatal f => rfl
  | signal s =>
    cases s with
    | block target v => simp_all [Catcher.takes, catchBlock]
    | tag l i => rfl
    | dynamic symbol v => rfl

/-- A catcher passes on every flow it does not take. -/
theorem catchThrow_of_not_takes {tag : α} {flow : Flow α}
    (passes : (Catcher.dynamic tag).takesFlow flow = false) :
    catchThrow tag (.error flow : Outcome α) = .error flow := by
  cases flow with
  | fatal f => rfl
  | signal s =>
    cases s with
    | block target v => rfl
    | tag l i => rfl
    | dynamic symbol v => simp_all [Catcher.takes, catchThrow]

/-- A tag body passes on every flow it does not take. -/
theorem catchTag_of_not_takes {level count : Nat} {flow : Flow α}
    (passes : (Catcher.tagBody level count : Catcher α).takesFlow flow = false) :
    catchTag level count (.error flow : Outcome α) = .error flow := by
  cases flow with
  | fatal f => rfl
  | signal s =>
    cases s with
    | block target v => rfl
    | tag l i =>
      simp only [Catcher.takesFlow_signal, Catcher.takes, Bool.and_eq_false_iff,
        beq_eq_false_iff_ne, ne_eq, decide_eq_false_iff_not] at passes
      simp only [catchTag]
      rw [if_neg (by omega)]
    | dynamic symbol v => rfl

/-- A block or a catcher that takes an exit answers the exit's value. -/
theorem catchBlock_of_takes {name : Ident} {s : Signal α} {v : α}
    (taken : (Catcher.block name).takes s = true) (valued : s.value? = some v) :
    catchBlock name (.error (.signal s) : Outcome α) = .ok v := by
  cases s with
  | block target w => simp_all [Catcher.takes, catchBlock, Signal.value?]
  | tag l i => simp [Catcher.takes] at taken
  | dynamic symbol w => simp [Catcher.takes] at taken

/-- A catcher that takes an exit answers the exit's value. -/
theorem catchThrow_of_takes {tag : α} {s : Signal α} {v : α}
    (taken : (Catcher.dynamic tag).takes s = true) (valued : s.value? = some v) :
    catchThrow tag (.error (.signal s) : Outcome α) = .ok v := by
  cases s with
  | block target w => simp [Catcher.takes] at taken
  | tag l i => simp [Catcher.takes] at taken
  | dynamic symbol w => simp_all [Catcher.takes, catchThrow, Signal.value?]

/-- A tag body that takes a tag exit goes on at its index. -/
theorem catchTag_of_takes {level count l i : Nat}
    (taken : (Catcher.tagBody level count : Catcher α).takes (.tag l i) = true) :
    catchTag level count (.error (.signal (.tag l i)) : Outcome α) = .ok (.go i) := by
  simp only [Catcher.takes, Bool.and_eq_true, beq_iff_eq, decide_eq_true_eq] at taken
  simp only [catchTag]
  rw [if_pos taken]

end Unwinding

namespace Unwinding

/-! ## Each handler on every result -/

variable {α : Type} [Identity α]

/-- Identifiers are one object exactly when they are equal, name and serial together. -/
theorem Ident.same_iff_eq {a b : Ident} : a.same b = true ↔ a = b := by
  cases a
  cases b
  simp [Ident.same]

/-- A block passes on every result that is not an exit aimed at its own identifier. -/
theorem catchBlock_passes {name : Ident} {r : Outcome α}
    (notAimed : ∀ v, r ≠ .error (.signal (.block name v))) : catchBlock name r = r := by
  rcases r with flow | v
  · apply catchBlock_of_not_takes
    cases flow with
    | fatal f => rfl
    | signal s =>
      cases s with
      | block target v =>
        have other : target ≠ name := fun same => notAimed v (by rw [same])
        simp only [Catcher.takesFlow_signal, Catcher.takes, Bool.eq_false_iff, ne_eq,
          Ident.same_iff_eq]
        exact other
      | tag l i => rfl
      | dynamic symbol v => rfl
  · rfl

/-- A catcher passes on every result that is not a dynamic exit whose symbol is the very
object it holds. -/
theorem catchThrow_passes {tag : α} {r : Outcome α}
    (notAimed : ∀ symbol v, Identity.same symbol tag = true →
      r ≠ .error (.signal (.dynamic symbol v))) :
    catchThrow tag r = r := by
  rcases r with flow | v
  · apply catchThrow_of_not_takes
    cases flow with
    | fatal f => rfl
    | signal s =>
      cases s with
      | block target v => rfl
      | tag l i => rfl
      | dynamic symbol v =>
        have other : Identity.same symbol tag = false := by
          cases same : Identity.same symbol tag with
          | false => rfl
          | true => exact absurd rfl (notAimed symbol v same)
        simpa [Catcher.takes] using other
  · rfl

/-- A tag body passes on every flow that is not a tag exit of its level with an index below
its number of tags. -/
theorem catchTag_passes {level count : Nat} {flow : Flow α}
    (notAimed : ∀ i, i < count → flow ≠ .signal (.tag level i)) :
    catchTag level count (.error flow : Outcome α) = .error flow := by
  apply catchTag_of_not_takes
  cases flow with
  | fatal f => rfl
  | signal s =>
    cases s with
    | block target v => rfl
    | tag l i =>
      have other : ¬(l = level ∧ i < count) := by
        rintro ⟨rfl, below⟩
        exact notAimed i below rfl
      simpa [Catcher.takes] using other
    | dynamic symbol v => rfl

/-- A block takes only block exits to its very identifier, a catcher only dynamic exits thrown
with the very object it catches, and a tag body only tag exits of its level below its tag
count; every other result passes unchanged. -/
theorem handlers_resolve_only_their_own_exits :
    (∀ (name : Ident) (v : α), catchBlock name (.error (.signal (.block name v))) = .ok v) ∧
    (∀ (name : Ident) (r : Outcome α),
      (∀ v, r ≠ .error (.signal (.block name v))) → catchBlock name r = r) ∧
    (∀ tag symbol v : α, Identity.same symbol tag = true →
      catchThrow tag (.error (.signal (.dynamic symbol v))) = .ok v) ∧
    (∀ (tag : α) (r : Outcome α),
      (∀ symbol v, Identity.same symbol tag = true → r ≠ .error (.signal (.dynamic symbol v))) →
      catchThrow tag r = r) ∧
    (∀ (level count : Nat) (v : α), catchTag level count (.ok v : Outcome α) = .ok (.value v)) ∧
    (∀ level count i : Nat, i < count →
      catchTag level count (.error (.signal (.tag level i)) : Outcome α) = .ok (.go i)) ∧
    (∀ (level count : Nat) (flow : Flow α),
      (∀ i, i < count → flow ≠ .signal (.tag level i)) →
      catchTag level count (.error flow : Outcome α) = .error flow) := by
  refine ⟨fun name v => ?_, fun _ _ notAimed => catchBlock_passes notAimed,
    fun tag symbol v same => ?_, fun _ _ notAimed => catchThrow_passes notAimed,
    fun _ _ _ => rfl, fun level count i below => ?_, fun _ _ _ notAimed => catchTag_passes notAimed⟩
  · exact catchBlock_of_takes (by simp [Catcher.takes]) rfl
  · exact catchThrow_of_takes (by simpa [Catcher.takes] using same) rfl
  · exact catchTag_of_takes (by simpa [Catcher.takes] using below)

-- Two blocks named alike are two objects: the exit of one passes the other.
example :
    catchBlock ⟨"b", 0⟩ (.error (.signal (.block ⟨"b", 1⟩ (Value.int 1)))) =
      .error (.signal (.block ⟨"b", 1⟩ (.int 1))) := by
  rfl

end Unwinding
