import Unwinding.Context
import Unwinding.Value
import Unwinding.Proofs.Ledger

/-!
# Frames of the execution context

What pushing and taking off a frame does to the context's ledger. A push below the limit
appends the frame and drops the trail; at the limit it is refused with a stack overflow
whose report is raised on the frames then pending. Taking a frame off after an exit moves
it to the end of the trail; after a value or a fatal error it is dropped, and so is the
trail.

The main statement, `withFrame_brackets_body`, is that running any body inside a frame
leaves the pending frames as they were, gives exactly the body's result, and keeps the
trail only for an exit.
-/

namespace Unwinding

namespace Context

variable {α β : Type}

/-- After an exit, the newest frame moves to the end of the trail. -/
theorem closeFrame_signal {c : Context α} {below : Array α} {frame : α}
    (pending_eq : c.ledger.pending = below.push frame) (s : Signal α) :
    c.closeFrame (.error (.signal s) : Except (Flow α) β) =
      (.error (.signal s),
        { c with ledger :=
          { c.ledger with pending := below, trail := c.ledger.trail.push frame } }) := by
  simp [closeFrame, Ledger.popUnwinding_eq, pending_eq]

/-- After a value or a fatal error, the newest frame is dropped and so is the trail. -/
theorem closeFrame_of_not_signal {c : Context α} {below : Array α} {frame : α}
    (pending_eq : c.ledger.pending = below.push frame) {result : Except (Flow α) β}
    (notSignal : ∀ s, result ≠ .error (.signal s)) :
    c.closeFrame result =
      (result, { c with ledger := { c.ledger with pending := below, trail := #[] } }) := by
  cases result with
  | ok v => simp [closeFrame, Ledger.pop_eq, pending_eq, Ledger.settle]
  | error flow =>
    cases flow with
    | signal s => exact absurd rfl (notSignal s)
    | fatal f => simp [closeFrame, Ledger.pop_eq, pending_eq, Ledger.settle]

/-- With no frame pending, taking one off underflows and leaves the context as it was. -/
theorem closeFrame_underflow {c : Context α} (noFrame : c.ledger.pending.back? = none)
    (result : Except (Flow α) β) :
    c.closeFrame result = (.error (.fatal .ledgerUnderflow), c) := by
  unfold closeFrame
  split <;> simp [Ledger.pop_eq, Ledger.popUnwinding_eq, noFrame]

/-- Taking off the newest frame keeps every result and restores the frames below it; the
trail grows by that frame after an exit and is empty otherwise. -/
theorem closeFrame_spec {c : Context α} {below : Array α} {frame : α}
    (pending_eq : c.ledger.pending = below.push frame) (result : Except (Flow α) β) :
    (c.closeFrame result).1 = result ∧
      (c.closeFrame result).2.ledger.pending = below ∧
      (c.closeFrame result).2.ledger.limit = c.ledger.limit ∧
      (c.closeFrame result).2.formatter = c.formatter ∧
      (∀ s, result = .error (.signal s) →
        (c.closeFrame result).2.ledger.trail = c.ledger.trail.push frame) ∧
      ((∀ s, result ≠ .error (.signal s)) → (c.closeFrame result).2.ledger.trail = #[]) := by
  by_cases signalled : ∃ s, result = .error (.signal s)
  · obtain ⟨s, rfl⟩ := signalled
    rw [closeFrame_signal pending_eq s]
    refine ⟨rfl, rfl, rfl, rfl, fun _ _ => rfl, fun notSignal => absurd rfl (notSignal s)⟩
  · have notSignal : ∀ s, result ≠ .error (.signal s) := fun s same => signalled ⟨s, same⟩
    rw [closeFrame_of_not_signal pending_eq notSignal]
    exact ⟨rfl, rfl, rfl, rfl, fun s same => absurd same (notSignal s), fun _ => rfl⟩

section Printing

variable [Inspect α]

/-- A diagnostic reads only the pending frames and the printer, never the trail. -/
@[simp] theorem raise_settle (c : Context α) (directive : String) (data : List α) :
    ({ c with ledger := c.ledger.settle } : Context α).raise directive data =
      c.raise directive data := rfl

/-- Below the limit a push appends the frame and drops the trail. -/
theorem pushFrame_of_lt {c : Context α} (room : c.depth < c.limit) (frame : α) :
    c.pushFrame frame =
      (.ok (), { c with ledger :=
        { c.ledger with pending := c.ledger.pending.push frame, trail := #[] } }) := by
  rw [pushFrame, Ledger.push_of_lt room]

/-- At the limit a push is refused with a stack overflow reported on the frames then
pending; the ledger only loses its trail. -/
theorem pushFrame_of_le {c : Context α} (full : c.limit ≤ c.depth) (frame : α) :
    c.pushFrame frame =
      (.error (.stackOverflow c.limit (c.raise stackOverflowDirective [])),
        { c with ledger := c.ledger.settle }) := by
  rw [pushFrame, Ledger.push_of_le full]
  simp only [raise_settle]
  rfl

/-- An accepted push happened below the limit, appended the frame and dropped the trail. -/
theorem pushFrame_eq_ok {c c₀ : Context α} {frame : α} (pushed : c.pushFrame frame = (.ok (), c₀)) :
    c.depth < c.limit ∧
      c₀ = { c with ledger :=
        { c.ledger with pending := c.ledger.pending.push frame, trail := #[] } } := by
  by_cases room : c.depth < c.limit
  · rw [pushFrame_of_lt room] at pushed
    exact ⟨room, (Prod.mk.inj pushed).2.symm⟩
  · rw [pushFrame_of_le (Nat.le_of_not_lt room)] at pushed
    cases pushed

/-- A refused push happened at the limit; its error is the stack overflow and the ledger
only lost its trail. -/
theorem pushFrame_eq_error {c c₀ : Context α} {frame : α} {e : Fatal}
    (refused : c.pushFrame frame = (.error e, c₀)) :
    c.limit ≤ c.depth ∧ e = .stackOverflow c.limit (c.raise stackOverflowDirective []) ∧
      c₀ = { c with ledger := c.ledger.settle } := by
  by_cases room : c.depth < c.limit
  · rw [pushFrame_of_lt room] at refused
    cases refused
  · rw [pushFrame_of_le (Nat.le_of_not_lt room)] at refused
    obtain ⟨error_eq, context_eq⟩ := Prod.mk.inj refused
    exact ⟨Nat.le_of_not_lt room, (Except.error.inj error_eq).symm, context_eq.symm⟩

/-- At the limit the body does not run and the answer is a stack overflow. Below it, a body
that returns on the frames it started on gets its own result through, the pending frames are
restored, and the trail keeps `frame` after an exit and is empty otherwise. -/
theorem withFrame_brackets_body (c : Context α) (frame : α)
    (body : Context α → Except (Flow α) β × Context α)
    (bodyKeepsFrames : ∀ c', c'.ledger.pending = c.ledger.pending.push frame →
      (body c').2.ledger.pending = c.ledger.pending.push frame) :
    (c.limit ≤ c.depth →
      c.withFrame frame body =
        (.error (.fatal (.stackOverflow c.limit (c.raise stackOverflowDirective []))),
          { c with ledger := c.ledger.settle })) ∧
    (c.depth < c.limit → ∀ result returned, body (c.pushFrame frame).2 = (result, returned) →
      (c.pushFrame frame).2.ledger.pending = c.ledger.pending.push frame ∧
      ∃ after, c.withFrame frame body = (result, after) ∧
        after.ledger.pending = c.ledger.pending ∧
        (∀ s, result = .error (.signal s) →
          after.ledger.trail = returned.ledger.trail.push frame ∧
          after.ledger.unwoundFirst = returned.ledger.unwoundFirst) ∧
        ((∀ s, result ≠ .error (.signal s)) → after.ledger.trail = #[])) := by
  refine ⟨fun full => ?_, fun room result returned bodyRun => ?_⟩
  · rw [withFrame, pushFrame_of_le full]
  · have started_eq := pushFrame_of_lt room frame
    have started_pending : (c.pushFrame frame).2.ledger.pending = c.ledger.pending.push frame := by
      rw [started_eq]
    have returned_pending : returned.ledger.pending = c.ledger.pending.push frame := by
      have keeps := bodyKeepsFrames _ started_pending
      rwa [bodyRun] at keeps
    obtain ⟨result_eq, pending_eq, -, -, signalTrail, otherTrail⟩ :=
      closeFrame_spec returned_pending result
    refine ⟨started_pending, (returned.closeFrame result).2, ?_, pending_eq, ?_, otherTrail⟩
    · have pushed : c.pushFrame frame = (.ok (), (c.pushFrame frame).2) := by rw [started_eq]
      generalize (c.pushFrame frame).2 = started at pushed bodyRun
      rw [withFrame, pushed]
      simp only [bodyRun]
      exact Prod.ext result_eq rfl
    · intro s signalled
      have trail_eq := signalTrail s signalled
      refine ⟨trail_eq, ?_⟩
      simp [Ledger.unwoundFirst_eq_append, trail_eq, pending_eq, returned_pending]

/-- A body that leaves with an exit: its frame is taken off onto the trail. -/
theorem withFrame_unwinds_escaping_body :
    ∃ after, (withLimit 1 : Context Value).withFrame (.int 7)
        (fun c => ((.error (.signal (.tag 0 0)) : Except (Flow Value) Value), c)) =
        (.error (.signal (.tag 0 0)), after) ∧
      after.ledger.pending = #[] ∧ after.ledger.unwoundFirst = [.int 7] := by
  obtain ⟨-, fits⟩ := withFrame_brackets_body (withLimit 1 : Context Value) (.int 7)
    (fun c => ((.error (.signal (.tag 0 0)) : Except (Flow Value) Value), c)) (fun _ kept => kept)
  obtain ⟨-, after, ran, pending_eq, signalled, -⟩ := fits (by decide) _ _ rfl
  obtain ⟨-, view_eq⟩ := signalled _ rfl
  refine ⟨after, ran, pending_eq, ?_⟩
  rw [view_eq]
  rfl

end Printing

end Context

end Unwinding
