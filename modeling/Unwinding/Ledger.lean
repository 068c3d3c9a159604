/-!
# The frame ledger

A bounded stack of pending frames, together with the trail of frames that the exit now in
flight has unwound. Pending frames are kept oldest first; the trail in the order the frames
were taken off. A push beyond the limit is refused. Every push, refused or not, drops the
trail of the previous exit, and so does `settle`.

The views `newestFirst` and `unwoundFirst` are what backtraces print.
-/

namespace Unwinding

/-- The depth limit used when nothing else is configured. -/
def defaultDepthLimit : Nat := 1000

/-- Pending frames (oldest first), the unwound trail (in removal order), and the limit. -/
structure Ledger (α : Type) where
  limit : Nat
  pending : Array α := #[]
  trail : Array α := #[]

/-- A push refused because the ledger already holds `limit` frames. -/
structure DepthExceeded where
  limit : Nat
  deriving DecidableEq, Inhabited

namespace Ledger

variable {α : Type}

/-- A ledger with no frames. -/
def empty (limit : Nat) : Ledger α := { limit }

/-- The number of pending frames. -/
def depth (l : Ledger α) : Nat := l.pending.size

/-- Whether no frame is pending. -/
def isEmpty (l : Ledger α) : Bool := l.pending.isEmpty

/-- The pending frames, newest first. -/
def newestFirst (l : Ledger α) : List α := l.pending.toList.reverse

/-- The trail in removal order, then the pending frames newest first. -/
def unwoundFirst (l : Ledger α) : List α := l.trail.toList ++ l.newestFirst

/-- Drops the trail. -/
def settle (l : Ledger α) : Ledger α := { l with trail := #[] }

/-- Offers a frame. Below the limit it is recorded; at the limit it is refused. Either way
the trail is dropped. -/
def push (l : Ledger α) (frame : α) : Except DepthExceeded Unit × Ledger α :=
  if l.pending.size < l.limit then
    (.ok (), { l with pending := l.pending.push frame, trail := #[] })
  else
    (.error ⟨l.limit⟩, l.settle)

/-- Takes off the newest frame; `none` when no frame is pending. -/
@[inline] def pop (l : Ledger α) : Option (α × Ledger α) :=
  match l.pending.back? with
  | some frame => some (frame, { l with pending := l.pending.pop })
  | none => none

/-- Takes off the newest frame and adds it to the trail; `none` when no frame is
pending. -/
def popUnwinding (l : Ledger α) : Option (Ledger α) :=
  match l.pending.back? with
  | some frame => some { l with pending := l.pending.pop, trail := l.trail.push frame }
  | none => none

@[simp] theorem depth_empty (limit : Nat) : (empty limit : Ledger α).depth = 0 := rfl

@[simp] theorem newestFirst_settle (l : Ledger α) : l.settle.newestFirst = l.newestFirst := rfl

@[simp] theorem unwoundFirst_settle (l : Ledger α) :
    l.settle.unwoundFirst = l.newestFirst := rfl

end Ledger

end Unwinding
