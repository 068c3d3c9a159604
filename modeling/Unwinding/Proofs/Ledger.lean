import Unwinding.Ledger.Script

/-!
# The ledger as two lists

Read as lists, a ledger is its pending frames in push order and its trail in removal
order. `FrameLists` gives the rules these two lists follow on their own: an accepted push
appends its frame, a pop takes the last pending frame off, a pop on behalf of an exit
moves that frame to the end of the trail, and every push, accepted or refused, empties
the trail, as `settle` does. A push is refused exactly when `limit` frames are pending.

The main statement, `replay_described_by_frameLists`, is that every history of requests
served from an empty ledger is described by these rules, with the depth never above the
limit.
-/

namespace Unwinding

namespace Ledger

variable {α : Type}

/-! ## The two lists and their rules -/

/-- The pending frames (oldest first) and the trail (in removal order), as lists. -/
structure FrameLists (α : Type) where
  pending : List α
  trail : List α

namespace FrameLists

/-- One request on the two lists: a push, refused exactly at `limit`, empties the trail; a pop
takes the last pending frame, onto the trail when it is for an exit. -/
def step (limit : Nat) (lists : FrameLists α) : Request α → FrameLists α
  | .push frame =>
    if lists.pending.length = limit then ⟨lists.pending, []⟩
    else ⟨lists.pending ++ [frame], []⟩
  | .pop => ⟨lists.pending.dropLast, lists.trail⟩
  | .popUnwinding => ⟨lists.pending.dropLast, lists.trail ++ lists.pending.getLast?.toList⟩
  | .settle => ⟨lists.pending, []⟩
  | .newest => lists
  | .unwound => lists

/-- What one request answers. A push is refused with the limit exactly when `limit` frames
are pending; a pop gives the last pending frame; both pops underflow on no pending frame;
the views are the pending frames newest first, after the trail for `unwound`. -/
def answer (limit : Nat) (lists : FrameLists α) : Request α → Response α
  | .push _ => if lists.pending.length = limit then .refused ⟨limit⟩ else .ok
  | .pop =>
    match lists.pending.getLast? with
    | some frame => .popped frame
    | none => .underflow
  | .popUnwinding => if lists.pending = [] then .underflow else .ok
  | .settle => .ok
  | .newest => .frames lists.pending.reverse
  | .unwound => .frames (lists.trail ++ lists.pending.reverse)

/-- The two lists after the requests in turn. -/
def replay (limit : Nat) (lists : FrameLists α) : List (Request α) → FrameLists α
  | [] => lists
  | r :: rest => (lists.step limit r).replay limit rest

/-- No request takes the pending list past the limit. -/
theorem length_step_le {limit : Nat} {lists : FrameLists α}
    (bounded : lists.pending.length ≤ limit) (r : Request α) :
    (lists.step limit r).pending.length ≤ limit := by
  cases r with
  | push frame =>
    by_cases full : lists.pending.length = limit
    · simp [step, full]
    · simp only [step, full, if_false, List.length_append, List.length_singleton]
      omega
  | pop => simp only [step, List.length_dropLast]; omega
  | popUnwinding => simp only [step, List.length_dropLast]; omega
  | settle => exact bounded
  | newest => exact bounded
  | unwound => exact bounded

end FrameLists

/-- The two lists of a ledger. -/
def frameLists (l : Ledger α) : FrameLists α := ⟨l.pending.toList, l.trail.toList⟩

/-- The ledger after serving the requests in turn. -/
def replay (l : Ledger α) : List (Request α) → Ledger α
  | [] => l
  | r :: rest => (l.respond r).2.replay rest

@[simp] theorem frameLists_pending (l : Ledger α) : l.frameLists.pending = l.pending.toList := rfl

@[simp] theorem frameLists_trail (l : Ledger α) : l.frameLists.trail = l.trail.toList := rfl

theorem depth_eq_length (l : Ledger α) : l.depth = l.pending.toList.length := by
  simp [depth]

theorem newestFirst_eq_reverse (l : Ledger α) : l.newestFirst = l.pending.toList.reverse := rfl

theorem unwoundFirst_eq_append (l : Ledger α) :
    l.unwoundFirst = l.trail.toList ++ l.pending.toList.reverse := rfl

/-! ## One request -/

/-- An accepted push appends the frame and drops the trail. -/
theorem push_of_lt {l : Ledger α} (room : l.depth < l.limit) (frame : α) :
    l.push frame = (.ok (), { l with pending := l.pending.push frame, trail := #[] }) := by
  simp only [push, if_pos (show l.pending.size < l.limit from room)]

/-- A push at the limit is refused with the limit and only drops the trail. -/
theorem push_of_le {l : Ledger α} (full : l.limit ≤ l.depth) (frame : α) :
    l.push frame = (.error ⟨l.limit⟩, l.settle) := by
  simp only [push, if_neg (show ¬l.pending.size < l.limit from Nat.not_lt.mpr full)]

/-- A pop gives the last pending frame and leaves the trail alone. -/
theorem pop_eq (l : Ledger α) :
    l.pop = l.pending.back?.map fun frame => (frame, { l with pending := l.pending.pop }) := by
  unfold pop
  cases l.pending.back? <;> rfl

/-- A pop on behalf of an exit moves the last pending frame to the end of the trail. -/
theorem popUnwinding_eq (l : Ledger α) :
    l.popUnwinding =
      l.pending.back?.map fun frame =>
        { l with pending := l.pending.pop, trail := l.trail.push frame } := by
  unfold popUnwinding
  cases l.pending.back? <;> rfl

/-- Moving a frame from the pending list to the trail does not change what a report of the
exit lists: the trail, then the pending frames newest first. -/
theorem unwoundFirst_popUnwinding {l l' : Ledger α} (popped : l.popUnwinding = some l') :
    l'.unwoundFirst = l.unwoundFirst := by
  rw [popUnwinding_eq] at popped
  obtain ⟨frame, last, rfl⟩ := Option.map_eq_some_iff.mp popped
  obtain ⟨rest, pending_eq⟩ := Array.back?_eq_some_iff.mp last
  simp [unwoundFirst_eq_append, pending_eq]

/-- Below the limit, one request acts on the two lists as `FrameLists` says, answers as
it says, and keeps the limit. -/
theorem respond_frameLists (l : Ledger α) (bounded : l.depth ≤ l.limit) (r : Request α) :
    (l.respond r).1 = l.frameLists.answer l.limit r ∧
      (l.respond r).2.frameLists = l.frameLists.step l.limit r ∧
      (l.respond r).2.limit = l.limit := by
  cases r with
  | push frame =>
    rw [respond]
    by_cases full : l.pending.size = l.limit
    · rw [push_of_le (Nat.le_of_eq full.symm)]
      simp [frameLists, settle, FrameLists.answer, FrameLists.step, full]
    · rw [push_of_lt (Nat.lt_of_le_of_ne bounded full)]
      simp [frameLists, FrameLists.answer, FrameLists.step, full]
  | pop =>
    rw [respond, pop_eq]
    cases last : l.pending.back? with
    | none =>
      have empty : l.pending = #[] := Array.back?_eq_none_iff.mp last
      simp [frameLists, FrameLists.answer, FrameLists.step, empty]
    | some frame => simp [frameLists, FrameLists.answer, FrameLists.step, last]
  | popUnwinding =>
    rw [respond, popUnwinding_eq]
    cases last : l.pending.back? with
    | none =>
      have empty : l.pending = #[] := Array.back?_eq_none_iff.mp last
      simp [frameLists, FrameLists.answer, FrameLists.step, empty]
    | some frame =>
      have nonempty : l.pending ≠ #[] := by
        intro empty
        simp [empty] at last
      simp [frameLists, FrameLists.answer, FrameLists.step, last, nonempty]
  | settle => simp [respond, frameLists, settle, FrameLists.answer, FrameLists.step]
  | newest =>
    simp [respond, FrameLists.answer, FrameLists.step, newestFirst_eq_reverse]
  | unwound =>
    simp [respond, FrameLists.answer, FrameLists.step, unwoundFirst_eq_append]

/-- A request never takes the depth past the limit. -/
theorem depth_respond_le (l : Ledger α) (bounded : l.depth ≤ l.limit) (r : Request α) :
    (l.respond r).2.depth ≤ (l.respond r).2.limit := by
  obtain ⟨-, lists_eq, limit_eq⟩ := respond_frameLists l bounded r
  have pending_bounded : l.frameLists.pending.length ≤ l.limit := by
    rw [frameLists_pending, ← depth_eq_length]
    exact bounded
  have length_le := FrameLists.length_step_le pending_bounded r
  rw [← lists_eq, frameLists_pending] at length_le
  rw [depth_eq_length, limit_eq]
  exact length_le

/-! ## Histories of requests -/

/-- Along any history that starts below the limit, the ledger's lists are those the rules
give, the limit stays, and the depth stays within it. -/
theorem replay_frameLists (l : Ledger α) (bounded : l.depth ≤ l.limit)
    (requests : List (Request α)) :
    (l.replay requests).frameLists = l.frameLists.replay l.limit requests ∧
      (l.replay requests).limit = l.limit ∧
      (l.replay requests).depth ≤ l.limit := by
  induction requests generalizing l with
  | nil => exact ⟨rfl, rfl, bounded⟩
  | cons r rest inductionHypothesis =>
    obtain ⟨-, lists_eq, limit_eq⟩ := respond_frameLists l bounded r
    obtain ⟨restLists, restLimit, restBounded⟩ :=
      inductionHypothesis (l.respond r).2 (depth_respond_le l bounded r)
    refine ⟨?_, ?_, ?_⟩
    · rw [replay, FrameLists.replay, restLists, lists_eq, limit_eq]
    · rw [replay, restLimit, limit_eq]
    · rw [replay, ← limit_eq]
      exact restBounded

/-- Every history from an empty ledger is described by `S`, the pushed frames not yet popped,
and `T`, the frames popped for an exit since the last push or settle: the depth and the views
follow from them, and every further request answers as `step` says. -/
theorem replay_described_by_frameLists (limit : Nat) (requests : List (Request α)) :
    let l := (empty limit : Ledger α).replay requests
    let lists := (⟨[], []⟩ : FrameLists α).replay limit requests
    l.frameLists = lists ∧ l.limit = limit ∧
      l.depth = lists.pending.length ∧ lists.pending.length ≤ limit ∧
      l.newestFirst = lists.pending.reverse ∧
      l.unwoundFirst = lists.trail ++ lists.pending.reverse ∧
      (∀ r, (l.respond r).1 = lists.answer limit r) ∧
      (∀ l', l.popUnwinding = some l' → l'.unwoundFirst = l.unwoundFirst) := by
  intro l lists
  obtain ⟨lists_eq, limit_eq, bounded⟩ :=
    replay_frameLists (empty limit : Ledger α) (Nat.zero_le _) requests
  have pending_eq : l.pending.toList = lists.pending := by
    rw [← frameLists_pending, lists_eq]; rfl
  have trail_eq : l.trail.toList = lists.trail := by
    rw [← frameLists_trail, lists_eq]; rfl
  have depth_eq : l.depth = lists.pending.length := by
    rw [depth_eq_length, pending_eq]
  refine ⟨lists_eq, limit_eq, depth_eq, ?_, ?_, ?_, ?_, ?_⟩
  · rw [← depth_eq]
    exact bounded
  · rw [newestFirst_eq_reverse, pending_eq]
  · rw [unwoundFirst_eq_append, pending_eq, trail_eq]
  · intro r
    obtain ⟨answer_eq, -, -⟩ := respond_frameLists l (by rw [limit_eq]; exact bounded) r
    rw [answer_eq, limit_eq, lists_eq]
    rfl
  · intro l' popped
    exact unwoundFirst_popUnwinding popped

-- A refused push still empties the trail: only the frame unwound after it is reported.
example :
    ((empty 1 : Ledger Nat).replay
      [.push 1, .popUnwinding, .push 2, .push 3, .popUnwinding]).unwoundFirst = [2] := by
  decide

end Ledger

end Unwinding
