import Unwinding.Cli.Run
import Unwinding.Proofs.Context
import Unwinding.Proofs.Backtrace

/-!
# Probing the frame ledger

`probe` pushes labelled frames onto a fresh context, takes the backtrace at the deepest one
and pops every frame it pushed. This module follows the descent frame by frame: after `k`
accepted pushes the pending frames are `probe 0` … `probe (k-1)` and nothing else
(`probeContext`); a push is accepted exactly below the limit; and each pop undoes the last
push. The main statement, `descend_pops_every_frame_it_pushed`, gives the whole answer: the
backtrace of all the frames when they fit, else the stack overflow report over the `limit`
frames that did, and in both cases the context as it was before the descent.
-/

namespace Unwinding

namespace Cli

/-- The context of a probe after `pushed` accepted pushes: the frames `probe 0` … in push
order, no trail, and the frame printer. -/
def probeContext (limit pushed : Nat) : Context String :=
  { ledger := { limit, pending := ((List.range pushed).map probeLabel).toArray },
    formatter := some framePrinter }

/-- The listing a probe promises for `n` frames: the backtrace header, then the lines
`k: "probe (n-1-k)"`, newest frame first, joined by single newlines. -/
def probeListing (n : Nat) : String :=
  "Backtrace:\n" ++ "\n".intercalate
    ((List.range n).map fun k => toString k ++ ": \"probe " ++ toString (n - 1 - k) ++ "\"")

variable {limit pushed : Nat}

/-! ## The context along the descent -/

/-- A probe starts from a fresh context with the frame printer. -/
theorem probeContext_zero (limit : Nat) :
    probeContext limit 0 = { Context.withLimit limit with formatter := some framePrinter } := rfl

@[simp] theorem depth_probeContext : (probeContext limit pushed).depth = pushed := by
  simp [probeContext, Context.depth, Ledger.depth]

@[simp] theorem limit_probeContext : (probeContext limit pushed).limit = limit := rfl

/-- Below the limit the next frame is accepted on top of the others. -/
theorem pushFrame_probeContext_of_lt (room : pushed < limit) :
    (probeContext limit pushed).pushFrame (probeLabel pushed) =
      (.ok (), probeContext limit (pushed + 1)) := by
  rw [Context.pushFrame_of_lt (by simpa using room)]
  simp [probeContext, List.range_succ, List.push_toArray]

/-- At the limit the next frame is refused with the stack overflow raised on the frames
then pending, and the context stays as it was. -/
theorem pushFrame_probeContext_full :
    (probeContext limit limit).pushFrame (probeLabel limit) =
      (.error (.stackOverflow limit
          ((probeContext limit limit).raise stackOverflowDirective [])),
        probeContext limit limit) := by
  rw [Context.pushFrame_of_le (by simp)]
  rfl

/-- The newest frame comes off first, and the frames under it stay. -/
theorem popFrame_probeContext :
    (probeContext limit (pushed + 1)).popFrame = (.ok (probeLabel pushed), probeContext limit pushed) := by
  have last : ((List.range (pushed + 1)).map probeLabel).toArray.back? = some (probeLabel pushed) := by
    simp [List.range_succ]
  simp only [Context.popFrame, Ledger.pop, probeContext, last, List.pop_toArray]
  simp [List.range_succ]

/-! ## The two loops -/

/-- The pushes from `pushed` frames on: all `remaining` of them when they fit under the limit,
else those up to the limit and the refusal there. -/
theorem pushFrames_probeContext (remaining : Nat) (bounded : pushed ≤ limit) :
    pushFrames (probeContext limit pushed) pushed remaining =
      if pushed + remaining ≤ limit then
        (pushed + remaining, .ok (), probeContext limit (pushed + remaining))
      else
        (limit, .error (.stackOverflow limit
            ((probeContext limit limit).raise stackOverflowDirective [])),
          probeContext limit limit) := by
  induction remaining generalizing pushed with
  | zero => simp [pushFrames, bounded]
  | succ remaining inductionHypothesis =>
    by_cases room : pushed < limit
    · -- the push is accepted and the loop goes on one frame deeper
      rw [pushFrames, pushFrame_probeContext_of_lt room]
      simp only [inductionHypothesis room, Nat.add_right_comm pushed 1 remaining,
        Nat.add_assoc]
    · -- the ledger is full, so this push is the one refused
      obtain rfl : pushed = limit := by omega
      rw [pushFrames, pushFrame_probeContext_full, if_neg (by omega)]

/-- Popping as many frames as were pushed takes every one of them off, without an
underflow, and gives the answer held for the end. -/
theorem popFrames_probeContext (answer : Except Fatal String) :
    popFrames answer (probeContext limit pushed) pushed = (answer, probeContext limit 0) := by
  induction pushed with
  | zero => rfl
  | succ pushed inductionHypothesis =>
    rw [popFrames, popFrame_probeContext]
    exact inductionHypothesis

/-! ## What the deepest frame sees -/

/-- The frame printer shows a frame between double quotes. -/
theorem renderDatum_framePrinter (x : String) :
    renderDatum (some framePrinter) x = "\"" ++ x ++ "\"" := by
  simp [renderDatum, Formatter.format, framePrinter, Formatter.frameDirective, expandDirective,
    Except.map]

/-- The backtrace after `pushed` pushes lists the frames newest first, `probe (pushed-1)` at
line 0. -/
theorem backtrace_probeContext : (probeContext limit pushed).backtrace = probeListing pushed := by
  rw [Context.backtrace, renderFrames_eq_lines, probeListing, Ledger.newestFirst_eq_reverse]
  congr 2
  apply List.ext_getElem (by simp [probeContext])
  intro k inMapped inRange
  have kBelow : k < pushed := by simpa using inRange
  simp only [probeContext, List.getElem_mapIdx, List.getElem_reverse, List.getElem_map,
    List.getElem_range, renderDatum_framePrinter, probeLabel, List.length_map, List.length_range,
    List.toList_toArray]
  simp only [String.append_assoc]
  congr 1

/-- The report of a probe's stack overflow: the directive's text, a blank line, and the
backtrace of the frames that fit. -/
theorem raise_overflow_probeContext :
    (probeContext limit pushed).raise stackOverflowDirective [] =
      .raised ("stack overflow\n\n" ++ probeListing pushed) := by
  have printed : framePrinter.format stackOverflowDirective [] = .ok "stack overflow" := rfl
  simp only [Context.raise, probeContext, printed, String.append_assoc]
  rw [← String.append_assoc, ← @backtrace_probeContext limit pushed]
  rfl

/-! ## The whole descent -/

/-- A probe pushes `min frames limit` frames and pops exactly those, leaving the context as it
found it; it reports the backtrace at the deepest frame when all fit, and else the overflow. -/
theorem descend_pops_every_frame_it_pushed (limit frames : Nat) :
    (pushFrames { Context.withLimit limit with formatter := some framePrinter } 0 frames).1 =
        min frames limit ∧
      descend { Context.withLimit limit with formatter := some framePrinter } frames =
        (if frames ≤ limit then .ok (probeListing frames)
          else .error (.stackOverflow limit (.raised ("stack overflow\n\n" ++ probeListing limit))),
          { Context.withLimit limit with formatter := some framePrinter }) ∧
      probe limit frames =
        .ok (if frames ≤ limit then { status := .ok, report := probeListing frames }
          else { status := .overflow, report := "stack overflow\n\n" ++ probeListing limit }) := by
  have pushes := @pushFrames_probeContext limit 0 frames (Nat.zero_le _)
  rw [Nat.zero_add, ← probeContext_zero] at *
  have descended : descend (probeContext limit 0) frames =
      (if frames ≤ limit then .ok (probeListing frames)
        else .error (.stackOverflow limit (.raised ("stack overflow\n\n" ++ probeListing limit))),
        probeContext limit 0) := by
    by_cases fits : frames ≤ limit
    · simp only [descend, pushes, if_pos fits, popFrames_probeContext, Except.map,
        backtrace_probeContext]
    · simp only [descend, pushes, if_neg fits, popFrames_probeContext, Except.map,
        raise_overflow_probeContext]
  refine ⟨?_, descended, ?_⟩
  · rw [pushes]
    split <;> omega
  · rw [probe, ← probeContext_zero, descended]
    by_cases fits : frames ≤ limit
    · simp only [if_pos fits]
    · simp only [if_neg fits]
      rfl

end Cli

end Unwinding
