import Unwinding.Context
import Unwinding.Value.Printers

/-!
# Backtraces

A backtrace is the header `Backtrace:` and one numbered line per frame, counted from 0 and
joined by single newlines, with no newline at the end. Each frame is printed on its own: the
printer is asked for that one frame, and its answer decides that frame's line and no other.
A failure or a breakdown of the printer shows as a marker with its text, so a printer that
cannot print one frame costs the backtrace only that frame's text.

The main statement is `renderFrames_prints_each_frame_on_its_line`.
-/

namespace Unwinding

namespace Formatter

variable {α : Type} {f : Formatter α} {directive : String} {data : List α}

/-- Printed text comes through as it is. -/
theorem format_of_text {s : String} (printed : f.render directive data = .text s) :
    f.format directive data = .ok s := by
  simp [format, printed]

/-- A failure comes through with its message. -/
theorem format_of_failure {e : String} (failed : f.render directive data = .failure e) :
    f.format directive data = .error e := by
  simp [format, failed]

/-- A breakdown comes through as a failure with the text it left, or a fixed text. -/
theorem format_of_breakdown {cause : Breakdown} (broke : f.render directive data = .breakdown cause) :
    f.format directive data = .error cause.describe := by
  simp [format, broke]

end Formatter

variable {α : Type} [Inspect α]

/-! ## One frame -/

@[simp] theorem renderDatum_none (x : α) : renderDatum none x = Inspect.inspect x := rfl

/-- With a printer, a datum shows as the printer's text for the frame directive. A failure
shows as a marker with its message, and so does a breakdown: with the text it left, or,
when it left none, with the words that the printer panicked. -/
theorem renderDatum_some (f : Formatter α) (x : α) :
    renderDatum (some f) x =
      match f.render Formatter.frameDirective [x] with
      | .text s => s
      | .failure e => "#<error printing " ++ e ++ ">"
      | .breakdown (.message e) => "#<error printing " ++ e ++ ">"
      | .breakdown .other => "#<error printing formatter panicked>" := by
  cases answered : f.render Formatter.frameDirective [x] with
  | text s => simp [renderDatum, Formatter.format_of_text answered]
  | failure e => simp [renderDatum, Formatter.format_of_failure answered]
  | breakdown cause =>
    cases cause <;> simp [renderDatum, Formatter.format_of_breakdown answered, Breakdown.describe]

/-- Two printers that answer alike for a datum show it alike. -/
theorem renderDatum_congr {f g : Formatter α} {x : α}
    (alike : f.render Formatter.frameDirective [x] = g.render Formatter.frameDirective [x]) :
    renderDatum (some f) x = renderDatum (some g) x := by
  rw [renderDatum_some, renderDatum_some, alike]

/-! ## Numbered lines -/

@[simp] theorem length_numberedLines (formatter : Option (Formatter α)) (start : Nat)
    (frames : List α) : (numberedLines formatter start frames).length = frames.length := by
  induction frames generalizing start with
  | nil => rfl
  | cons x rest inductionHypothesis => simp [numberedLines, inductionHypothesis]

/-- The numbered lines of a backtrace are the frames in order, each behind its position. -/
theorem numberedLines_eq_mapIdx (formatter : Option (Formatter α)) (start : Nat)
    (frames : List α) :
    numberedLines formatter start frames =
      frames.mapIdx fun n x => toString (start + n) ++ ": " ++ renderDatum formatter x := by
  induction frames generalizing start with
  | nil => rfl
  | cons x rest inductionHypothesis =>
    rw [numberedLines, inductionHypothesis, List.mapIdx_cons]
    simp only [Nat.add_zero, Nat.add_assoc, Nat.add_comm 1]

/-- The frames before a given one keep their numbers, the frame is numbered by how many
came before it, and the numbering goes on after it. -/
theorem numberedLines_append_cons (formatter : Option (Formatter α)) (start : Nat)
    (before : List α) (x : α) (after : List α) :
    numberedLines formatter start (before ++ x :: after) =
      numberedLines formatter start before ++
        (toString (start + before.length) ++ ": " ++ renderDatum formatter x) ::
          numberedLines formatter (start + before.length + 1) after := by
  induction before generalizing start with
  | nil => simp [numberedLines]
  | cons y rest inductionHypothesis =>
    simp only [List.cons_append, numberedLines, inductionHypothesis, List.length_cons]
    simp only [Nat.add_assoc, Nat.add_comm 1]

/-- Lines of frames that two printers show alike are alike. -/
theorem numberedLines_congr {f g : Formatter α} {frames : List α} (start : Nat)
    (alike : ∀ y ∈ frames,
      f.render Formatter.frameDirective [y] = g.render Formatter.frameDirective [y]) :
    numberedLines (some f) start frames = numberedLines (some g) start frames := by
  induction frames generalizing start with
  | nil => rfl
  | cons y rest inductionHypothesis =>
    have headAlike := renderDatum_congr (alike y List.mem_cons_self)
    have restAlike := inductionHypothesis (start + 1) fun z mem =>
      alike z (List.mem_cons_of_mem y mem)
    rw [numberedLines, numberedLines, headAlike, restAlike]

/-! ## Whole backtraces -/

/-- A backtrace is the header and one numbered line per frame, joined by single newlines. -/
theorem renderFrames_eq_lines (formatter : Option (Formatter α)) (frames : List α) :
    renderFrames formatter frames =
      backtraceHeader ++ "\n".intercalate
        (frames.mapIdx fun n x => toString n ++ ": " ++ renderDatum formatter x) := by
  rw [renderFrames, numberedLines_eq_mapIdx]
  simp only [Nat.zero_add]

@[simp] theorem renderFrames_nil (formatter : Option (Formatter α)) :
    renderFrames formatter ([] : List α) = backtraceHeader := by
  simp [renderFrames, numberedLines]

/-- A backtrace grows as a loop over the frames writes it: one more frame adds a newline,
unless it is the first, and the frame's numbered line. -/
theorem renderFrames_concat (formatter : Option (Formatter α)) (frames : List α) (x : α) :
    renderFrames formatter (frames ++ [x]) =
      renderFrames formatter frames ++ (if frames = [] then "" else "\n") ++
        toString frames.length ++ ": " ++ renderDatum formatter x := by
  have lines_eq := numberedLines_append_cons formatter 0 frames x []
  simp only [Nat.zero_add, numberedLines] at lines_eq
  rw [renderFrames, renderFrames, lines_eq]
  by_cases noFrames : frames = []
  · subst noFrames
    simp [numberedLines, String.append_assoc]
  · -- with a line before it, the new line is joined on with one newline
    have someLines : numberedLines formatter 0 frames ≠ [] := by
      rw [← List.length_pos_iff, length_numberedLines]
      exact List.length_pos_iff.mpr noFrames
    rw [String.intercalate_append_of_ne_nil someLines (List.cons_ne_nil _ _)]
    simp [noFrames, String.append_assoc]

/-- Two printers that answer alike for every frame but one give backtraces that differ at
most in that frame's line: the lines above and below it are the same. -/
theorem renderFrames_differ_only_at (f g : Formatter α) (before : List α) (x : α)
    (after : List α)
    (alike : ∀ y ∈ before ++ after,
      f.render Formatter.frameDirective [y] = g.render Formatter.frameDirective [y]) :
    ∃ above below : List String, above.length = before.length ∧ below.length = after.length ∧
      renderFrames (some f) (before ++ x :: after) =
        backtraceHeader ++ "\n".intercalate
          (above ++ (toString before.length ++ ": " ++ renderDatum (some f) x) :: below) ∧
      renderFrames (some g) (before ++ x :: after) =
        backtraceHeader ++ "\n".intercalate
          (above ++ (toString before.length ++ ": " ++ renderDatum (some g) x) :: below) := by
  have aboveAlike : numberedLines (some f) 0 before = numberedLines (some g) 0 before :=
    numberedLines_congr 0 fun y mem => alike y (List.mem_append_left after mem)
  have belowAlike :
      numberedLines (some f) (before.length + 1) after =
        numberedLines (some g) (before.length + 1) after :=
    numberedLines_congr (before.length + 1) fun y mem => alike y (List.mem_append_right before mem)
  refine ⟨numberedLines (some f) 0 before, numberedLines (some f) (before.length + 1) after,
    length_numberedLines _ _ _, length_numberedLines _ _ _, ?_, ?_⟩
  · rw [renderFrames, numberedLines_append_cons, Nat.zero_add]
  · rw [renderFrames, numberedLines_append_cons, Nat.zero_add, aboveAlike, belowAlike]

/-- A backtrace is its header and a line `n: r` per frame, numbered from 0 and joined by
newlines, `r` the printer's text, a failure marker, or the inspection text without a printer;
a printer that answers differently for one frame changes only that frame's line. -/
theorem renderFrames_prints_each_frame_on_its_line :
    (∀ (formatter : Option (Formatter α)) (frames : List α),
      renderFrames formatter frames =
        backtraceHeader ++ "\n".intercalate
          (frames.mapIdx fun n x => toString n ++ ": " ++ renderDatum formatter x)) ∧
    (∀ formatter : Option (Formatter α), renderFrames formatter [] = "Backtrace:\n") ∧
    (∀ (formatter : Option (Formatter α)) (frames : List α) (x : α),
      renderFrames formatter (frames ++ [x]) =
        renderFrames formatter frames ++ (if frames = [] then "" else "\n") ++
          toString frames.length ++ ": " ++ renderDatum formatter x) ∧
    (∀ (f : Formatter α) (x : α),
      renderDatum (some f) x =
        match f.render "~S" [x] with
        | .text s => s
        | .failure e => "#<error printing " ++ e ++ ">"
        | .breakdown (.message e) => "#<error printing " ++ e ++ ">"
        | .breakdown .other => "#<error printing formatter panicked>") ∧
    (∀ x : α, renderDatum none x = Inspect.inspect x) ∧
    (∀ c : Context α, c.backtrace = renderFrames c.formatter c.ledger.newestFirst) ∧
    (∀ (f g : Formatter α) (before : List α) (x : α) (after : List α),
      (∀ y ∈ before ++ after, f.render "~S" [y] = g.render "~S" [y]) →
      ∃ above below : List String, above.length = before.length ∧
        below.length = after.length ∧
        renderFrames (some f) (before ++ x :: after) =
          backtraceHeader ++ "\n".intercalate
            (above ++ (toString before.length ++ ": " ++ renderDatum (some f) x) :: below) ∧
        renderFrames (some g) (before ++ x :: after) =
          backtraceHeader ++ "\n".intercalate
            (above ++ (toString before.length ++ ": " ++ renderDatum (some g) x) :: below)) :=
  ⟨renderFrames_eq_lines, renderFrames_nil, renderFrames_concat, renderDatum_some,
    renderDatum_none, fun _ => rfl, renderFrames_differ_only_at⟩

-- A printer that fails on the middle frame costs only that frame's line.
example :
    renderFrames (some (Printers.failingOn "b"))
        [Value.sym ⟨"a", 0⟩, .sym ⟨"b", 0⟩, .sym ⟨"c", 0⟩] =
      "Backtrace:\n0: a\n1: #<error printing cannot print b>\n2: c" := by
  decide

end Unwinding
