import Unwinding.Formatter

/-!
# Backtraces

A backtrace is the header `Backtrace:` and one numbered line per frame. Each frame is
printed with the registered printer and the frame directive; a printer that fails prints
a marker with the text of its failure in place of that one frame; without a printer the
frame's inspection text is shown.
-/

namespace Unwinding

variable {α : Type} [Inspect α]

/-- The first line of every backtrace. -/
def backtraceHeader : String := "Backtrace:\n"

/-- The text of one datum, as a frame or a catch tag is shown. -/
def renderDatum (formatter : Option (Formatter α)) (x : α) : String :=
  match formatter with
  | none => Inspect.inspect x
  | some f =>
    match f.format Formatter.frameDirective [x] with
    | .ok text => text
    | .error e => "#<error printing " ++ e ++ ">"

/-- The numbered lines `n: text`, counting from `start`. -/
def numberedLines (formatter : Option (Formatter α)) : Nat → List α → List String
  | _, [] => []
  | n, x :: rest => (toString n ++ ": " ++ renderDatum formatter x) :: numberedLines formatter (n + 1) rest

/-- The backtrace of a list of frames: the header, then the numbered lines joined by single
newlines, with no newline at the end. -/
def renderFrames (formatter : Option (Formatter α)) (frames : List α) : String :=
  backtraceHeader ++ "\n".intercalate (numberedLines formatter 0 frames)

end Unwinding
