import Unwinding.Basic

/-!
# Printers

A printer turns a directive and a list of data into text. It may also fail with a message,
or break down altogether. The kernel treats a failure and a breakdown alike and keeps the
text of either, so a broken printer never hides the diagnostic it was asked to print.
-/

namespace Unwinding

/-- What a printer that breaks down leaves behind: a message, or something that is no
text at all. -/
inductive Breakdown where
  | message (text : String)
  | other
  deriving DecidableEq, Inhabited

/-- The text that stands for a breakdown. -/
def Breakdown.describe : Breakdown → String
  | .message text => text
  | .other => "formatter panicked"

/-- One answer of a printer. -/
inductive Rendering where
  | text (s : String)
  | failure (message : String)
  | breakdown (cause : Breakdown)
  deriving DecidableEq, Inhabited

/-- A printer for data of type `α`. -/
structure Formatter (α : Type) where
  render : String → List α → Rendering

namespace Formatter

variable {α : Type}

/-- The directive with which frames and catch tags are printed. -/
def frameDirective : String := "~S"

/-- The printed text, or the text of the failure or breakdown. -/
def format (f : Formatter α) (directive : String) (data : List α) : Except String String :=
  match f.render directive data with
  | .text s => .ok s
  | .failure message => .error message
  | .breakdown cause => .error cause.describe

end Formatter

end Unwinding
