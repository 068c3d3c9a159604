import Unwinding.Value
import Unwinding.Formatter

/-!
# Sample printers for runtime values

Small printers used to exercise the kernel. The label printer walks its directive: `~S`
and `~A` insert the label of the next datum and every other character is copied. The
others echo their arguments, or fail, or break down, on chosen data.
-/

namespace Unwinding

namespace Printers

/-- The label printer's walk: the directive still to print, the data left, and the text
printed so far. -/
def labelWalk : List Char → List Value → String → Rendering
  | [], _, printed => .text printed
  | ['~'], _, _ => .failure "dangling ~"
  | '~' :: c :: rest, data, printed =>
    if c = 'S' ∨ c = 'A' then
      match data with
      | datum :: more => labelWalk rest more (printed ++ datum.label)
      | [] => .failure "missing datum"
    else
      .failure ("bad directive ~" ++ c.toString)
  | c :: rest, data, printed => labelWalk rest data (printed.push c)

/-- Prints the directive with the labels of the data put in for `~S` and `~A`. -/
def label : Formatter Value := ⟨fun directive data => labelWalk directive.toList data ""⟩

/-- Prints the directive and the number of data. -/
def echo : Formatter Value :=
  ⟨fun directive data => .text (directive ++ "|" ++ toString data.length)⟩

/-- Whether some datum has the given label. -/
def mentions (data : List Value) (text : String) : Bool := data.any (·.label == text)

/-- Acts as `label`, but fails on data that include a value labelled `text`. -/
def failingOn (text : String) : Formatter Value :=
  ⟨fun directive data =>
    if mentions data text then .failure ("cannot print " ++ text) else label.render directive data⟩

/-- What a breaking printer leaves behind: a fixed message, a message naming the label, or
something that is no text. -/
inductive Debris where
  | fixedMessage
  | namingMessage
  | nonText
  deriving DecidableEq, Inhabited

/-- The breakdown a breaking printer leaves on the label `text`. -/
def Debris.breakdown (text : String) : Debris → Breakdown
  | .fixedMessage => .message "printer exploded"
  | .namingMessage => .message ("cannot print " ++ text)
  | .nonText => .other

/-- Acts as `label`, but breaks down on data that include a value labelled `text`. -/
def breakingOn (text : String) (debris : Debris) : Formatter Value :=
  ⟨fun directive data =>
    if mentions data text then .breakdown (debris.breakdown text) else label.render directive data⟩

/-- Fails on everything with the given message. -/
def alwaysFailing (message : String) : Formatter Value := ⟨fun _ _ => .failure message⟩

end Printers

end Unwinding
