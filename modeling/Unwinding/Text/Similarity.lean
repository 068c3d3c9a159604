/-!
# Similarity of names

The Jaro similarity of two words, used to suggest a known name for a mistyped one. Two
characters match when they are equal and stand no further apart than half the longer
word's length less one, each character matching at most once. The score averages the
share of each word that matched and the share of matches that come in the same order.

The score is computed in double precision, in the order of the usual formula, because
suggestions are cut at a threshold and a score that lands on the threshold exactly in
rationals may fall on either side of it in doubles.
-/

namespace Unwinding

namespace Text

/-- Marks which characters of `a` and of `b` match: each character of `a` takes the first
unmarked equal character of `b` within `reach` of its position. -/
def jaroMarks (a b : Array Char) (reach : Nat) : Array Bool × Array Bool :=
  (List.range a.size).foldl
    (fun (marks : Array Bool × Array Bool) i =>
      let low := i - reach
      let high := min b.size (i + reach + 1)
      let free := (List.range' low (high - low)).find? fun j =>
        !marks.2.getD j true && b.getD j ' ' == a.getD i ' '
      match free with
      | some j => (marks.1.set! i true, marks.2.set! j true)
      | none => marks)
    (Array.replicate a.size false, Array.replicate b.size false)

/-- The characters of a word whose mark is set, in order. -/
def marked (cs : Array Char) (marks : Array Bool) : List Char :=
  (cs.toList.zip marks.toList).filterMap fun (c, m) => if m then some c else none

/-- The Jaro similarity of two words: one for two empty words, zero when one is empty or
nothing matches. -/
def jaro (s t : String) : Float :=
  let a := s.toList.toArray
  let b := t.toList.toArray
  if a.size == 0 && b.size == 0 then 1.0
  else if a.size == 0 || b.size == 0 then 0.0
  else
    let reach := max a.size b.size / 2 - 1
    let (marksA, marksB) := jaroMarks a b reach
    let left := marked a marksA
    let right := marked b marksB
    let matched := left.length
    let transpositions := ((left.zip right).filter fun (x, y) => x != y).length / 2
    if matched == 0 then 0.0
    else
      let m := matched.toFloat
      (m / a.size.toFloat + m / b.size.toFloat + (matched - transpositions).toFloat / m) / 3.0

/-- The names more than 0.7 similar to `word`, least similar first; of equally similar
names the earlier comes first. -/
def similarNames (word : String) (names : List String) : List String :=
  let scored := names.filterMap fun name =>
    let score := jaro word name
    if score > 0.7 then some (score, name) else none
  (scored.mergeSort fun x y => x.1 <= y.1).map (·.2)

/-- The name most similar to `word`, if one is more than 0.7 similar; of equally similar
names the later wins. -/
def mostSimilar? (word : String) (names : List String) : Option String :=
  (similarNames word names).getLast?

end Text

end Unwinding
