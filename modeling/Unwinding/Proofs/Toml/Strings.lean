import Unwinding.Proofs.Parser
import Unwinding.Proofs.Toml.Quoting

/-!
# Reading back the strings the writer puts down

Each of the four string readers, run on what `quoteString` writes for a text, gives the text
back and stops right after the closing delimiter. The basic forms are read piece by piece:
the writer puts each character down as itself when it is plain, else as an escape (or, in a
multi-line string, a bare line break), and the readers take a plain run whole and an escape as
its character (`ReadsPieces.reads`). The multi-line basic form also lets up to two double
quotes stand bare; its reader takes such a run when something follows it inside the string
(`mlbQuotedRuns_written`), and the run before the closing delimiter as the body's tail. The
multi-line literal form is read the same way, by runs of at most two single quotes
(`mllRuns_written`). The string reader picks its form by the opening delimiter, and finds the
one the writer chose (`string_quoteString`).
-/

namespace Unwinding

namespace Toml

open Unwinding.Parser

/-! ## Escapes -/

/-- Four hexadecimal digits of a code below `0x80`, read back to the code. -/
theorem hex4_digits : ∀ n, n < 0x80 → (hex4 n).toList.length = 4 ∧
    (∀ c ∈ (hex4 n).toList, isHexDigit c = true) ∧ digitsIn 16 (hex4 n).toList = n := by
  intro n small
  have checked : (hex4 n).toList.length = 4 ∧ (hex4 n).toList.all isHexDigit = true ∧
      digitsIn 16 (hex4 n).toList = n := by
    revert n
    simp only [hex4, String.toList_ofList]
    decide
  obtain ⟨length, hex, value⟩ := checked
  exact ⟨length, List.all_eq_true.mp hex, value⟩

theorem hexEscape_hex4 {n : Nat} (small : n < 0x80) (r : List Char) :
    hexEscape 4 ((hex4 n).toList ++ r) = .ok (Char.ofNat n, r) := by
  obtain ⟨length, hex, value⟩ := hex4_digits n small
  have taken : takeBetween isHexDigit 0 4 ((hex4 n).toList ++ r) = .ok ((hex4 n).toList, r) := by
    simp [takeBetween, List.takeWhile_append_of_pos hex, length]
  have inRange : n < 0xD800 := by omega
  simp [hexEscape, check, verify, taken, length, value, inRange]

/-- A character that the writer escapes is put down as a backslash, an escape letter and what
follows it, which the escape reader turns back into the character. -/
theorem writtenPiece_escape {multi : Bool} {c : Char} (notPlain : isPlain c = false)
    (other : c ≠ '"') (kept : multi = false ∨ c ≠ '\n') :
    ∃ d e, (writtenPiece multi c).toList = '\\' :: d :: e ∧ d ∈ escapeLetters ∧
      ∀ r, escapeSeqChar (d :: e ++ r) = .ok (c, r) := by
  unfold writtenPiece
  split
  case h_1 => exact ⟨'b', [], rfl, by decide, fun r => rfl⟩
  case h_2 => exact ⟨'t', [], rfl, by decide, fun r => rfl⟩
  case h_3 =>
    obtain rfl : multi = false := by simpa using kept
    exact ⟨'n', [], rfl, by decide, fun r => rfl⟩
  case h_4 => exact ⟨'f', [], rfl, by decide, fun r => rfl⟩
  case h_5 => exact ⟨'r', [], rfl, by decide, fun r => rfl⟩
  case h_6 => exact ⟨'\\', [], rfl, by decide, fun r => rfl⟩
  case h_7 notBackspace notTab notBreak notFeed notReturn notBackslash =>
    have codes := mt (@isPlain_iff_toNat c).mpr (by simp [notPlain])
    have quoteCode : c.toNat ≠ 0x22 := fun same => other (Char.toNat_inj.mp same)
    have backslashCode : c.toNat ≠ 0x5C := fun same => notBackslash (Char.toNat_inj.mp same)
    have control : (decide (c.toNat ≤ 0x1F) || c.toNat == 0x7F) = true := by
      simp only [Bool.or_eq_true, decide_eq_true_eq, beq_iff_eq]
      omega
    have small : c.toNat < 0x80 := by omega
    refine ⟨'u', (hex4 c.toNat).toList, by simp [control], by decide, fun r => ?_⟩
    simp only [List.cons_append, escapeSeqChar,
      label_of_ok (cut_of_ok (hexEscape_hex4 small r)), Char.ofNat_toNat]

/-- A line break reader refuses, softly, any other first character. -/
theorem newline_soft {d : Char} (notBreak : d ≠ '\n') (notReturn : d ≠ '\r') (r : List Char) :
    FailsSoftly newline (d :: r) := by
  refine ⟨{ rest := if isNonAscii d then d :: r else r }, ?_, rfl⟩
  simp only [newline]
  split <;> simp_all

/-! ## Bodies read piece by piece -/

/-- What the writer puts for a character of a basic string where a double quote cannot stand
bare: the quote escaped, any other character as `writtenPiece` gives it. -/
def escapedPiece (multi : Bool) (c : Char) : List Char :=
  if c = '"' then ['\\', '"'] else (writtenPiece multi c).toList

/-- A writer's pieces and a reader of string bodies agree: a plain character is its own piece,
any other piece starts with a character that is not plain in a basic string, and the reader
takes a plain run whole, up to such a character, and any other piece as its character. -/
structure ReadsPieces (P : Parser String) (piece : Char → List Char) : Prop where
  plain_piece : ∀ c, isPlain c = true → piece c = [c]
  piece_head : ∀ c, isPlain c = false → ∃ d e, piece c = d :: e ∧ isBasicUnescaped d = false
  run : ∀ run r, run ≠ [] → (∀ c ∈ run, isPlain c = true) →
    (∀ d ∈ r.head?, isBasicUnescaped d = false) → P (run ++ r) = .ok (String.ofList run, r)
  escape : ∀ c r, isPlain c = false → P (piece c ++ r) = .ok (c.toString, r)

theorem flatMap_of_plain {piece : Char → List Char} (plainPiece : ∀ c, isPlain c = true → piece c = [c])
    {run : List Char} (plain : ∀ c ∈ run, isPlain c = true) : run.flatMap piece = run := by
  induction run with
  | nil => rfl
  | cons c rest inductionHypothesis =>
    rw [List.flatMap_cons, plainPiece c (plain c (by simp)),
      inductionHypothesis fun d inside => plain d (by simp [inside])]
    rfl

/-- A reader that agrees with a writer's pieces reads the pieces of a body back to its
characters, up to where it stops. The induction is on the body's length: a plain run is read
whole, at once, and shortens it by its length. -/
theorem ReadsPieces.reads {P : Parser String} {piece : Char → List Char}
    (agree : ReadsPieces P piece) {r : List Char} (stops : FailsSoftly P r)
    (boundary : ∀ d ∈ r.head?, isBasicUnescaped d = false) (s : List Char) :
    ∃ parts, Reads P (s.flatMap piece ++ r) parts r ∧ String.join parts = String.ofList s := by
  induction hs : s.length using Nat.strongRecOn generalizing s with
  | ind n inductionHypothesis =>
    match s with
    | [] => exact ⟨[], .stop stops, rfl⟩
    | c :: t =>
      by_cases plain : isPlain c = true
      · -- the longest plain run from `c` on is one part
        let run := (c :: t).takeWhile isPlain
        let rest := (c :: t).dropWhile isPlain
        have whole : run ++ rest = c :: t := List.takeWhile_append_dropWhile
        have runPlain : ∀ d ∈ run, isPlain d = true := List.all_eq_true.mp List.all_takeWhile
        have runNonempty : run ≠ [] := by simp [run, plain]
        have pieces : (c :: t).flatMap piece = run ++ rest.flatMap piece := by
          rw [← whole, List.flatMap_append, flatMap_of_plain agree.plain_piece runPlain]
        have after : ∀ d ∈ (rest.flatMap piece ++ r).head?, isBasicUnescaped d = false := by
          cases restEq : rest with
          | nil => simpa using boundary
          | cons e more =>
            have notPlain : isPlain e = false := by
              have first := List.head?_dropWhile_not isPlain (c :: t)
              rw [show (c :: t).dropWhile isPlain = e :: more from restEq] at first
              exact first
            obtain ⟨d, e', pieceEq, notUnescaped⟩ := agree.piece_head e notPlain
            simp [pieceEq, notUnescaped]
        have shorter : rest.length < n := by
          have := congrArg List.length whole
          rw [List.length_append] at this
          have : 0 < run.length := List.length_pos_iff.mpr runNonempty
          omega
        obtain ⟨parts, reads, joined⟩ := inductionHypothesis _ shorter rest rfl
        refine ⟨String.ofList run :: parts, ?_, ?_⟩
        · rw [pieces, List.append_assoc]
          refine .next (agree.run run _ runNonempty runPlain after) ?_ reads
          simp [List.length_pos_iff.mpr runNonempty]
        · rw [String.join_cons, joined, ← String.ofList_append, whole]
      · -- a character that is not plain is one piece, read as itself
        have notPlain : isPlain c = false := by simpa using plain
        obtain ⟨d, e, pieceEq, -⟩ := agree.piece_head c notPlain
        obtain ⟨parts, reads, joined⟩ := inductionHypothesis t.length (by simp [← hs]) t rfl
        refine ⟨c.toString :: parts, ?_, ?_⟩
        · rw [List.flatMap_cons, List.append_assoc]
          refine .next (agree.escape c _ notPlain) ?_ reads
          simp only [List.length_append, pieceEq, List.length_cons]
          omega
        · rw [String.join_cons, joined]
          simp

/-! ## The readers of basic bodies -/

theorem isBasicUnescaped_of_plain {c : Char} (plain : isPlain c = true) :
    isBasicUnescaped c = true := by
  simp only [isPlain, Bool.and_eq_true] at plain
  exact plain.1

theorem escapedPiece_of_plain {multi : Bool} {c : Char} (plain : isPlain c = true) :
    escapedPiece multi c = [c] := by
  have other : c ≠ '"' := by
    rintro rfl
    simp at plain
  simp [escapedPiece, other, writtenPiece_of_plain plain]

/-- An escaped piece is a backslash, an escape letter and what follows it, unless it is the bare
line break of a multi-line string. -/
theorem escapedPiece_escape {multi : Bool} {c : Char} (notPlain : isPlain c = false)
    (kept : multi = false ∨ c ≠ '\n') :
    ∃ d e, escapedPiece multi c = '\\' :: d :: e ∧ d ∈ escapeLetters ∧
      ∀ r, escapeSeqChar (d :: e ++ r) = .ok (c, r) := by
  by_cases quote : c = '"'
  · subst quote
    exact ⟨'"', [], by simp [escapedPiece], by decide, fun r => rfl⟩
  · simpa [escapedPiece, quote] using writtenPiece_escape notPlain quote kept

theorem escaped_cons {d : Char} {x : List Char} {c : Char} {r : List Char}
    (read : escapeSeqChar (d :: x) = .ok (c, r)) : escaped ('\\' :: d :: x) = .ok (c, r) := by
  rw [escaped, bind_of_ok (char_cons '\\' _)]
  exact read

theorem takeWhile1_unescaped_soft {d : Char} (notUnescaped : isBasicUnescaped d = false)
    (x : List Char) : FailsSoftly (takeWhile1 isBasicUnescaped) (d :: x) :=
  takeWhile1_soft fun c head => by
    cases head
    exact notUnescaped

theorem escaped_soft {d : Char} (other : d ≠ '\\') (x : List Char) :
    FailsSoftly escaped (d :: x) :=
  (char_soft fun c head => by
    cases head
    exact other).bind _

/-- The escape letters are no blanks and no line breaks. -/
theorem escapeLetters_not_blank : ∀ d ∈ escapeLetters,
    isWhitespace d = false ∧ d ≠ '\n' ∧ d ≠ '\r' := by
  simp [escapeLetters, isWhitespace]

/-- A backslash before an escape letter does not end a line. -/
theorem mlbEscapedNewline_soft_of_letter {d : Char} (letter : d ∈ escapeLetters) (x : List Char) :
    FailsSoftly mlbEscapedNewline ('\\' :: d :: x) := by
  obtain ⟨notBlank, notBreak, notReturn⟩ := escapeLetters_not_blank d letter
  have blanks : ws (d :: x) = .ok ((), d :: x) := by
    simp [ws, void, takeWhile, notBlank]
  unfold mlbEscapedNewline
  refine (FailsSoftly.many1 ?_).void
  refine FailsSoftly.after (char_cons '\\' _) ?_
  refine FailsSoftly.after blanks ?_
  exact (newline_soft notBreak notReturn x).bind _

theorem mlbEscapedNewline_soft {d : Char} (other : d ≠ '\\') (x : List Char) :
    FailsSoftly mlbEscapedNewline (d :: x) :=
  ((char_soft fun c head => by
    cases head
    exact other).bind _).many1.void

/-- The reader of one-line basic bodies agrees with the writer's pieces. -/
theorem basicChars_reads : ReadsPieces basicChars (escapedPiece false) where
  plain_piece _ plain := escapedPiece_of_plain plain
  piece_head _ notPlain := by
    obtain ⟨d, e, pieceEq, -⟩ := escapedPiece_escape notPlain (.inl rfl)
    exact ⟨'\\', d :: e, pieceEq, by decide⟩
  run run _ nonempty plain boundary :=
    alt_of_ok (map_of_ok (takeWhile1_exact nonempty
      (fun c mem => isBasicUnescaped_of_plain (plain c mem)) boundary))
  escape c r notPlain := by
    obtain ⟨d, e, pieceEq, -, read⟩ := escapedPiece_escape notPlain (.inl rfl)
    rw [pieceEq, List.cons_append, List.cons_append, basicChars,
      alt_of_soft ((takeWhile1_unescaped_soft (by decide) _).map _)]
    exact map_of_ok (escaped_cons (read r))

/-- The reader of multi-line basic bodies agrees with the writer's pieces, bare line breaks
included. -/
theorem mlbContent_reads : ReadsPieces mlbContent (escapedPiece true) where
  plain_piece _ plain := escapedPiece_of_plain plain
  piece_head c notPlain := by
    by_cases lineBreak : c = '\n'
    · subst lineBreak
      exact ⟨'\n', [], rfl, by decide⟩
    · obtain ⟨d, e, pieceEq, -⟩ := escapedPiece_escape notPlain (.inr lineBreak)
      exact ⟨'\\', d :: e, pieceEq, by decide⟩
  run run _ nonempty plain boundary :=
    alt_of_ok (map_of_ok (takeWhile1_exact nonempty
      (fun c mem => isBasicUnescaped_of_plain (plain c mem)) boundary))
  escape c r notPlain := by
    by_cases lineBreak : c = '\n'
    · -- a bare line break is read by the last alternative only
      subst lineBreak
      have piece : escapedPiece true '\n' = ['\n'] := rfl
      have broken : newline ('\n' :: r) = .ok ((), r) := rfl
      rw [piece, List.singleton_append, mlbContent,
        alt_of_soft ((takeWhile1_unescaped_soft (by decide) r).map _),
        alt_of_soft ((mlbEscapedNewline_soft (by decide) r).map _),
        alt_of_soft ((escaped_soft (by decide) r).map _), map_of_ok broken]
      rfl
    · obtain ⟨d, e, pieceEq, letter, read⟩ := escapedPiece_escape notPlain (.inr lineBreak)
      rw [pieceEq, List.cons_append, List.cons_append, mlbContent,
        alt_of_soft ((takeWhile1_unescaped_soft (by decide) _).map _),
        alt_of_soft ((mlbEscapedNewline_soft_of_letter letter _).map _)]
      exact alt_of_ok (map_of_ok (escaped_cons (read r)))

/-- Both readers stop, softly, at a double quote. -/
theorem basicChars_quote_soft (r : List Char) : FailsSoftly basicChars ('"' :: r) :=
  ((takeWhile1_unescaped_soft (by decide) r).map _).alt ((escaped_soft (by decide) r).map _)

theorem mlbContent_quote_soft (r : List Char) : FailsSoftly mlbContent ('"' :: r) :=
  ((takeWhile1_unescaped_soft (by decide) r).map _).alt
    (((mlbEscapedNewline_soft (by decide) r).map _).alt
      (((escaped_soft (by decide) r).map _).alt ((newline_soft (by decide) (by decide) r).map _)))

/-! ## One-line basic strings -/

/-- A one-line basic body is the escaped pieces of its characters, quotes included. -/
theorem escapeBasic_single (s : List Char) (quotes : Nat) :
    (escapeBasic false s quotes).toList = s.flatMap (escapedPiece false) := by
  induction s generalizing quotes with
  | nil => rfl
  | cons c rest inductionHypothesis =>
    by_cases quote : c = '"'
    · subst quote
      rw [escapeBasic_quote_single, String.toList_append, inductionHypothesis]
      simp [escapedPiece]
    · rw [escapeBasic_cons_of_ne quote, String.toList_append, inductionHypothesis]
      simp [escapedPiece, quote]

/-- A one-line basic string as the writer puts it down reads back to its text. -/
theorem basicString_written (s r : List Char) :
    basicString ('"' :: (escapeBasic false s 0).toList ++ '"' :: r) = .ok (String.ofList s, r) := by
  obtain ⟨parts, reads, joined⟩ :=
    basicChars_reads.reads (basicChars_quote_soft r) (fun d head => by cases head; rfl) s
  rw [escapeBasic_single] at *
  rw [List.cons_append, basicString, bind_of_ok (char_cons '"' _), bind_of_ok (many_of_reads reads),
    bind_of_ok (label_of_ok (cut_of_ok (char_cons '"' r))), joined]
  rfl

/-! ## Literal strings -/

/-- A literal string as the writer puts it down reads back to its text. -/
theorem literalString_written {s : List Char} (literalChars : ∀ c ∈ s, isLiteralChar c = true)
    (r : List Char) : literalString ('\'' :: s ++ '\'' :: r) = .ok (String.ofList s, r) := by
  have body : takeWhile isLiteralChar (s ++ '\'' :: r) = .ok (s, '\'' :: r) :=
    takeWhile_exact literalChars fun d head => by
      cases head
      rfl
  rw [List.cons_append, literalString]
  apply label_of_ok
  rw [bind_of_ok (char_cons '\'' _), bind_of_ok (cut_of_ok body),
    bind_of_ok (cut_of_ok (char_cons '\'' r))]
  rfl

/-! ## Runs of quotes inside multi-line strings -/

section InnerQuotes

variable {q : Char} {term : Parser Unit} {x y : List Char}

theorem innerQuotes_two (ends : term x = .ok ((), y)) :
    innerQuotes q term (q :: q :: x) = .ok (String.ofList [q, q], x) := by
  have both : (do char q; char q; peek term) (q :: q :: x) = .ok ((), x) := by
    rw [bind_of_ok (char_cons q _), bind_of_ok (char_cons q _), peek_of_ok ends]
  simp only [innerQuotes, both]

/-- After a first quote, whether a second one and the terminator follow. -/
theorem secondQuote_soft_of_ne (single : ∀ d ∈ x.head?, d ≠ q) :
    FailsSoftly (do char q; peek term) x :=
  (char_soft single).bind _

theorem secondQuote_soft_of_noEnd (noEnd : FailsSoftly term x) :
    FailsSoftly (do char q; peek term) (q :: x) :=
  FailsSoftly.after (char_cons q x) noEnd.peek

/-- One quote is taken when no second one with the terminator after it follows, and the
terminator reads after the first. -/
theorem innerQuotes_one (noSecond : FailsSoftly (do char q; peek term) x)
    (ends : term x = .ok ((), y)) : innerQuotes q term (q :: x) = .ok (q.toString, x) := by
  obtain ⟨e, failed, notFinal⟩ : FailsSoftly (do char q; char q; peek term) (q :: x) :=
    FailsSoftly.after (char_cons q _) noSecond
  have one : (do char q; peek term) (q :: x) = .ok ((), x) := by
    rw [bind_of_ok (char_cons q _), peek_of_ok ends]
  simp only [innerQuotes, failed, notFinal, one]
  rfl

theorem innerQuotes_soft (noSecond : FailsSoftly (do char q; peek term) x)
    (noEnd : FailsSoftly term x) : FailsSoftly (innerQuotes q term) (q :: x) := by
  obtain ⟨e, failed, notFinal⟩ : FailsSoftly (do char q; char q; peek term) (q :: x) :=
    FailsSoftly.after (char_cons q _) noSecond
  obtain ⟨e', failed', notFinal'⟩ : FailsSoftly (do char q; peek term) (q :: x) :=
    FailsSoftly.after (char_cons q _) noEnd.peek
  exact ⟨e', by simp only [innerQuotes, failed, notFinal, failed']; rfl, notFinal'⟩

/-- A third quote after two: the quotes are no run inside the string. -/
theorem innerQuotes_soft_at_close (q : Char) (x : List Char) :
    FailsSoftly (innerQuotes q (noneOf q)) (q :: q :: q :: x) :=
  innerQuotes_soft (secondQuote_soft_of_noEnd (noneOf_soft q x)) (noneOf_soft q (q :: x))

section Delimiter

variable {delimiter : String} (three : delimiter.toList = [q, q, q])
include three

theorem literal_triple (x : List Char) : literal delimiter (q :: q :: q :: x) = .ok ((), x) := by
  have read := literal_append delimiter x
  rwa [three] at read

/-- One or two quotes before the closing delimiter are no delimiter. -/
theorem closing_soft {rest : List Char} (closed : ∀ d ∈ rest.head?, d ≠ q) :
    FailsSoftly (literal delimiter) (q :: rest) ∧ FailsSoftly (literal delimiter) (q :: q :: rest) := by
  have noQuote : ¬ [q] <+: rest := fun ⟨x, extended⟩ => closed q (by simp [← extended]) rfl
  constructor <;> apply literal_soft <;> rw [three] <;> intro extended
  · exact noQuote ((List.prefix_append [q] [q]).trans (List.cons_prefix_cons.mp extended).2)
  · exact noQuote (List.cons_prefix_cons.mp (List.cons_prefix_cons.mp extended).2).2

/-- The quotes before the closing delimiter, at most two, are the tail of a multi-line body. -/
theorem innerTail_written {n : Nat} (small : n ≤ 2) {rest : List Char}
    (closed : ∀ d ∈ rest.head?, d ≠ q) :
    ∃ tail, opt (innerQuotes q (literal delimiter)) (List.replicate n q ++ q :: q :: q :: rest) =
        .ok (tail, q :: q :: q :: rest) ∧ tail.getD "" = String.ofList (List.replicate n q) := by
  obtain ⟨afterOne, afterTwo⟩ := closing_soft three closed
  have ending := literal_triple three rest
  match n, small with
  | 0, _ =>
    exact ⟨none, opt_of_soft (innerQuotes_soft (secondQuote_soft_of_noEnd afterOne) afterTwo), rfl⟩
  | 1, _ =>
    exact ⟨some q.toString, opt_of_ok (innerQuotes_one
      (secondQuote_soft_of_noEnd (closing_soft three closed).2) ending), rfl⟩
  | 2, _ => exact ⟨some (String.ofList [q, q]), opt_of_ok (innerQuotes_two ending), rfl⟩

end Delimiter

end InnerQuotes


/-! ## Multi-line basic strings -/

theorem tripleDouble : "\"\"\"".toList = ['"', '"', '"'] := rfl

/-- Every piece has a first character, which is no double quote and no carriage return, and is
a line break only for a line break. -/
theorem escapedPiece_cons (multi : Bool) (c : Char) :
    ∃ d e, escapedPiece multi c = d :: e ∧ d ≠ '"' ∧ d ≠ '\r' ∧ (d = '\n' → c = '\n') := by
  by_cases plain : isPlain c = true
  · have other : c ≠ '"' := by
      rintro rfl
      simp at plain
    have notReturn : c ≠ '\r' := by
      rintro rfl
      simp [isPlain, isBasicUnescaped, isWhitespace, isNonAscii] at plain
    exact ⟨c, [], escapedPiece_of_plain plain, other, notReturn, id⟩
  · have notPlain : isPlain c = false := by simpa using plain
    by_cases bare : multi = true ∧ c = '\n'
    · obtain ⟨rfl, rfl⟩ := bare
      exact ⟨'\n', [], rfl, by decide, by decide, fun _ => rfl⟩
    · have kept : multi = false ∨ c ≠ '\n' := by
        cases multi <;> simp_all
      obtain ⟨d, e, pieceEq, -⟩ := escapedPiece_escape notPlain kept
      exact ⟨'\\', d :: e, pieceEq, by decide, by decide, fun same => absurd same (by decide)⟩

/-- In a multi-line body a character is put down as its escaped piece, and the count of
quotes starts again after it, unless it is a double quote before two others. -/
theorem escapeBasic_multi_cons {d : Char} {k : Nat} (escaped : d ≠ '"' ∨ k = 2) (t : List Char) :
    (escapeBasic true (d :: t) k).toList = escapedPiece true d ++ (escapeBasic true t 0).toList := by
  by_cases quote : d = '"'
  · obtain rfl : k = 2 := by simpa [quote] using escaped
    subst quote
    rw [(escapeBasic_quotes t).2.2, String.toList_append]
    rfl
  · rw [escapeBasic_cons_of_ne quote, String.toList_append]
    simp [escapedPiece, quote]

/-- Quote-free text in a multi-line body is put down as its escaped pieces. -/
theorem escapeBasic_multi_append {u : List Char} (quoteFree : ∀ c ∈ u, c ≠ '"') (t : List Char) :
    (escapeBasic true (u ++ t) 0).toList =
      u.flatMap (escapedPiece true) ++ (escapeBasic true t 0).toList := by
  induction u with
  | nil => rfl
  | cons c u inductionHypothesis =>
    rw [List.cons_append, escapeBasic_multi_cons (.inl (quoteFree c (by simp))),
      inductionHypothesis fun d mem => quoteFree d (by simp [mem]), List.flatMap_cons,
      List.append_assoc]

/-- A text cut at its first quote `q`: no `q` before the cut, and `q` right after it. -/
theorem quoteFree_takeWhile (q : Char) (t : List Char) : ∀ c ∈ t.takeWhile (· != q), c ≠ q := by
  intro c mem
  simpa using List.all_eq_true.mp List.all_takeWhile c mem

theorem head_dropWhile_quote (q : Char) (t : List Char) :
    ∀ d ∈ (t.dropWhile (· != q)).head?, d = q := by
  intro d head
  have first := List.head?_dropWhile_not (· != q) t
  rw [Option.mem_def.mp head] at first
  simpa using first

/-- A multi-line body up to the first double quote, and from it on. -/
theorem escapeBasic_multi_split (t : List Char) :
    (escapeBasic true t 0).toList = (t.takeWhile (· != '"')).flatMap (escapedPiece true) ++
      (escapeBasic true (t.dropWhile (· != '"')) 0).toList := by
  rw [← escapeBasic_multi_append (quoteFree_takeWhile '"' t), List.takeWhile_append_dropWhile]

/-- A multi-line body from a double quote on, or an empty one, starts with a double quote
once the closing delimiter is put after it. -/
theorem escapeBasic_multi_quote_start {v : List Char} (start : ∀ d ∈ v.head?, d = '"') (x : List Char) :
    ∃ r, (escapeBasic true v 0).toList ++ '"' :: x = '"' :: r := by
  cases v with
  | nil => exact ⟨x, rfl⟩
  | cons d v =>
    obtain rfl : d = '"' := start d rfl
    exact ⟨_, by rw [(escapeBasic_quotes v).1, String.toList_append]; rfl⟩

/-- After a piece the reader of multi-line bodies reads on to the next bare double quote, in at
least one part. -/
theorem mlbContent_chunk {w : List Char} (nonempty : w ≠ []) (r : List Char) :
    ∃ p r₁ ps, mlbContent (w.flatMap (escapedPiece true) ++ '"' :: r) = .ok (p, r₁) ∧
      many mlbContent r₁ = .ok (ps, '"' :: r) ∧ p ++ String.join ps = String.ofList w := by
  obtain ⟨parts, reads, joined⟩ :=
    mlbContent_reads.reads (mlbContent_quote_soft r) (fun e head => by cases head; rfl) w
  obtain ⟨c, w', rfl⟩ := List.exists_cons_of_ne_nil nonempty
  obtain ⟨d, e, pieceEq, -⟩ := escapedPiece_cons true c
  obtain ⟨p, ps, r₁, rfl, read, more⟩ := reads.cons_of_shorter (by simp [pieceEq]; omega)
  exact ⟨p, r₁, ps, read, many_of_reads more, by rw [← joined, String.join_cons]⟩


/-- Where the body ends: the quotes before the closing delimiter are no run inside it. -/
theorem mlbQuotedRuns_at_close (acc : String) (x : List Char) :
    mlbQuotedRuns acc ('"' :: '"' :: '"' :: x) = .ok (acc, '"' :: '"' :: '"' :: x) := by
  rw [mlbQuotedRuns.eq_1, opt_of_soft (innerQuotes_soft_at_close '"' x)]

/-- A run of quotes with a piece after it is read with the text up to the next bare quote,
and the reading goes on from there. -/
theorem mlbQuotedRuns_step {acc qs : String} {cs : List Char} {w r : List Char} (nonempty : w ≠ [])
    (quotes : innerQuotes '"' (noneOf '"') cs = .ok (qs, w.flatMap (escapedPiece true) ++ '"' :: r))
    (longer : (w.flatMap (escapedPiece true) ++ '"' :: r).length ≤ cs.length) :
    mlbQuotedRuns acc cs = mlbQuotedRuns (acc ++ qs ++ String.ofList w) ('"' :: r) := by
  obtain ⟨p, r₁, ps, read, more, joined⟩ := mlbContent_chunk nonempty r
  have shorter : ('"' :: r).length < cs.length := by
    obtain ⟨c, w', rfl⟩ := List.exists_cons_of_ne_nil nonempty
    obtain ⟨d, e, pieceEq, -⟩ := escapedPiece_cons true c
    simp only [List.flatMap_cons, pieceEq, List.length_append, List.length_cons] at longer ⊢
    omega
  rw [mlbQuotedRuns.eq_1, opt_of_ok quotes]
  simp only [opt_of_ok read, more, if_pos shorter]
  rw [← joined, String.append_assoc, String.append_assoc]


/-- A body that is only quotes, at most two, is no run inside the string. -/
theorem mlbQuotedRuns_quotes {n : Nat} (small : n ≤ 2) (acc : String) (rest : List Char) :
    mlbQuotedRuns acc ((escapeBasic true (List.replicate n '"') 0).toList ++ '"' :: '"' :: '"' :: rest) =
      .ok (acc ++ String.ofList [], List.replicate n '"' ++ '"' :: '"' :: '"' :: rest) := by
  have written : (escapeBasic true (List.replicate n '"') 0).toList = List.replicate n '"' := by
    revert n
    decide
  have moved : List.replicate n '"' ++ '"' :: '"' :: '"' :: rest =
      '"' :: '"' :: '"' :: (List.replicate n '"' ++ rest) := by
    match n, small with
    | 0, _ | 1, _ | 2, _ => rfl
  rw [written, String.ofList_nil, String.append_empty, moved]
  exact mlbQuotedRuns_at_close acc _

/-- The bare quotes of a multi-line body and the text between them are read back; what is left
are the quotes just before the closing delimiter, at most two. The induction is on the length
of the body from its first bare quote on. -/
theorem mlbQuotedRuns_written {rest : List Char} (t : List Char) (start : ∀ d ∈ t.head?, d = '"')
    (acc : String) :
    ∃ body n, n ≤ 2 ∧ t = body ++ List.replicate n '"' ∧
      mlbQuotedRuns acc ((escapeBasic true t 0).toList ++ '"' :: '"' :: '"' :: rest) =
        .ok (acc ++ String.ofList body, List.replicate n '"' ++ '"' :: '"' :: '"' :: rest) := by
  induction hs : t.length using Nat.strongRecOn generalizing t acc with
  | ind m inductionHypothesis =>
    have chunk : ∀ (qs : List Char) (d : Char) (t' cs : List Char), t = qs ++ d :: t' →
        innerQuotes '"' (noneOf '"') cs = .ok (String.ofList qs,
          escapedPiece true d ++ (escapeBasic true t' 0).toList ++ '"' :: '"' :: '"' :: rest) →
        (escapedPiece true d ++ (escapeBasic true t' 0).toList ++ '"' :: '"' :: '"' :: rest).length ≤
          cs.length →
        ∃ body n, n ≤ 2 ∧ t = body ++ List.replicate n '"' ∧
          mlbQuotedRuns acc cs =
            .ok (acc ++ String.ofList body, List.replicate n '"' ++ '"' :: '"' :: '"' :: rest) := by
      intro qs d t' cs tEq quotes longer
      obtain ⟨r, rEq⟩ := escapeBasic_multi_quote_start (head_dropWhile_quote '"' t') ('"' :: '"' :: rest)
      have written : escapedPiece true d ++ (escapeBasic true t' 0).toList ++ '"' :: '"' :: '"' :: rest =
          (d :: t'.takeWhile (· != '"')).flatMap (escapedPiece true) ++ '"' :: r := by
        rw [escapeBasic_multi_split t', List.flatMap_cons, ← rEq]
        simp only [List.append_assoc]
      rw [written] at quotes longer
      rw [mlbQuotedRuns_step (List.cons_ne_nil _ _) quotes longer, ← rEq]
      have shorter : (t'.dropWhile (· != '"')).length < m := by
        have := (List.dropWhile_suffix (l := t') (· != '"')).length_le
        rw [← hs, tEq, List.length_append, List.length_cons]
        omega
      obtain ⟨body, n, small, restEq, read⟩ := inductionHypothesis _ shorter
        (t'.dropWhile (· != '"')) (head_dropWhile_quote '"' t')
        (acc ++ String.ofList qs ++ String.ofList (d :: t'.takeWhile (· != '"'))) rfl
      refine ⟨qs ++ d :: t'.takeWhile (· != '"') ++ body, n, small, ?_, ?_⟩
      · have whole : t'.takeWhile (· != '"') ++ (body ++ List.replicate n '"') = t' := by
          rw [← restEq, List.takeWhile_append_dropWhile]
        rw [tEq]
        simp only [List.append_assoc, List.cons_append, whole]
      · rw [read]
        simp [String.ofList_append, String.append_assoc]
    cases t with
    | nil => exact ⟨[], 0, by omega, rfl, @mlbQuotedRuns_quotes 0 (by omega) acc rest⟩
    | cons c t₁ =>
      obtain rfl : c = '"' := start c rfl
      cases t₁ with
      | nil => exact ⟨[], 1, by omega, rfl, @mlbQuotedRuns_quotes 1 (by omega) acc rest⟩
      | cons c₁ t₂ =>
        by_cases second : c₁ = '"'
        · subst second
          cases t₂ with
          | nil => exact ⟨[], 2, by omega, rfl, @mlbQuotedRuns_quotes 2 (by omega) acc rest⟩
          | cons c₂ t₃ =>
            have written : (escapeBasic true ('"' :: '"' :: c₂ :: t₃) 0).toList =
                '"' :: '"' :: (escapedPiece true c₂ ++ (escapeBasic true t₃ 0).toList) := by
              rw [(escapeBasic_quotes _).1, String.toList_append, (escapeBasic_quotes _).2.1,
                String.toList_append, escapeBasic_multi_cons (.inr rfl)]
              rfl
            obtain ⟨d, e, pieceEq, notQuote, -⟩ := escapedPiece_cons true c₂
            apply chunk ['"', '"'] c₂ t₃ _ rfl
            · rw [written, List.cons_append, List.cons_append, List.append_assoc, pieceEq,
                List.cons_append]
              exact innerQuotes_two (noneOf_of notQuote _)
            · simp only [written, List.length_append, List.length_cons]
              omega
        · -- one bare quote, then a character that is no quote
          have written : (escapeBasic true ('"' :: c₁ :: t₂) 0).toList =
              '"' :: (escapedPiece true c₁ ++ (escapeBasic true t₂ 0).toList) := by
            rw [(escapeBasic_quotes _).1, String.toList_append, escapeBasic_multi_cons (.inl second)]
            rfl
          obtain ⟨d, e, pieceEq, notQuote, -⟩ := escapedPiece_cons true c₁
          apply chunk ['"'] c₁ t₂ _ rfl
          · rw [written, List.cons_append, List.append_assoc, pieceEq, List.cons_append]
            exact innerQuotes_one (secondQuote_soft_of_ne fun d' head => by cases head; exact notQuote)
              (noneOf_of notQuote _)
          · simp only [written, List.length_append, List.length_cons]
            omega



/-- A multi-line body without line breaks does not start with one. -/
theorem escapeBasic_multi_head {s : List Char} (noBreak : '\n' ∉ s) (x : List Char) :
    ∃ d r, (escapeBasic true s 0).toList ++ '"' :: x = d :: r ∧ d ≠ '\n' ∧ d ≠ '\r' := by
  cases s with
  | nil => exact ⟨'"', x, rfl, by decide, by decide⟩
  | cons c s =>
    by_cases quote : c = '"'
    · subst quote
      exact ⟨'"', _, by rw [(escapeBasic_quotes s).1, String.toList_append]; rfl, by decide,
        by decide⟩
    · obtain ⟨d, e, pieceEq, -, notReturn, onlyBreak⟩ := escapedPiece_cons true c
      refine ⟨d, e ++ (escapeBasic true s 0).toList ++ '"' :: x, ?_, ?_, notReturn⟩
      · rw [escapeBasic_multi_cons (.inl quote), pieceEq]
        simp
      · rintro rfl
        exact noBreak (by simp [onlyBreak rfl])

/-- A multi-line basic body as the writer puts it down reads back to its text, up to the
closing delimiter. -/
theorem mlbBody_written {rest : List Char} (closed : ∀ d ∈ rest.head?, d ≠ '"') (s : List Char) :
    mlbBody ((escapeBasic true s 0).toList ++ '"' :: '"' :: '"' :: rest) =
      .ok (String.ofList s, '"' :: '"' :: '"' :: rest) := by
  obtain ⟨r, rEq⟩ := escapeBasic_multi_quote_start (head_dropWhile_quote '"' s) ('"' :: '"' :: rest)
  obtain ⟨parts, reads, joined⟩ := mlbContent_reads.reads (mlbContent_quote_soft r)
    (fun e head => by cases head; rfl) (s.takeWhile (· != '"'))
  obtain ⟨body, n, small, restEq, runs⟩ :=
    @mlbQuotedRuns_written rest (s.dropWhile (· != '"')) (head_dropWhile_quote '"' s) (String.join parts)
  obtain ⟨tail, tailRead, tailEq⟩ := innerTail_written tripleDouble small closed
  rw [rEq] at runs
  rw [escapeBasic_multi_split, List.append_assoc, rEq, mlbBody, bind_of_ok (many_of_reads reads), bind_of_ok runs, bind_of_ok tailRead, tailEq,
    joined, ← String.ofList_append, ← String.ofList_append, List.append_assoc, ← restEq,
    List.takeWhile_append_dropWhile]
  rfl

/-- A multi-line basic string as the writer puts it down, with the line break put after the
opening delimiter when the text breaks lines, reads back to its text. -/
theorem mlBasicString_written {rest : List Char} (closed : ∀ d ∈ rest.head?, d ≠ '"')
    (s : List Char) :
    mlBasicString ('"' :: '"' :: '"' :: ((if '\n' ∈ s then ['\n'] else []) ++
      (escapeBasic true s 0).toList ++ '"' :: '"' :: '"' :: rest)) = .ok (String.ofList s, rest) := by
  obtain ⟨dropped, lead⟩ : ∃ dropped, opt newline ((if '\n' ∈ s then ['\n'] else []) ++
      ((escapeBasic true s 0).toList ++ '"' :: '"' :: '"' :: rest)) =
      .ok (dropped, (escapeBasic true s 0).toList ++ '"' :: '"' :: '"' :: rest) := by
    by_cases breaks : '\n' ∈ s
    · exact ⟨some (), by rw [if_pos breaks]; exact opt_of_ok rfl⟩
    · obtain ⟨d, r, headEq, notBreak, notReturn⟩ := escapeBasic_multi_head breaks ('"' :: '"' :: rest)
      rw [if_neg breaks, List.nil_append, headEq]
      exact ⟨none, opt_of_soft (newline_soft notBreak notReturn r)⟩
  rw [mlBasicString, List.append_assoc]
  apply label_of_ok
  rw [bind_of_ok (literal_triple tripleDouble _), bind_of_ok lead,
    bind_of_ok (cut_of_ok (mlbBody_written closed s)),
    bind_of_ok (cut_of_ok (literal_triple tripleDouble rest))]
  rfl

/-! ## Multi-line literal strings -/

theorem tripleSingle : "'''".toList = ['\'', '\'', '\''] := rfl

theorem mllContent_of {c : Char} (readable : isLiteralChar c = true ∨ c = '\n') (x : List Char) :
    mllContent (c :: x) = .ok ((), x) := by
  rcases readable with literalChar | rfl
  · exact alt_of_ok (void_of_ok (satisfy_of literalChar x))
  · rw [mllContent, alt_of_soft ((satisfy_soft fun d head => by cases head; rfl).void)]
    rfl

theorem mllContent_quote_soft (x : List Char) : FailsSoftly mllContent ('\'' :: x) :=
  ((satisfy_soft fun d head => by cases head; rfl).void).alt
    (newline_soft (by decide) (by decide) x)

/-- The characters of a multi-line literal body other than single quotes are read one at a
time. -/
theorem mllContent_reads {u x : List Char} (readable : ∀ c ∈ u, isLiteralChar c = true ∨ c = '\n')
    (stops : FailsSoftly mllContent x) : Reads mllContent (u ++ x) (u.map fun _ => ()) x :=
  reads_each (fun c mem => mllContent_of (readable c mem)) stops

theorem mllRun_soft_at_close (x : List Char) :
    FailsSoftly (do let _ ← innerQuotes '\'' (noneOf '\''); many1 mllContent)
      ('\'' :: '\'' :: '\'' :: x) :=
  (innerQuotes_soft_at_close '\'' x).bind _

/-- The runs of single quotes of a multi-line literal body, each with the text up to the next
run, are read back; what is left are the quotes just before the closing delimiter, at most two.
The body holds no three single quotes in a row. -/
theorem mllRuns_written {rest : List Char} (v : List Char) (start : ∀ d ∈ v.head?, d = '\'')
    (chars : ∀ c ∈ v, (isLiteralChar c = true ∨ c = '\n') ∨ c = '\'')
    (noTriple : ¬ List.replicate 3 '\'' <:+: v) :
    ∃ runs n, n ≤ 2 ∧ Reads (do let _ ← innerQuotes '\'' (noneOf '\''); many1 mllContent)
      (v ++ '\'' :: '\'' :: '\'' :: rest) runs (List.replicate n '\'' ++ '\'' :: '\'' :: '\'' :: rest) := by
  induction hs : v.length using Nat.strongRecOn generalizing v with
  | ind m inductionHypothesis =>
    have chunk : ∀ (qs : String) (c : Char) (v' : List Char), c ≠ '\'' → c :: v' <:+ v →
        (c :: v').length < v.length →
        innerQuotes '\'' (noneOf '\'') (v ++ '\'' :: '\'' :: '\'' :: rest) =
          .ok (qs, c :: v' ++ '\'' :: '\'' :: '\'' :: rest) →
        ∃ runs n, n ≤ 2 ∧ Reads (do let _ ← innerQuotes '\'' (noneOf '\''); many1 mllContent)
          (v ++ '\'' :: '\'' :: '\'' :: rest) runs
          (List.replicate n '\'' ++ '\'' :: '\'' :: '\'' :: rest) := by
      intro qs c v' other suffix shorter quotes
      let w := v'.dropWhile (· != '\'')
      have whole : v'.takeWhile (· != '\'') ++ w = v' := List.takeWhile_append_dropWhile
      have readable : ∀ d ∈ c :: v'.takeWhile (· != '\''), isLiteralChar d = true ∨ d = '\n' := by
        intro d mem
        have inV : d ∈ v := suffix.subset (by
          rcases List.mem_cons.mp mem with rfl | inRun
          · exact List.mem_cons_self
          · exact List.mem_cons_of_mem c (List.takeWhile_sublist _ |>.subset inRun))
        have notQuote : d ≠ '\'' := by
          rcases List.mem_cons.mp mem with rfl | inRun
          · exact other
          · exact quoteFree_takeWhile '\'' v' d inRun
        simpa [notQuote] using chars d inV
      obtain ⟨x, xEq⟩ : ∃ x, w ++ '\'' :: '\'' :: '\'' :: rest = '\'' :: x := by
        cases wEq : w with
        | nil => exact ⟨_, rfl⟩
        | cons d w' =>
          obtain rfl : d = '\'' := head_dropWhile_quote '\'' v' d
            (by rw [show v'.dropWhile (· != '\'') = d :: w' from wEq]; rfl)
          exact ⟨_, rfl⟩
      have chunkReads := many1_of_reads (mllContent_reads readable (xEq ▸ mllContent_quote_soft x))
      have wSuffix : w <:+ v := (List.dropWhile_suffix _).trans ((List.suffix_cons c v').trans suffix)
      have wShorter : w.length < m := by
        show (v'.dropWhile (· != '\'')).length < m
        have := (List.dropWhile_suffix (l := v') (· != '\'')).length_le
        simp only [List.length_cons] at shorter
        omega
      obtain ⟨runs, n, small, reads⟩ := inductionHypothesis w.length wShorter w
        (head_dropWhile_quote '\'' v') (fun d mem => chars d (wSuffix.subset mem))
        (fun triple => noTriple (triple.trans wSuffix.isInfix)) rfl
      refine ⟨((c :: v'.takeWhile (· != '\'')).map fun _ => ()) :: runs, n, small,
        .next ?_ ?_ reads⟩
      · have split : c :: v' ++ '\'' :: '\'' :: '\'' :: rest =
            c :: v'.takeWhile (· != '\'') ++ (w ++ '\'' :: '\'' :: '\'' :: rest) := by
          rw [List.cons_append, List.cons_append, ← List.append_assoc, whole]
        rw [bind_of_ok quotes, split]
        exact chunkReads
      · have := (List.dropWhile_suffix (l := v') (· != '\'')).length_le
        simp only [List.length_append, List.length_cons] at shorter ⊢
        omega
    cases v with
    | nil => exact ⟨[], 0, by omega, .stop (mllRun_soft_at_close rest)⟩
    | cons c v₁ =>
      obtain rfl : c = '\'' := start c rfl
      cases v₁ with
      | nil => exact ⟨[], 1, by omega, .stop (mllRun_soft_at_close ('\'' :: rest))⟩
      | cons c₁ v₂ =>
        by_cases second : c₁ = '\''
        · subst second
          cases v₂ with
          | nil => exact ⟨[], 2, by omega, .stop (mllRun_soft_at_close ('\'' :: '\'' :: rest))⟩
          | cons c₂ v₃ =>
            have third : c₂ ≠ '\'' := by
              rintro rfl
              exact noTriple (List.prefix_append ['\'', '\'', '\''] v₃).isInfix
            exact chunk _ c₂ v₃ third ((List.suffix_cons _ _).trans (List.suffix_cons _ _))
              (by simp) (innerQuotes_two (noneOf_of third _))
        · exact chunk _ c₁ v₂ second (List.suffix_cons _ _) (by simp)
            (innerQuotes_one (secondQuote_soft_of_ne fun d head => by cases head; exact second)
              (noneOf_of second _))

/-- A text without carriage returns has no line break to normalize. -/
theorem normalizeBreaks_of_no_return : ∀ {s : List Char}, '\r' ∉ s → normalizeBreaks s = s
  | [], _ => rfl
  | c :: t, noReturn => by
    have other : c ≠ '\r' := fun same => noReturn (by simp [same])
    have kept := normalizeBreaks_of_no_return (s := t) fun inT => noReturn (by simp [inT])
    have step : normalizeBreaks (c :: t) = c :: normalizeBreaks t := by
      cases t <;> simp [normalizeBreaks, other]
    rw [step, kept]

/-- A multi-line literal body as the writer puts it down reads back to its text, up to the
closing delimiter. -/
theorem mllBody_written {rest : List Char} (closed : ∀ d ∈ rest.head?, d ≠ '\'') {s : List Char}
    (chars : ∀ c ∈ s, (isLiteralChar c = true ∨ c = '\n') ∨ c = '\'')
    (noTriple : ¬ List.replicate 3 '\'' <:+: s) :
    mllBody (s ++ '\'' :: '\'' :: '\'' :: rest) = .ok (String.ofList s, '\'' :: '\'' :: '\'' :: rest) := by
  let v := s.dropWhile (· != '\'')
  have whole : s.takeWhile (· != '\'') ++ v = s := List.takeWhile_append_dropWhile
  have vSuffix : v <:+ s := List.dropWhile_suffix _
  have readable : ∀ d ∈ s.takeWhile (· != '\''), isLiteralChar d = true ∨ d = '\n' := by
    intro d mem
    simpa [quoteFree_takeWhile '\'' s d mem] using chars d (List.takeWhile_sublist _ |>.subset mem)
  obtain ⟨runs, n, small, reads⟩ := @mllRuns_written rest v (head_dropWhile_quote '\'' s)
    (fun d mem => chars d (vSuffix.subset mem)) (fun triple => noTriple (triple.trans vSuffix.isInfix))
  obtain ⟨x, xEq⟩ : ∃ x, v ++ '\'' :: '\'' :: '\'' :: rest = '\'' :: x := by
    cases vEq : v with
    | nil => exact ⟨_, rfl⟩
    | cons d v' =>
      obtain rfl : d = '\'' := head_dropWhile_quote '\'' s d
        (by rw [show s.dropWhile (· != '\'') = d :: v' from vEq]; rfl)
      exact ⟨_, rfl⟩
  have first := many_of_reads (mllContent_reads readable (xEq ▸ mllContent_quote_soft x))
  obtain ⟨tail, tailRead, -⟩ := innerTail_written tripleSingle small closed
  have inner : (do
      let _ ← many mllContent
      let _ ← many (do let _ ← innerQuotes '\'' (noneOf '\''); many1 mllContent)
      let _ ← opt (innerQuotes '\'' (literal "\'\'\'"))
      pure () : Parser Unit) (s ++ '\'' :: '\'' :: '\'' :: rest) = .ok ((), '\'' :: '\'' :: '\'' :: rest) := by
    rw [← whole, List.append_assoc, bind_of_ok first, bind_of_ok (many_of_reads reads),
      bind_of_ok tailRead]
    rfl
  have noReturn : '\r' ∉ s := fun inS => absurd (chars '\r' inS) (by decide)
  rw [mllBody, map_of_ok (consumed_of_ok inner), normalizeBreaks_of_no_return noReturn]

/-- A multi-line literal string as the writer puts it down, with the line break put after the
opening delimiter when the text breaks lines, reads back to its text. -/
theorem mlLiteralString_written {rest : List Char} (closed : ∀ d ∈ rest.head?, d ≠ '\'')
    {s : List Char} (chars : ∀ c ∈ s, (isLiteralChar c = true ∨ c = '\n') ∨ c = '\'')
    (noTriple : ¬ List.replicate 3 '\'' <:+: s) :
    mlLiteralString ('\'' :: '\'' :: '\'' :: ((if '\n' ∈ s then ['\n'] else []) ++ s ++
      '\'' :: '\'' :: '\'' :: rest)) = .ok (String.ofList s, rest) := by
  obtain ⟨dropped, lead⟩ : ∃ dropped, opt newline ((if '\n' ∈ s then ['\n'] else []) ++
      (s ++ '\'' :: '\'' :: '\'' :: rest)) = .ok (dropped, s ++ '\'' :: '\'' :: '\'' :: rest) := by
    by_cases breaks : '\n' ∈ s
    · exact ⟨some (), by rw [if_pos breaks]; exact opt_of_ok rfl⟩
    · rw [if_neg breaks, List.nil_append]
      cases s with
      | nil => exact ⟨none, opt_of_soft (newline_soft (by decide) (by decide) _)⟩
      | cons c s =>
        have notBreak : c ≠ '\n' := fun same => breaks (by simp [same])
        have notReturn : c ≠ '\r' := by
          rintro rfl
          exact absurd (chars '\r' (by simp)) (by decide)
        exact ⟨none, opt_of_soft (newline_soft notBreak notReturn _)⟩
  rw [mlLiteralString, List.append_assoc]
  apply label_of_ok
  rw [bind_of_ok (literal_triple tripleSingle _), bind_of_ok lead,
    bind_of_ok (cut_of_ok (mllBody_written closed chars noTriple)),
    bind_of_ok (cut_of_ok (literal_triple tripleSingle rest))]
  rfl

/-! ## The strings the writer puts down -/

/-- A character that is no stray control is one a literal string holds, a line break or a
single quote. -/
theorem literalChar_of_not_strayControl {c : Char} (quiet : isStrayControl c = false) :
    (isLiteralChar c = true ∨ c = '\n') ∨ c = '\'' := by
  by_cases quote : c = '\''
  · exact .inr quote
  by_cases lineBreak : c = '\n'
  · exact .inl (.inr lineBreak)
  refine .inl (.inl ?_)
  by_cases tab : c = '\t'
  · subst tab
    decide
  have visible : 0x1F < c.toNat ∧ c.toNat ≠ 0x7F := by
    apply Decidable.byContradiction
    intro control
    have stray : isStrayControl c = true := by
      simp only [isStrayControl, Bool.and_eq_true, bne_iff_ne, ne_eq, Bool.or_eq_true,
        decide_eq_true_eq, beq_iff_eq]
      exact ⟨⟨tab, lineBreak⟩, by omega⟩
    simp [stray] at quiet
  simp only [isLiteralChar, isCommentChar, isNonAscii, Bool.and_eq_true, Bool.or_eq_true,
    beq_iff_eq, decide_eq_true_eq, bne_iff_ne, ne_eq]
  by_cases high : 0x80 ≤ c.toNat
  · exact ⟨.inr high, quote⟩
  · exact ⟨.inl (.inr ⟨by omega, by omega⟩), quote⟩

/-- The line break the writer puts after the opening delimiter of a multi-line string. -/
theorem lead_toList (text : String) :
    (if (TextMetrics.of text).newline = true then "\n" else "").toList =
      if '\n' ∈ text.toList then ['\n'] else [] := by
  by_cases breaks : '\n' ∈ text.toList
  · rw [if_pos (newline_iff.mpr breaks), if_pos breaks]
    rfl
  · rw [if_neg (mt newline_iff.mp breaks), if_neg breaks]
    rfl

/-- A multi-line reader gives up softly where its opening delimiter is not. -/
theorem mlBasicString_soft {x : List Char} (notOpening : ¬ ['"', '"', '"'] <+: x) :
    FailsSoftly mlBasicString x := by
  refine FailsSoftly.label (FailsSoftly.bind ?_ _) _
  exact literal_soft (by rw [tripleDouble]; exact notOpening)

theorem mlLiteralString_soft {x : List Char} (notOpening : ¬ ['\'', '\'', '\''] <+: x) :
    FailsSoftly mlLiteralString x := by
  refine FailsSoftly.label (FailsSoftly.bind ?_ _) _
  exact literal_soft (by rw [tripleSingle]; exact notOpening)

theorem basicString_soft {d : Char} (other : d ≠ '"') (x : List Char) :
    FailsSoftly basicString (d :: x) :=
  (char_soft fun e head => by cases head; exact other).bind _

/-- What the writer puts down for a text, read by the string reader, is the text, and the
reader stops right after it when no quote follows. -/
theorem string_quoteString (text : String) {rest : List Char}
    (closed : ∀ d ∈ rest.head?, d ≠ '"' ∧ d ≠ '\'') :
    string ((quoteString text).toList ++ rest) = .ok (text, rest) := by
  have closedDouble : ∀ d ∈ rest.head?, d ≠ '"' := fun d head => (closed d head).1
  have closedSingle : ∀ d ∈ rest.head?, d ≠ '\'' := fun d head => (closed d head).2
  cases form : (TextMetrics.of text).form with
  | basic =>
    have written : (quoteString text).toList ++ rest =
        '"' :: (escapeBasic false text.toList 0).toList ++ '"' :: rest := by
      simp [quoteString, form]
    have notOpening : ¬ ['"', '"', '"'] <+: '"' :: (escapeBasic false text.toList 0).toList ++
        '"' :: rest := by
      rw [escapeBasic_single]
      rintro ⟨y, extended⟩
      cases textEq : text.toList with
      | nil =>
        rw [textEq] at extended
        simp only [List.flatMap_nil, List.cons_append, List.nil_append, List.cons.injEq] at extended
        exact closedDouble '"' (by simp [← extended.2.2]) rfl
      | cons c t =>
        obtain ⟨d, e, pieceEq, notQuote, -⟩ := escapedPiece_cons false c
        rw [textEq] at extended
        simp only [List.flatMap_cons, pieceEq, List.cons_append, List.cons.injEq] at extended
        exact notQuote extended.2.1.symm
    rw [written, string, alt_of_soft (mlBasicString_soft notOpening),
      alt_of_ok (basicString_written _ rest), String.ofList_toList]
  | literal =>
    obtain ⟨quiet, noSingle, noBreak⟩ := form_literal form
    have written : (quoteString text).toList ++ rest = '\'' :: (text.toList ++ '\'' :: rest) := by
      simp [quoteString, form]
    have noQuote : '\'' ∉ text.toList := fun inText => by
      obtain ⟨before, after, split⟩ := List.append_of_mem inText
      have oneQuote : List.replicate 1 '\'' <:+: text.toList := ⟨before, after, by simp [split]⟩
      have run := TextMetrics.le_longestSingle_of_infix oneQuote
      rw [String.ofList_toList, noSingle] at run
      omega
    have literalChars : ∀ c ∈ text.toList, isLiteralChar c = true := fun c mem => by
      rcases literalChar_of_not_strayControl (no_strayControl quiet c mem) with (literal | rfl) | rfl
      · exact literal
      · exact absurd (newline_iff.mpr mem) (by simp [noBreak])
      · exact absurd mem noQuote
    have nonempty : text.toList ≠ [] := fun empty => by
      have fresh : TextMetrics.of text = {} := by simp [TextMetrics.of, empty]
      rw [fresh] at form
      exact absurd form (by decide)
    obtain ⟨c, t, textEq⟩ := List.exists_cons_of_ne_nil nonempty
    have notOpening : ¬ ['\'', '\'', '\''] <+: '\'' :: (text.toList ++ '\'' :: rest) := by
      rw [textEq]
      exact fun before => not_prefix_of_head (fun same => noQuote (by simp [textEq, same])) _ _
        (List.cons_prefix_cons.mp before).2
    rw [written, string, alt_of_soft (mlBasicString_soft (not_prefix_of_head (by decide) _ _)),
      alt_of_soft (basicString_soft (by decide) _), alt_of_soft (mlLiteralString_soft notOpening),
      ← List.cons_append, literalString_written literalChars rest, String.ofList_toList]
  | multiBasic =>
    have written : (quoteString text).toList ++ rest =
        '"' :: '"' :: '"' :: ((if '\n' ∈ text.toList then ['\n'] else []) ++
          (escapeBasic true text.toList 0).toList ++ '"' :: '"' :: '"' :: rest) := by
      simp [quoteString, form, lead_toList]
    rw [written, string, alt_of_ok (mlBasicString_written closedDouble _), String.ofList_toList]
  | multiLiteral =>
    have written : (quoteString text).toList ++ rest =
        '\'' :: '\'' :: '\'' :: ((if '\n' ∈ text.toList then ['\n'] else []) ++
          text.toList ++ '\'' :: '\'' :: '\'' :: rest) := by
      simp [quoteString, form, lead_toList]
    obtain ⟨quiet, short⟩ := form_multiLiteral form
    have chars : ∀ c ∈ text.toList, (isLiteralChar c = true ∨ c = '\n') ∨ c = '\'' :=
      fun c mem => literalChar_of_not_strayControl (no_strayControl quiet c mem)
    have noTriple : ¬ List.replicate 3 '\'' <:+: text.toList := fun triple => by
      have run := TextMetrics.le_longestSingle_of_infix triple
      rw [String.ofList_toList] at run
      omega
    rw [written, string, alt_of_soft (mlBasicString_soft (not_prefix_of_head (by decide) _ _)),
      alt_of_soft (basicString_soft (by decide) _),
      alt_of_ok (mlLiteralString_written closedSingle chars noTriple), String.ofList_toList]

end Toml

end Unwinding
