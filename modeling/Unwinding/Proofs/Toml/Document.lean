import Unwinding.Proofs.Toml.Numbers
import Unwinding.Proofs.Toml.Strings
import Unwinding.Toml.Reader

/-!
# Reading the lines of a document

A document is read statement by statement, each from the start of its line. This module
gives the reader's steps on the lines the configuration writer puts down: a header `[name]`
(`stdTable_line`), a pair `name = value` whose value ends the line (`keyval_line`), and an
empty line, and the loop over statements as one equation per kind of line
(`statementsFrom_header`, `statementsFrom_keyval`, `statementsFrom_newline`), so that a
whole document is read by rewriting along its lines. Values are a natural number's digits
(`value_toDigits`) and a written text (`value_quoteString`).
-/

namespace Unwinding

namespace Toml

open Unwinding.Parser

/-! ## Values at the end of their line -/

/-- A value that starts with a digit is a date, a float or an integer, tried in that order. -/
theorem valueWith_of_digit (nestedArray nestedTable : Parser Value) {c : Char}
    (digit : c.isDigit = true) (x : List Char) :
    valueWith nestedArray nestedTable (c :: x) =
      alt (dateTime.map .datetime) (alt (float.map .float) (integer.map .integer)) (c :: x) := by
  unfold valueWith
  split
  case h_1 _ tail start | h_2 _ tail start | h_3 _ tail start | h_4 _ tail start =>
    obtain ⟨rfl, -⟩ := List.cons.inj start
    exact absurd digit (by decide)
  case h_5 _ d tail _ _ _ _ start =>
    obtain ⟨rfl, rfl⟩ := List.cons.inj start
    simp [digit]
  case h_6 _ start => exact absurd start (List.cons_ne_nil c x)

/-- A number below `2^63` at the end of its line is read as that integer. -/
theorem valueWith_toDigits (nestedArray nestedTable : Parser Value) {n : Nat} (fits : n < 2 ^ 63)
    (rest : List Char) :
    valueWith nestedArray nestedTable (Nat.toDigits 10 n ++ '\n' :: rest) =
      .ok (.integer n, '\n' :: rest) := by
  have noDate : FailsSoftly dateTime (Nat.toDigits 10 n ++ '\n' :: rest) :=
    dateTime_soft (toDigits_isDigit n)
  obtain ⟨c, x, start, digit⟩ := toDigits_start n rest
  rw [start, valueWith_of_digit _ _ digit, ← start, alt_of_soft (noDate.map _),
    alt_of_soft ((float_soft_toDigits n rest).map _)]
  exact map_of_ok (integer_toDigits fits rest)

theorem value_toDigits (budget : Nat) {n : Nat} (fits : n < 2 ^ 63) (rest : List Char) :
    value budget (Nat.toDigits 10 n ++ '\n' :: rest) = .ok (.integer n, '\n' :: rest) := by
  cases budget <;> exact valueWith_toDigits _ _ fits rest

/-- What the writer puts down for a text starts with a quote of one of the two kinds. -/
theorem quoteString_start (text : String) (rest : List Char) :
    ∃ d x, (quoteString text).toList ++ rest = d :: x ∧ (d = '"' ∨ d = '\'') := by
  cases form : (TextMetrics.of text).form <;> simp [quoteString, form]

/-- A written text is read back as a string value when no quote follows it. -/
theorem valueWith_quoteString (nestedArray nestedTable : Parser Value) (text : String)
    {rest : List Char} (closed : ∀ d ∈ rest.head?, d ≠ '"' ∧ d ≠ '\'') :
    valueWith nestedArray nestedTable ((quoteString text).toList ++ rest) = .ok (.string text, rest) := by
  have read := string_quoteString text closed
  obtain ⟨d, x, start, quote⟩ := quoteString_start text rest
  rw [start] at read ⊢
  rcases quote with rfl | rfl
  · exact map_of_ok read
  · exact map_of_ok read

theorem value_quoteString (budget : Nat) (text : String) {rest : List Char}
    (closed : ∀ d ∈ rest.head?, d ≠ '"' ∧ d ≠ '\'') :
    value budget ((quoteString text).toList ++ rest) = .ok (.string text, rest) := by
  cases budget <;> exact valueWith_quoteString _ _ text closed

/-- A number's digits start with no blank. -/
theorem toDigits_not_blank (n : Nat) (rest : List Char) :
    ∀ d ∈ (Nat.toDigits 10 n ++ rest).head?, isWhitespace d = false := by
  cases digitsEq : Nat.toDigits 10 n with
  | nil => exact absurd digitsEq Nat.toDigits_ne_nil
  | cons c ds =>
    intro d head
    cases head
    have digit := toDigits_isDigit n c (by simp [digitsEq])
    simp only [isWhitespace, Bool.or_eq_false_iff, beq_eq_false_iff_ne, ne_eq]
    constructor <;> rintro rfl <;> exact absurd digit (by decide)

/-- A written text starts with a quote, not a blank. -/
theorem quoteString_not_blank (text : String) (rest : List Char) :
    ∀ d ∈ ((quoteString text).toList ++ rest).head?, isWhitespace d = false := by
  obtain ⟨d, x, start, quote⟩ := quoteString_start text rest
  rw [start]
  intro e head
  cases head
  rcases quote with rfl | rfl <;> rfl

/-! ## Blanks, keys and line ends -/

/-- A character of a bare key starts no comment, header or line break. -/
theorem keyChar_plain {c : Char} (keyChar : isUnquotedKeyChar c = true) :
    c ≠ '#' ∧ c ≠ '[' ∧ c ≠ '\n' ∧ c ≠ '\r' := by
  refine ⟨?_, ?_, ?_, ?_⟩ <;> rintro rfl <;> exact absurd keyChar (by decide)

theorem keyChar_not_whitespace {c : Char} (keyChar : isUnquotedKeyChar c = true) :
    isWhitespace c = false := by
  revert keyChar
  simp only [isUnquotedKeyChar, isWhitespace, Bool.or_eq_true, beq_iff_eq, Bool.or_eq_false_iff,
    beq_eq_false_iff_ne, ne_eq]
  rintro ((alphanum | rfl) | rfl)
  · constructor <;> rintro rfl <;> exact absurd alphanum (by decide)
  · decide
  · decide

/-- Where no blank stands, none is read. -/
theorem ws_none {cs : List Char} (ends : ∀ d ∈ cs.head?, isWhitespace d = false) :
    ws cs = .ok ((), cs) := by
  have read := takeWhile_exact (fun c (mem : c ∈ ([] : List Char)) => by cases mem) ends
  rw [List.nil_append] at read
  exact void_of_ok read

/-- Blanks up to something else are skipped. -/
theorem ws_blanks {blank rest : List Char} (blanks : ∀ c ∈ blank, isWhitespace c = true)
    (ends : ∀ d ∈ rest.head?, isWhitespace d = false) : ws (blank ++ rest) = .ok ((), rest) :=
  void_of_ok (takeWhile_exact blanks ends)

/-- A bare key is read up to the first character that cannot be in one. -/
theorem simpleKey_bare {word rest : List Char} (bare : ∀ c ∈ word, isUnquotedKeyChar c = true)
    (nonempty : word ≠ []) (ends : ∀ d ∈ rest.head?, isUnquotedKeyChar d = false) :
    simpleKey (word ++ rest) = .ok (String.ofList word, rest) := by
  obtain ⟨c, w, rfl⟩ := List.exists_cons_of_ne_nil nonempty
  have keyChar := bare c (by simp)
  unfold simpleKey
  split
  case h_1 _ tail start | h_2 _ tail start =>
    obtain ⟨rfl, -⟩ := List.cons.inj start
    exact absurd keyChar (by decide)
  case h_3 => exact map_of_ok (takeWhile1_exact nonempty bare ends)
  case h_4 _ start => exact absurd start (List.cons_ne_nil _ _)

/-- A key of one bare word, with blanks after it, before something that does not continue
the key. -/
theorem key_bare {word blank rest : List Char} (bare : ∀ c ∈ word, isUnquotedKeyChar c = true)
    (nonempty : word ≠ []) (blanks : ∀ c ∈ blank, isWhitespace c = true)
    (ends : ∀ d ∈ rest.head?, isUnquotedKeyChar d = false ∧ isWhitespace d = false ∧ d ≠ '.') :
    key (word ++ (blank ++ rest)) = .ok ([String.ofList word], rest) := by
  obtain ⟨c, w, rfl⟩ := List.exists_cons_of_ne_nil nonempty
  have noLead : ws (c :: w ++ (blank ++ rest)) = .ok ((), c :: w ++ (blank ++ rest)) :=
    ws_none fun d head => by cases head; exact keyChar_not_whitespace (bare c (by simp))
  have wordEnds : ∀ d ∈ (blank ++ rest).head?, isUnquotedKeyChar d = false := by
    cases blank with
    | nil => exact fun d head => (ends d head).1
    | cons b bs =>
      intro d head
      cases head
      cases keyChar : isUnquotedKeyChar b
      · rfl
      · exact absurd (blanks b (by simp)) (by simp [keyChar_not_whitespace keyChar])
  have one : (do ws; let k ← simpleKey; ws; pure k) (c :: w ++ (blank ++ rest)) =
      .ok (String.ofList (c :: w), rest) := by
    rw [bind_of_ok noLead, bind_of_ok (simpleKey_bare bare nonempty wordEnds),
      bind_of_ok (ws_blanks blanks fun d head => (ends d head).2.1)]
    rfl
  have noDot : FailsSoftly (char '.') rest := char_soft fun d head => (ends d head).2.2
  exact check_of_ok (label_of_ok (sepBy1_of_last one noDot))
    (by rw [List.length_singleton, if_pos (by decide)])

theorem endOfLine_newline (rest : List Char) : endOfLine ('\n' :: rest) = .ok ((), rest) := by
  have noBlank : ws ('\n' :: rest) = .ok ((), '\n' :: rest) :=
    ws_none fun d head => by cases head; rfl
  have noComment : FailsSoftly comment ('\n' :: rest) :=
    (char_soft fun d head => by cases head; decide).bind _
  refine expect_of_ok (expect_of_ok ?_)
  rw [lineTrailing, bind_of_ok noBlank, bind_of_ok (opt_of_soft noComment)]
  exact alt_of_ok rfl

/-! ## Lines of a document -/

/-- `word = v` on its line, for a bare key and a value read up to the line's end. -/
theorem keyval_line {word v rest : List Char} {val : Value}
    (bare : ∀ c ∈ word, isUnquotedKeyChar c = true) (nonempty : word ≠ [])
    (start : ∀ d ∈ (v ++ '\n' :: rest).head?, isWhitespace d = false)
    (reads : value nestingBudget (v ++ '\n' :: rest) = .ok (val, '\n' :: rest)) :
    keyval (word ++ ' ' :: '=' :: ' ' :: (v ++ '\n' :: rest)) =
      .ok (([String.ofList word], val), rest) := by
  have keys : key (word ++ ([' '] ++ '=' :: ' ' :: (v ++ '\n' :: rest))) =
      .ok ([String.ofList word], '=' :: ' ' :: (v ++ '\n' :: rest)) :=
    key_bare bare nonempty (fun c mem => by simp at mem; subst mem; rfl)
      (fun d head => by cases head; decide)
  rw [List.singleton_append] at keys
  have blank := ws_blanks (fun c (mem : c ∈ [' ']) => by simp at mem; subst mem; rfl) start
  rw [List.singleton_append] at blank
  have separator : keyvalSep ('=' :: ' ' :: (v ++ '\n' :: rest)) = .ok ((), ' ' :: (v ++ '\n' :: rest)) :=
    expect_of_ok (expect_of_ok (char_cons '=' _))
  rw [keyval, bind_of_ok keys]
  refine cut_of_ok ?_
  rw [bind_of_ok separator, bind_of_ok blank, bind_of_ok reads, bind_of_ok (endOfLine_newline rest)]
  rfl

/-- A header `[word]` on its line opens the table `word`. -/
theorem stdTable_line {st st' : DocState} {word rest : List Char}
    (bare : ∀ c ∈ word, isUnquotedKeyChar c = true) (nonempty : word ≠ [])
    (opens : st.openTable [String.ofList word] = .ok st') :
    stdTable st ('[' :: (word ++ ']' :: '\n' :: rest)) = .ok (st', rest) := by
  have keys : key (word ++ ([] ++ ']' :: '\n' :: rest)) =
      .ok ([String.ofList word], ']' :: '\n' :: rest) :=
    key_bare bare nonempty (fun c mem => by cases mem) (fun d head => by cases head; decide)
  rw [List.nil_append] at keys
  have closing : expect (.literal "]") (expect (.char '.') (cut (char ']'))) (']' :: '\n' :: rest) =
      .ok ((), '\n' :: rest) :=
    expect_of_ok (expect_of_ok (cut_of_ok (char_cons ']' _)))
  refine check_of_ok (show _ = Except.ok ([String.ofList word], rest) from ?_) (by rw [opens]; rfl)
  rw [bind_of_ok (char_cons '[' _), bind_of_ok (cut_of_ok keys), bind_of_ok closing,
    bind_of_ok (cut_of_ok (endOfLine_newline rest))]
  rfl

/-- A header that is not an array's is read as a table header. -/
theorem tableHeader_of_stdTable {st : DocState} {c : Char} {x : List Char} {y : DocState × List Char}
    (other : c ≠ '[') (read : stdTable st ('[' :: c :: x) = .ok y) :
    tableHeader st ('[' :: c :: x) = .ok y := by
  unfold tableHeader
  refine label_of_ok ?_
  split
  case h_1 _ tail start =>
    obtain ⟨-, second⟩ := List.cons.inj start
    exact absurd (List.cons.inj second).1 other
  case h_2 => exact read
  case h_3 _ notShort => exact absurd rfl (notShort '[' c x)

/-- A header `[word]` on its line, read as a table header. -/
theorem tableHeader_line {st st' : DocState} {word rest : List Char}
    (bare : ∀ c ∈ word, isUnquotedKeyChar c = true) (nonempty : word ≠ [])
    (opens : st.openTable [String.ofList word] = .ok st') :
    tableHeader st ('[' :: (word ++ ']' :: '\n' :: rest)) = .ok (st', rest) := by
  obtain ⟨c, w, rfl⟩ := List.exists_cons_of_ne_nil nonempty
  have other : c ≠ '[' := by
    rintro rfl
    exact absurd (bare '[' (by simp)) (by decide)
  exact tableHeader_of_stdTable other (stdTable_line bare nonempty opens)

/-! ## The statements of a document -/

theorem statementsFrom_nil (st : DocState) : statementsFrom st [] = .ok st := by
  rw [statementsFrom.eq_1]
  rfl

/-- Nothing to skip where no blank stands. -/
theorem dropWhile_blank_none {r : List Char} (ends : ∀ d ∈ r.head?, isWhitespace d = false) :
    r.dropWhile isWhitespace = r := by
  cases r with
  | nil => rfl
  | cons d r => simp [ends d rfl]

/-- After a header, the statements go on from the header's next line. -/
theorem statementsFrom_header {st st' : DocState} {x r : List Char}
    (read : tableHeader st ('[' :: x) = .ok (st', r)) (ends : ∀ d ∈ r.head?, isWhitespace d = false)
    (shorter : r.length < x.length + 1) :
    statementsFrom st ('[' :: x) = statementsFrom st' r := by
  rw [statementsFrom.eq_1 st]
  simp [cut_of_ok read, dropWhile_blank_none ends, shorter]

/-- After a key/value pair, the statements go on from the pair's next line. -/
theorem statementsFrom_keyval {st st' : DocState} {c : Char} {x r : List Char}
    (plain : c ≠ '#' ∧ c ≠ '[' ∧ c ≠ '\n' ∧ c ≠ '\r')
    (read : placedKeyval st (c :: x) = .ok (st', r)) (ends : ∀ d ∈ r.head?, isWhitespace d = false)
    (shorter : r.length < x.length + 1) :
    statementsFrom st (c :: x) = statementsFrom st' r := by
  obtain ⟨comment, header, lineFeed, carriage⟩ := plain
  rw [statementsFrom.eq_1 st]
  simp [comment, header, lineFeed, carriage, cut_of_ok read, dropWhile_blank_none ends, shorter]

/-- A line that starts with a bare key starts with no blank. -/
theorem keyLine_start {word : List Char} (bare : ∀ c ∈ word, isUnquotedKeyChar c = true)
    (nonempty : word ≠ []) (x : List Char) : ∀ d ∈ (word ++ x).head?, isWhitespace d = false := by
  obtain ⟨c, w, rfl⟩ := List.exists_cons_of_ne_nil nonempty
  intro d head
  cases head
  exact keyChar_not_whitespace (bare c (by simp))

/-- A header line opens its table, and the statements go on from the next line. -/
theorem statementsFrom_header_line {st st' : DocState} {word rest : List Char}
    (bare : ∀ c ∈ word, isUnquotedKeyChar c = true) (nonempty : word ≠ [])
    (opens : st.openTable [String.ofList word] = .ok st')
    (ends : ∀ d ∈ rest.head?, isWhitespace d = false) :
    statementsFrom st ('[' :: (word ++ ']' :: '\n' :: rest)) = statementsFrom st' rest :=
  statementsFrom_header (tableHeader_line bare nonempty opens) ends
    (by simp only [List.length_append, List.length_cons]; omega)

/-- A line `word = v` adds its pair to the table being filled, and the statements go on from
the next line. -/
theorem statementsFrom_keyval_line {st st' : DocState} {word v rest : List Char} {val : Value}
    (bare : ∀ c ∈ word, isUnquotedKeyChar c = true) (nonempty : word ≠ [])
    (start : ∀ d ∈ (v ++ '\n' :: rest).head?, isWhitespace d = false)
    (reads : value nestingBudget (v ++ '\n' :: rest) = .ok (val, '\n' :: rest))
    (adds : st.addKeyval [String.ofList word] val = .ok st')
    (ends : ∀ d ∈ rest.head?, isWhitespace d = false) :
    statementsFrom st (word ++ ' ' :: '=' :: ' ' :: (v ++ '\n' :: rest)) = statementsFrom st' rest := by
  have read : placedKeyval st (word ++ ' ' :: '=' :: ' ' :: (v ++ '\n' :: rest)) = .ok (st', rest) :=
    check_of_ok (keyval_line bare nonempty start reads) (by dsimp only; rw [adds]; rfl)
  obtain ⟨c, w, rfl⟩ := List.exists_cons_of_ne_nil nonempty
  refine statementsFrom_keyval (keyChar_plain (bare c (by simp))) read ends ?_
  simp only [List.append_eq, List.length_append, List.length_cons]
  omega

/-- An empty line is passed over. -/
theorem statementsFrom_newline (st : DocState) (x : List Char) :
    statementsFrom st ('\n' :: x) = statementsFrom st (x.dropWhile isWhitespace) := by
  rw [statementsFrom.eq_1 st]
  have shorter : (x.dropWhile isWhitespace).length < x.length + 1 :=
    Nat.lt_succ_of_le (List.dropWhile_suffix _).length_le
  simp [newline, shorter]

end Toml

end Unwinding
