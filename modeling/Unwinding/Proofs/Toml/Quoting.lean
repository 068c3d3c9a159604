import Mathlib.Tactic.SplitIfs
import Unwinding.Toml.Lexical
import Unwinding.Toml.Quoting

/-!
# What the string writer puts down

The writer of TOML strings measures a text, picks one of four forms, and in the basic forms
puts each character down as itself, as an escape, or (in a multi-line string) as a line
break. This module states that choice in terms of the text's characters: which characters a
form may hold (`form_literal`, `form_multiLiteral`), and what each character becomes
(`escapeBasic_cons_of_ne`, `escapeBasic_quotes`). The readers are run on these pieces in
`Unwinding.Proofs.Toml.Strings`.
-/

namespace Unwinding

namespace Toml

/-! ## The measure of a text -/

/-- A control character other than tab and line break. -/
def isStrayControl (c : Char) : Bool :=
  c != '\t' && c != '\n' && (c.toNat ≤ 0x1F || c.toNat == 0x7F)

namespace TextMetrics

variable (m : TextMetrics) (c : Char)

@[simp] theorem step_controls : (m.step c).controls = (m.controls || isStrayControl c) := by
  by_cases backslash : c = '\\'
  · subst backslash; simp [step, isStrayControl]
  by_cases tab : c = '\t'
  · subst tab; simp [step, isStrayControl]
  by_cases lineBreak : c = '\n'
  · subst lineBreak; simp [step, isStrayControl]
  by_cases control : c.toNat ≤ 0x1F ∨ c.toNat = 0x7F
  · simp [step, isStrayControl, backslash, tab, lineBreak, control]
  · have quiet : (decide (c.toNat ≤ 0x1F) || c.toNat == 0x7F) = false := by
      simp only [Bool.or_eq_false_iff, decide_eq_false_iff_not, beq_eq_false_iff_ne]
      omega
    simp [step, isStrayControl, backslash, tab, lineBreak, quiet]

@[simp] theorem step_newline : (m.step c).newline = (m.newline || c == '\n') := by
  by_cases lineBreak : c = '\n'
  · subst lineBreak; simp [step]
  · simp only [step, beq_iff_eq]
    split_ifs <;> simp_all

@[simp] theorem step_singleRun : (m.step c).singleRun = if c = '\'' then m.singleRun + 1 else 0 := by
  simp only [step, beq_iff_eq]
  split_ifs <;> rfl

@[simp] theorem step_longestSingle :
    (m.step c).longestSingle = max m.longestSingle (if c = '\'' then m.singleRun + 1 else 0) := by
  simp only [step, beq_iff_eq]
  split_ifs <;> rfl

/-- A text has a stray control character exactly when its measure says so. -/
theorem foldl_controls (l : List Char) :
    (l.foldl step m).controls = (m.controls || l.any isStrayControl) := by
  induction l generalizing m with
  | nil => simp
  | cons c rest inductionHypothesis =>
    rw [List.foldl_cons, inductionHypothesis, step_controls, List.any_cons, Bool.or_assoc]

theorem foldl_newline (l : List Char) :
    (l.foldl step m).newline = (m.newline || l.any (· == '\n')) := by
  induction l generalizing m with
  | nil => simp
  | cons c rest inductionHypothesis =>
    rw [List.foldl_cons, inductionHypothesis, step_newline, List.any_cons, Bool.or_assoc]

/-- The longest run of single quotes only grows. -/
theorem le_foldl_longestSingle (l : List Char) :
    m.longestSingle ≤ (l.foldl step m).longestSingle := by
  induction l generalizing m with
  | nil => simp
  | cons c rest inductionHypothesis =>
    rw [List.foldl_cons]
    have grown : m.longestSingle ≤ (m.step c).longestSingle := by
      rw [step_longestSingle]
      exact Nat.le_max_left _ _
    exact Nat.le_trans grown (inductionHypothesis (m.step c))

/-- The current run of single quotes is never longer than the longest: the measure keeps
this after every character. -/
theorem foldl_singleRun_le (l : List Char) (bounded : m.singleRun ≤ m.longestSingle) :
    (l.foldl step m).singleRun ≤ (l.foldl step m).longestSingle := by
  induction l generalizing m with
  | nil => exact bounded
  | cons c rest inductionHypothesis =>
    rw [List.foldl_cons]
    apply inductionHypothesis (m.step c)
    rw [step_singleRun, step_longestSingle]
    exact Nat.le_max_right _ _

/-- Each single quote lengthens the current run by one. -/
theorem foldl_quotes_singleRun (k : Nat) :
    ((List.replicate k '\'').foldl step m).singleRun = m.singleRun + k := by
  induction k generalizing m with
  | zero => rfl
  | succ k inductionHypothesis =>
    rw [List.replicate_succ, List.foldl_cons, inductionHypothesis, step_singleRun, if_pos rfl]
    omega

/-- A text holding `k` single quotes in a row measures a run of at least `k`. -/
theorem le_longestSingle_of_infix {k : Nat} {l : List Char}
    (inside : List.replicate k '\'' <:+: l) :
    k ≤ (TextMetrics.of (String.ofList l)).longestSingle := by
  obtain ⟨before, after, rfl⟩ := inside
  simp only [TextMetrics.of, String.toList_ofList, List.foldl_append]
  let start := before.foldl step {}
  calc k ≤ ((List.replicate k '\'').foldl step start).singleRun := by
        rw [foldl_quotes_singleRun]; omega
    _ ≤ ((List.replicate k '\'').foldl step start).longestSingle :=
        foldl_singleRun_le _ _ (foldl_singleRun_le {} before (Nat.le_refl 0))
    _ ≤ _ := le_foldl_longestSingle _ after

end TextMetrics

/-! ## The form a text is written in -/

/-- A text written between single quotes holds no stray control, no single quote and no
line break. -/
theorem form_literal {m : TextMetrics} (literal : m.form = .literal) :
    m.controls = false ∧ m.longestSingle = 0 ∧ m.newline = false := by
  simp only [TextMetrics.form] at literal
  split_ifs at literal with basic lit
  simp_all

/-- A text written between triple single quotes holds no stray control and no run of three
single quotes. -/
theorem form_multiLiteral {m : TextMetrics} (multiLiteral : m.form = .multiLiteral) :
    m.controls = false ∧ m.longestSingle ≤ 2 := by
  simp only [TextMetrics.form] at multiLiteral
  split_ifs at multiLiteral
  simp_all

/-- The characters of a text that a form holding no stray control can hold. -/
theorem no_strayControl {text : String}
    (quiet : (TextMetrics.of text).controls = false) :
    ∀ c ∈ text.toList, isStrayControl c = false := by
  have folded := TextMetrics.foldl_controls {} text.toList
  simp only [TextMetrics.of] at quiet
  rw [quiet] at folded
  simpa using folded.symm

theorem newline_iff {text : String} :
    (TextMetrics.of text).newline = true ↔ '\n' ∈ text.toList := by
  simp [TextMetrics.of, TextMetrics.foldl_newline]

/-! ## What each character becomes -/

/-- What the writer puts for one character other than a double quote. -/
def writtenPiece (multi : Bool) (c : Char) : String :=
  match c with
  | '\x08' => "\\b"
  | '\t' => "\\t"
  | '\n' => if multi then "\n" else "\\n"
  | '\x0c' => "\\f"
  | '\r' => "\\r"
  | '\\' => "\\\\"
  | _ => if c.toNat ≤ 0x1F || c.toNat == 0x7F then "\\u" ++ hex4 c.toNat else c.toString

/-- Characters a basic string holds as they are and the writer puts as they are. -/
def isPlain (c : Char) : Bool := isBasicUnescaped c && c != '\t'

/-- Any character but a double quote becomes its piece, and the count of quotes before it
starts again. -/
theorem escapeBasic_cons_of_ne {multi : Bool} {c : Char} (other : c ≠ '"') (rest : List Char)
    (quotes : Nat) :
    escapeBasic multi (c :: rest) quotes = writtenPiece multi c ++ escapeBasic multi rest 0 := by
  rw [escapeBasic.eq_def]
  simp only [beq_iff_eq, other, if_false]
  rfl

/-- Outside a multi-line string every double quote is escaped, whatever the count before it. -/
theorem escapeBasic_quote_single (rest : List Char) (quotes : Nat) :
    escapeBasic false ('"' :: rest) quotes = "\\\"" ++ escapeBasic false rest 0 := by
  rw [escapeBasic.eq_def]
  simp

/-- In a multi-line string two double quotes stand as they are and a third is escaped, after
which the count starts again. -/
theorem escapeBasic_quotes (rest : List Char) :
    escapeBasic true ('"' :: rest) 0 = "\"" ++ escapeBasic true rest 1 ∧
      escapeBasic true ('"' :: rest) 1 = "\"" ++ escapeBasic true rest 2 ∧
      escapeBasic true ('"' :: rest) 2 = "\\\"" ++ escapeBasic true rest 0 := by
  refine ⟨?_, ?_, ?_⟩ <;> rw [escapeBasic.eq_def] <;> simp

/-- The codes of the plain characters: space, `!`, and the printable ASCII characters
but the double quote and the backslash, and every character outside ASCII. -/
theorem isPlain_iff_toNat {c : Char} :
    isPlain c = true ↔ c.toNat = 0x20 ∨ c.toNat = 0x21 ∨ (0x23 ≤ c.toNat ∧ c.toNat ≤ 0x5B) ∨
      (0x5D ≤ c.toNat ∧ c.toNat ≤ 0x7E) ∨ 0x80 ≤ c.toNat := by
  simp only [isPlain, isBasicUnescaped, isWhitespace, isNonAscii, Bool.and_eq_true,
    Bool.or_eq_true, beq_iff_eq, bne_iff_ne, decide_eq_true_eq, ne_eq, ← Char.toNat_inj]
  have space : ' '.toNat = 0x20 := rfl
  have tab : '\t'.toNat = 0x09 := rfl
  have bang : '!'.toNat = 0x21 := rfl
  omega

/-- A plain character is put down as it is. -/
theorem writtenPiece_of_plain {multi : Bool} {c : Char} (plain : isPlain c = true) :
    writtenPiece multi c = c.toString := by
  unfold writtenPiece
  split
  case h_1 | h_2 | h_3 | h_4 | h_5 | h_6 => exact absurd plain (by decide)
  case h_7 =>
    have visible : (decide (c.toNat ≤ 0x1F) || c.toNat == 0x7F) = false := by
      have codes := isPlain_iff_toNat.mp plain
      simp only [Bool.or_eq_false_iff, decide_eq_false_iff_not, beq_eq_false_iff_ne]
      omega
    simp only [visible]
    rfl

/-- A double quote is no plain character. -/
@[simp] theorem isPlain_quote : isPlain '"' = false := by decide

@[simp] theorem isPlain_backslash : isPlain '\\' = false := by decide

@[simp] theorem isPlain_newline : isPlain '\n' = false := by decide

end Toml

end Unwinding
