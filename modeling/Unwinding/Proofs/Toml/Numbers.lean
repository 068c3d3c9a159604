import Mathlib.Algebra.Group.Int.Defs
import Mathlib.Algebra.Group.Nat.Defs
import Unwinding.Proofs.Parser
import Unwinding.Toml.Lexical

/-!
# Reading back a natural number

A natural number is written as its decimal digits, and in a document the digits of a value
end their line. Read from there, the digits are no date, no time and no float, and the
integer reader gives the number back when it fits in 64 signed bits (`integer_toDigits`).
The value of decimal digits is the library's (`digitsIn_ten`), so that a number's digits
read back to it (`digitsIn_toDigits`).
-/

namespace Unwinding

namespace Toml

open Unwinding.Parser

/-! ## Decimal digits -/

/-- On decimal digits the value in base ten is the usual one. -/
theorem digitsIn_ten {ds : List Char} (digits : ∀ c ∈ ds, c.isDigit = true) :
    digitsIn 10 ds = Nat.ofDigitChars 10 ds 0 := by
  suffices general : ∀ acc, ds.foldl (fun acc c => acc * 10 + hexDigitValue c) acc =
      ds.foldl (fun sofar c => 10 * sofar + (c.toNat - '0'.toNat)) acc from general 0
  induction ds with
  | nil => intro acc; rfl
  | cons c ds inductionHypothesis =>
    intro acc
    have digit : hexDigitValue c = c.toNat - '0'.toNat := by
      simp [hexDigitValue, digits c (by simp)]
    rw [List.foldl_cons, List.foldl_cons, digit, Nat.mul_comm,
      inductionHypothesis fun d mem => digits d (by simp [mem])]

theorem toDigits_isDigit (n : Nat) : ∀ c ∈ Nat.toDigits 10 n, c.isDigit = true :=
  fun _ mem => Nat.isDigit_of_mem_toDigits (by decide) (by decide) mem

/-- The decimal digits of a number read back to the number. -/
theorem digitsIn_toDigits (n : Nat) : digitsIn 10 (Nat.toDigits 10 n) = n := by
  rw [digitsIn_ten (toDigits_isDigit n), Nat.ofDigitChars_ten_toDigits]

/-- A positive number's decimal digits start with a digit other than zero. -/
theorem toDigits_head {n : Nat} (pos : 0 < n) :
    ∃ c ds, Nat.toDigits 10 n = c :: ds ∧ ('1' ≤ c && c ≤ '9') = true := by
  induction n using Nat.strongRecOn with
  | ind n inductionHypothesis =>
    by_cases small : n < 10
    · rw [Nat.toDigits_of_lt_base small]
      have nonzero : ∀ d, d < 10 → 0 < d → ('1' ≤ Nat.digitChar d && Nat.digitChar d ≤ '9') = true := by
        decide
      exact ⟨_, [], rfl, nonzero n small pos⟩
    · obtain ⟨c, ds, headEq, nonzero⟩ := inductionHypothesis (n / 10) (by omega) (by omega)
      rw [Nat.toDigits_of_base_le (by decide) (by omega), headEq]
      exact ⟨c, _, rfl, nonzero⟩

/-! ## Digits followed by a line break -/

section Digits

variable {ds rest : List Char} (digits : ∀ c ∈ ds, c.isDigit = true)
include digits

/-- After any number of the digits comes a digit or the line break. -/
theorem head_drop_digits (k : Nat) :
    ∀ d ∈ (ds.drop k ++ '\n' :: rest).head?, d.isDigit = true ∨ d = '\n' := by
  intro d head
  cases dropEq : ds.drop k with
  | nil =>
    rw [dropEq] at head
    cases head
    exact .inr rfl
  | cons e more =>
    rw [dropEq] at head
    obtain rfl : e = d := Option.some.inj head
    have inDrop : e ∈ ds.drop k := by simp [dropEq]
    exact .inl (digits e (List.mem_of_mem_drop inDrop))

/-- A character that is neither a digit nor a line break is not what follows the digits. -/
theorem char_soft_after_digits {x : Char} (notDigit : x.isDigit = false) (notBreak : x ≠ '\n')
    (k : Nat) : FailsSoftly (char x) (ds.drop k ++ '\n' :: rest) :=
  char_soft fun d head => by
    rcases head_drop_digits digits k d head with digit | rfl
    · rintro rfl
      simp_all
    · exact fun same => notBreak same.symm

/-- The digits are taken whole, up to the line break. -/
theorem takeWhile_digits : (ds ++ '\n' :: rest).takeWhile Char.isDigit = ds := by
  rw [List.takeWhile_append_of_pos digits]
  simp

/-- Exactly `k` characters, when there are that many digits, are the first `k` of them. -/
theorem takeBetween_digits (k : Nat) (enough : k ≤ ds.length) :
    takeBetween Char.isDigit k k (ds ++ '\n' :: rest) = .ok (ds.take k, ds.drop k ++ '\n' :: rest) := by
  simp [takeBetween, takeWhile_digits digits, enough, List.drop_append_of_le_length enough]

/-- Fewer than `k` digits refuse a field of exactly `k`, without consuming. -/
theorem takeBetween_digits_soft (k : Nat) (few : ds.length < k) :
    FailsSoftly (takeBetween Char.isDigit k k) (ds ++ '\n' :: rest) :=
  ⟨{ rest := ds ++ '\n' :: rest }, by simp [takeBetween, takeWhile_digits digits]; omega, rfl⟩

/-- Digits followed by a line break are no date: a year is followed by a dash. -/
theorem fullDate_soft : FailsSoftly fullDate (ds ++ '\n' :: rest) := by
  unfold fullDate
  by_cases enough : 4 ≤ ds.length
  · -- four digits are a year, but no dash follows them
    exact FailsSoftly.after (map_of_ok (takeBetween_digits digits 4 enough))
      ((char_soft_after_digits digits (by decide) (by decide) 4).bind _)
  · exact ((takeBetween_digits_soft digits 4 (by omega)).map _).bind _

/-- Digits followed by a line break are no time: an hour is followed by a colon. -/
theorem partialTime_soft : FailsSoftly partialTime (ds ++ '\n' :: rest) := by
  unfold partialTime
  by_cases enough : 2 ≤ ds.length
  · by_cases inRange : (0 ≤ digitsIn 10 (ds.take 2) && digitsIn 10 (ds.take 2) ≤ 23) = true
    · -- two digits are an hour, but no colon follows them
      have hour : boundedDigits 2 0 23 (ds ++ '\n' :: rest) =
          .ok (digitsIn 10 (ds.take 2), ds.drop 2 ++ '\n' :: rest) :=
        check_of_ok (takeBetween_digits digits 2 enough) (by simp only [inRange, if_true])
      exact FailsSoftly.after hour ((char_soft_after_digits digits (by decide) (by decide) 2).bind _)
    · -- two digits, but no hour
      have noHour : FailsSoftly (boundedDigits 2 0 23) (ds ++ '\n' :: rest) :=
        check_soft_of_refused (takeBetween_digits digits 2 enough)
          (show _ = Except.error outOfRange by simp only [inRange, Bool.false_eq_true, if_false])
      exact noHour.bind _
  · have noHour : FailsSoftly (boundedDigits 2 0 23) (ds ++ '\n' :: rest) :=
      (takeBetween_digits_soft digits 2 (by omega)).check _
    exact noHour.bind _

/-- Digits followed by a line break are no date and no time. -/
theorem dateTime_soft : FailsSoftly dateTime (ds ++ '\n' :: rest) :=
  ((fullDate_soft digits).bind _).label _ |>.alt (((partialTime_soft digits).map _).label _)

/-- A run of digits is read one digit at a time, up to the line break. -/
theorem digitRun_digits : digitRun Char.isDigit (ds ++ '\n' :: rest) = .ok ((), '\n' :: rest) := by
  refine void_of_ok (many_of_reads (reads_each ?each ?stops))
  case each => exact fun c mem r => alt_of_ok (void_of_ok (satisfy_of (digits c mem) r))
  case stops =>
    exact (satisfy_soft fun d head => by cases head; rfl).void.alt
      ((char_soft fun d head => by cases head; decide).bind _)

end Digits

/-- A sign does not start a digit. -/
theorem sign_soft {c : Char} (digit : c.isDigit = true) (x : List Char) :
    FailsSoftly sign (c :: x) :=
  satisfy_soft fun d head => by
    obtain rfl : c = d := Option.some.inj head
    revert digit
    simp only [Char.isDigit, Bool.and_eq_true, decide_eq_true_eq, Bool.or_eq_false_iff,
      beq_eq_false_iff_ne, ne_eq]
    intro ⟨low, high⟩
    refine ⟨fun plus => ?_, fun minus => ?_⟩
    · subst plus; exact absurd low (by decide)
    · subst minus; exact absurd low (by decide)

/-- The decimal digits of a number, at the end of their line, start with a digit. -/
theorem toDigits_start (n : Nat) (rest : List Char) :
    ∃ c x, Nat.toDigits 10 n ++ '\n' :: rest = c :: x ∧ c.isDigit = true := by
  cases digitsEq : Nat.toDigits 10 n with
  | nil => exact absurd digitsEq Nat.toDigits_ne_nil
  | cons c ds => exact ⟨c, _, rfl, toDigits_isDigit n c (by simp [digitsEq])⟩

/-- A number's decimal digits are read as a decimal integer's text. -/
theorem decInt_toDigits (n : Nat) (rest : List Char) :
    decInt (Nat.toDigits 10 n ++ '\n' :: rest) = .ok (Nat.toDigits 10 n, '\n' :: rest) := by
  refine label_of_ok (consumed_of_ok (show _ = Except.ok ((), '\n' :: rest) from ?_))
  obtain ⟨c, x, start, digit⟩ := toDigits_start n rest
  rw [bind_of_ok (opt_of_soft (start ▸ sign_soft digit x))]
  by_cases zero : n = 0
  · -- zero is the one number written with a leading `0`
    subst zero
    rw [Nat.toDigits_zero, List.singleton_append,
      alt_of_soft ((satisfy_soft fun d head => by cases head; decide).bind _)]
    exact void_of_ok (satisfy_of rfl _)
  · obtain ⟨c, ds, digitsEq, nonzero⟩ := toDigits_head (Nat.pos_of_ne_zero zero)
    have tailDigits : ∀ d ∈ ds, d.isDigit = true :=
      fun d mem => toDigits_isDigit n d (by simp [digitsEq, mem])
    rw [digitsEq, List.cons_append]
    exact alt_of_ok (by rw [bind_of_ok (satisfy_of nonzero _)]; exact digitRun_digits tailDigits)

/-- Digits followed by a line break are no float: after the integer part comes neither an
exponent nor a fraction, and no `inf` or `nan` starts with a digit. -/
theorem float_soft_toDigits (n : Nat) (rest : List Char) :
    FailsSoftly float (Nat.toDigits 10 n ++ '\n' :: rest) := by
  obtain ⟨c, x, start, digit⟩ := toDigits_start n rest
  have noExponent : FailsSoftly exponent ('\n' :: rest) :=
    (satisfy_soft fun d head => by cases head; rfl).bind _
  have noFraction : FailsSoftly fraction ('\n' :: rest) :=
    (char_soft fun d head => by cases head; decide).bind _
  have notText : FailsSoftly floatText (Nat.toDigits 10 n ++ '\n' :: rest) :=
    (FailsSoftly.after (decInt_toDigits n rest) (noExponent.alt (noFraction.bind _))).consumed
  have notWord : ∀ {w : Char} (l : List Char), w.isDigit = false → ¬ w :: l <+: c :: x :=
    fun l letter => not_prefix_of_head (fun same => by simp_all) l x
  have noInf : FailsSoftly (literal "inf") (c :: x) :=
    literal_soft (show ¬ ['i', 'n', 'f'] <+: c :: x from notWord _ (by decide))
  have noNan : FailsSoftly (literal "nan") (c :: x) :=
    literal_soft (show ¬ ['n', 'a', 'n'] <+: c :: x from notWord _ (by decide))
  have notSpecial : FailsSoftly specialFloat (Nat.toDigits 10 n ++ '\n' :: rest) := by
    rw [start]
    exact FailsSoftly.after (opt_of_soft (sign_soft digit x)) (((noInf.map _).alt (noNan.map _)).bind _)
  exact ((notText.andThen _).alt notSpecial).label _

/-- The text of a natural number has no underscore, sign or base prefix to drop. -/
theorem decimalValue_toDigits (n : Nat) : decimalValue (Nat.toDigits 10 n) = n := by
  have kept : withoutUnderscores (Nat.toDigits 10 n) = Nat.toDigits 10 n :=
    List.filter_eq_self.mpr fun c mem => by
      have digit := toDigits_isDigit n c mem
      simp only [bne_iff_ne, ne_eq]
      rintro rfl
      exact absurd digit (by decide)
  simp only [decimalValue, kept]
  split
  case h_1 tail digitsEq =>
    exact absurd (toDigits_isDigit n '-' (by simp [digitsEq])) (by decide)
  case h_2 tail digitsEq =>
    exact absurd (toDigits_isDigit n '+' (by simp [digitsEq])) (by decide)
  case h_3 => rw [digitsIn_toDigits]

/-- A number's digits start with no base prefix such as `0x`. -/
theorem toDigits_ne_prefixed (n : Nat) {rest : List Char} {c : Char} (letter : c ≠ '\n')
    (t : List Char) :
    Nat.toDigits 10 n ++ '\n' :: rest ≠ '0' :: c :: t := by
  intro prefixed
  by_cases zero : n = 0
  · subst zero
    rw [Nat.toDigits_zero] at prefixed
    simp only [List.singleton_append, List.cons.injEq] at prefixed
    exact letter prefixed.2.1.symm
  · obtain ⟨d, ds, digitsEq, nonzero⟩ := toDigits_head (Nat.pos_of_ne_zero zero)
    rw [digitsEq, List.cons_append, List.cons.injEq] at prefixed
    rw [prefixed.1] at nonzero
    exact absurd nonzero (by decide)

/-- A number below `2^63`, at the end of its line, is read as that integer. -/
theorem integer_toDigits {n : Nat} (fits : n < 2 ^ 63) (rest : List Char) :
    integer (Nat.toDigits 10 n ++ '\n' :: rest) = .ok (n, '\n' :: rest) := by
  have power : Int.pow 2 63 = 2 ^ 63 := rfl
  have inRange : fitInt64 (n : Int) = .ok n := by
    simp only [fitInt64, power]
    rw [if_neg (by omega), if_neg (by omega)]
  unfold integer
  split
  case h_1 t prefixed | h_2 t prefixed | h_3 t prefixed =>
    exact absurd prefixed (toDigits_ne_prefixed n (by decide) t)
  case h_4 =>
    refine andThen_of_ok (decInt_toDigits n rest) (show _ = Except.ok ((n : Int), ([] : List Char)) from ?_)
    simp only [decimalValue_toDigits, inRange]

end Toml

end Unwinding
