import Unwinding.Parser

/-!
# Running parsers on known input

Lemmas that run the combinators of `Unwinding.Parser` where the reading of each part is
known: a parser that reads passes its value and the rest of the input on to what follows it,
and one that fails softly lets an alternative or an option go on from where it started.
`Reads` lists what a parser reads time after time from an input, up to a place where it
fails softly, and `many` reads exactly that (`many_of_reads`). The lexical readers of a
format are then run on the text its writer produces through these lemmas alone.
-/

namespace Unwinding

namespace Parser

variable {α β : Type}

/-- The parser gives up softly on this input, so an alternative may still be tried there. -/
def FailsSoftly (p : Parser α) (cs : List Char) : Prop :=
  ∃ e : Failure, p cs = .error e ∧ e.final = false

variable {p q : Parser α} {cs r : List Char} {a : α}

/-! ## Sequencing -/

@[simp] theorem pure_apply (a : α) (cs : List Char) : (pure a : Parser α) cs = .ok (a, cs) := rfl

/-- A parser that reads hands its value and the rest of the input to what follows it. -/
theorem bind_of_ok {f : α → Parser β} (read : p cs = .ok (a, r)) : (p >>= f) cs = f a r := by
  simp only [Bind.bind, read]

theorem FailsSoftly.bind (soft : FailsSoftly p cs) (f : α → Parser β) :
    FailsSoftly (p >>= f) cs := by
  obtain ⟨e, failed, notFinal⟩ := soft
  refine ⟨e, ?_, notFinal⟩
  simp only [Bind.bind, failed]

/-- A parser that reads and then hands over to one that fails softly fails softly as a
whole. -/
theorem FailsSoftly.after {f : α → Parser β} (read : p cs = .ok (a, r))
    (soft : FailsSoftly (f a) r) : FailsSoftly (p >>= f) cs := by
  rw [FailsSoftly, bind_of_ok read]
  exact soft

theorem map_of_ok {f : α → β} (read : p cs = .ok (a, r)) : map f p cs = .ok (f a, r) := by
  simp [map, read]

theorem FailsSoftly.map (soft : FailsSoftly p cs) (f : α → β) : FailsSoftly (map f p) cs := by
  obtain ⟨e, failed, notFinal⟩ := soft
  exact ⟨e, by simp [Parser.map, failed], notFinal⟩

theorem void_of_ok (read : p cs = .ok (a, r)) : void p cs = .ok ((), r) := by
  simp [void, read]

theorem FailsSoftly.void (soft : FailsSoftly p cs) : FailsSoftly (void p) cs := by
  obtain ⟨e, failed, notFinal⟩ := soft
  exact ⟨e, by simp [Parser.void, failed], notFinal⟩

/-- What `consumed` gives is the part of the input before the rest. -/
theorem consumed_of_ok {u : List Char} (read : p (u ++ r) = .ok (a, r)) :
    consumed p (u ++ r) = .ok (u, r) := by
  simp [consumed, read]

theorem FailsSoftly.consumed (soft : FailsSoftly p cs) : FailsSoftly (consumed p) cs := by
  obtain ⟨e, failed, notFinal⟩ := soft
  exact ⟨e, by simp [Parser.consumed, failed], notFinal⟩

/-- Checking a value that converts gives the converted value. -/
theorem check_of_ok {f : α → Except String β} {b : β} (read : p cs = .ok (a, r))
    (converts : f a = .ok b) : check p f cs = .ok (b, r) := by
  simp [check, read, converts]

/-- A value the check refuses is a soft failure. -/
theorem check_soft_of_refused {f : α → Except String β} {why : String} (read : p cs = .ok (a, r))
    (refused : f a = .error why) : FailsSoftly (check p f) cs :=
  ⟨{ rest := cs, cause := some why }, by simp [check, read, refused], rfl⟩

theorem FailsSoftly.check (soft : FailsSoftly p cs) (f : α → Except String β) :
    FailsSoftly (Parser.check p f) cs := by
  obtain ⟨e, failed, notFinal⟩ := soft
  exact ⟨e, by simp [Parser.check, failed], notFinal⟩

/-- What the first parser consumed, read whole by the second, gives the second's value, and
the input goes on after what the first consumed. -/
theorem andThen_of_ok {t : Parser (List Char)} {q : Parser β} {text r' : List Char} {b : β}
    (read : t cs = .ok (text, r)) (converts : q text = .ok (b, r')) :
    andThen t q cs = .ok (b, r) := by
  simp [andThen, read, converts]

theorem FailsSoftly.andThen {t : Parser (List Char)} (soft : FailsSoftly t cs) (q : Parser β) :
    FailsSoftly (Parser.andThen t q) cs := by
  obtain ⟨e, failed, notFinal⟩ := soft
  exact ⟨e, by simp [Parser.andThen, failed], notFinal⟩

/-! ## Choice and commitment -/

theorem alt_of_ok {x : α × List Char} (read : p cs = .ok x) : alt p q cs = .ok x := by
  simp [alt, read]

/-- After a soft failure the alternative is tried from the same place. -/
theorem alt_of_soft (soft : FailsSoftly p cs) : alt p q cs = q cs := by
  obtain ⟨e, failed, notFinal⟩ := soft
  simp [alt, failed, notFinal]

theorem FailsSoftly.alt (first : FailsSoftly p cs) (second : FailsSoftly q cs) :
    FailsSoftly (Parser.alt p q) cs := by
  rw [FailsSoftly, alt_of_soft first]
  exact second

theorem opt_of_ok (read : p cs = .ok (a, r)) : opt p cs = .ok (some a, r) := by
  simp [opt, read]

/-- An option that fails softly reads nothing and puts the input back. -/
theorem opt_of_soft (soft : FailsSoftly p cs) : opt p cs = .ok (none, cs) := by
  obtain ⟨e, failed, notFinal⟩ := soft
  simp [opt, failed, notFinal]

theorem cut_of_ok {x : α × List Char} (read : p cs = .ok x) : cut p cs = .ok x := by
  simp [cut, read]

theorem label_of_ok {name : String} {x : α × List Char} (read : p cs = .ok x) :
    label name p cs = .ok x := by
  simp [label, read]

theorem FailsSoftly.label (soft : FailsSoftly p cs) (name : String) :
    FailsSoftly (Parser.label name p) cs := by
  obtain ⟨e, failed, notFinal⟩ := soft
  exact ⟨{ e with labels := e.labels ++ [name] }, by simp [Parser.label, failed], notFinal⟩

theorem expect_of_ok {x : Expectation} {y : α × List Char} (read : p cs = .ok y) :
    expect x p cs = .ok y := by
  simp [expect, read]

theorem FailsSoftly.expect (soft : FailsSoftly p cs) (x : Expectation) :
    FailsSoftly (Parser.expect x p) cs := by
  obtain ⟨e, failed, notFinal⟩ := soft
  exact ⟨{ e with expected := e.expected ++ [x] }, by simp [Parser.expect, failed], notFinal⟩

/-- A look ahead gives the value and leaves the input where it was. -/
theorem peek_of_ok (read : p cs = .ok (a, r)) : peek p cs = .ok (a, cs) := by
  simp [peek, read]

theorem FailsSoftly.peek (soft : FailsSoftly p cs) : FailsSoftly (Parser.peek p) cs := by
  obtain ⟨e, failed, notFinal⟩ := soft
  exact ⟨{ e with rest := cs }, by simp [Parser.peek, failed], notFinal⟩

/-! ## Characters -/

theorem satisfy_of {ok : Char → Bool} {c : Char} (holds : ok c = true) (r : List Char) :
    satisfy ok (c :: r) = .ok (c, r) := by
  simp [satisfy, holds]

/-- A character test fails softly on a character it refuses, and at the end. -/
theorem satisfy_soft {ok : Char → Bool} (refused : ∀ c ∈ cs.head?, ok c = false) :
    FailsSoftly (satisfy ok) cs := by
  cases cs with
  | nil => exact ⟨_, rfl, rfl⟩
  | cons c r => exact ⟨{ rest := c :: r }, by simp [satisfy, refused c rfl], rfl⟩

@[simp] theorem char_cons (c : Char) (r : List Char) : char c (c :: r) = .ok ((), r) := by
  simp [char, void, satisfy]

theorem char_soft {c : Char} (other : ∀ d ∈ cs.head?, d ≠ c) : FailsSoftly (char c) cs :=
  (satisfy_soft fun d head => by simpa using other d head).void

theorem noneOf_of {c d : Char} (other : d ≠ c) (r : List Char) : noneOf c (d :: r) = .ok ((), r) := by
  simp [noneOf, void, satisfy, other]

theorem noneOf_soft (c : Char) (r : List Char) : FailsSoftly (noneOf c) (c :: r) :=
  (satisfy_soft fun d head => by simp_all).void

@[simp] theorem literal_append (s : String) (r : List Char) :
    literal s (s.toList ++ r) = .ok ((), r) := by
  simp [literal, List.isPrefixOf_iff_prefix, ← String.length_toList]

theorem literal_soft {s : String} (notPrefix : ¬ s.toList <+: cs) : FailsSoftly (literal s) cs :=
  ⟨{ rest := cs }, by simp [literal, List.isPrefixOf_iff_prefix, notPrefix], rfl⟩

/-- Text that starts with another character does not start with `q`. -/
theorem not_prefix_of_head {q d : Char} (other : d ≠ q) (l x : List Char) : ¬ q :: l <+: d :: x :=
  fun before => other (List.cons_prefix_cons.mp before).1.symm

/-- A run of characters that pass the test, up to one that does not, is read as a whole. -/
theorem takeWhile_exact {ok : Char → Bool} {run : List Char} (inside : ∀ c ∈ run, ok c = true)
    (boundary : ∀ c ∈ r.head?, ok c = false) : takeWhile ok (run ++ r) = .ok (run, r) := by
  have stopTake : r.takeWhile ok = [] := by
    cases r with
    | nil => rfl
    | cons c rest => simp [boundary c rfl]
  have stopDrop : r.dropWhile ok = r := by
    cases r with
    | nil => rfl
    | cons c rest => simp [boundary c rfl]
  simp [takeWhile, List.takeWhile_append_of_pos inside, List.dropWhile_append_of_pos inside,
    stopTake, stopDrop]

theorem takeWhile1_exact {ok : Char → Bool} {run : List Char} (nonempty : run ≠ [])
    (inside : ∀ c ∈ run, ok c = true) (boundary : ∀ c ∈ r.head?, ok c = false) :
    takeWhile1 ok (run ++ r) = .ok (run, r) := by
  have read := takeWhile_exact inside boundary
  simp only [takeWhile, Except.ok.injEq, Prod.mk.injEq] at read
  simp only [takeWhile1, read.1]
  rw [read.2]

theorem takeWhile1_soft {ok : Char → Bool} (refused : ∀ c ∈ cs.head?, ok c = false) :
    FailsSoftly (takeWhile1 ok) cs := by
  cases cs with
  | nil => exact ⟨_, rfl, rfl⟩
  | cons c r => exact ⟨{ rest := c :: r }, by simp [takeWhile1, refused c rfl], rfl⟩

/-! ## Repetition -/

/-- `p` reads the values `as` one after another from `cs`, each time consuming something,
and then fails softly on `rest`. -/
inductive Reads (p : Parser α) : List Char → List α → List Char → Prop
  | stop {cs : List Char} : FailsSoftly p cs → Reads p cs [] cs
  | next {cs r rest : List Char} {a : α} {as : List α} :
      p cs = .ok (a, r) → r.length < cs.length → Reads p r as rest → Reads p cs (a :: as) rest

/-- Reading that gets anywhere read a first value. -/
theorem Reads.cons_of_shorter {as : List α} {rest : List Char} (reads : Reads p cs as rest)
    (shorter : rest.length < cs.length) :
    ∃ a as' r, as = a :: as' ∧ p cs = .ok (a, r) ∧ Reads p r as' rest := by
  cases reads with
  | stop _ => exact absurd shorter (Nat.lt_irrefl _)
  | next read _ more => exact ⟨_, _, _, rfl, read, more⟩

theorem manyFrom_of_reads {as : List α} {rest : List Char} (reads : Reads p cs as rest)
    (acc : List α) : manyFrom p acc cs = .ok (acc.reverse ++ as, rest) := by
  induction reads generalizing acc with
  | stop soft =>
    obtain ⟨e, failed, notFinal⟩ := soft
    rw [manyFrom.eq_1, failed]
    simp [notFinal]
  | next read shorter _ inductionHypothesis =>
    rw [manyFrom.eq_1, read]
    simp only [if_pos shorter, inductionHypothesis]
    simp

/-- `many` reads what `p` reads time after time. -/
theorem many_of_reads {as : List α} {rest : List Char} (reads : Reads p cs as rest) :
    many p cs = .ok (as, rest) := by
  show manyFrom p [] cs = _
  simpa using manyFrom_of_reads reads []

theorem FailsSoftly.many1 (soft : FailsSoftly p cs) : FailsSoftly (many1 p) cs := by
  obtain ⟨e, failed, notFinal⟩ := soft
  exact ⟨e, by simp [Parser.many1, failed], notFinal⟩

/-- A separated list of one item: the separator is not there after it. -/
theorem sepBy1_of_last {sep : Parser Unit} (read : p cs = .ok (a, r)) (stop : FailsSoftly sep r) :
    sepBy1 p sep cs = .ok ([a], r) := by
  obtain ⟨e, failed, notFinal⟩ := stop
  simp only [sepBy1, read]
  rw [sepFrom.eq_1, failed]
  simp [notFinal]

/-- A parser that reads each character of `u` alone, and fails softly on what follows,
reads `u` one character at a time. -/
theorem reads_each {p : Parser Unit} {u x : List Char}
    (each : ∀ c ∈ u, ∀ r, p (c :: r) = .ok ((), r)) (stops : FailsSoftly p x) :
    Reads p (u ++ x) (u.map fun _ => ()) x := by
  induction u with
  | nil => exact .stop stops
  | cons c u inductionHypothesis =>
    exact .next (each c (by simp) _) (by simp)
      (inductionHypothesis fun d mem => each d (by simp [mem]))

theorem many1_of_reads {as : List α} {rest : List Char} (reads : Reads p cs (a :: as) rest) :
    many1 p cs = .ok (a :: as, rest) := by
  cases reads with
  | next read _ more => simpa [many1, read] using manyFrom_of_reads more [a]

end Parser

end Unwinding
