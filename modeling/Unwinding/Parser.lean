/-!
# Backtracking parsers with commitment

A parser reads from the front of a list of characters and gives a value and the input after
it, or a failure. A failure records where the input stood when the parser gave up: parsers
that look ahead or check a value put the input back where they started, the others leave
it where the failing step was. A failure is either soft, and an alternative may still be
tried from where the choice began, or final, once the grammar has committed to a reading.
On its way out a failure gathers the labels of the constructs it was inside and what was
expected, and a check that refused a value adds the reason.

The message of a failure names the innermost construct (`invalid string`), then what was
expected (`expected newline, ...`), then the reason, one per line, each only when present.
-/

namespace Unwinding

/-- What a parser was expected to find. -/
inductive Expectation where
  | char (c : Char)
  | literal (s : String)
  | description (s : String)
  deriving DecidableEq, Inhabited, Repr

namespace Expectation

/-- How an expectation is named in a message: a line break as `newline`, other characters
and literals between backquotes, control characters escaped, a description as it is. -/
def render : Expectation → String
  | char '\n' => "newline"
  | char '`' => "'`'"
  | char '\t' => "`\\t`"
  | char '\r' => "`\\r`"
  | char '\x00' => "`\\0`"
  | char c =>
    if c.toNat < 0x20 || c.toNat == 0x7F then
      "`\\u\x7b" ++ String.ofList (Nat.toDigits 16 c.toNat) ++ "\x7d`"
    else "`" ++ c.toString ++ "`"
  | literal s => "`" ++ s ++ "`"
  | description s => s

end Expectation

/-- Why and where a parser gave up. -/
structure Failure where
  /-- The input as it stood when the parser gave up. -/
  rest : List Char
  /-- Whether the grammar had committed, so that no alternative is tried. -/
  final : Bool := false
  /-- The constructs the failure happened inside, innermost first. -/
  labels : List String := []
  /-- What was expected there, in the order the grammar noted it. -/
  expected : List Expectation := []
  /-- The reason a check gave for refusing a value. -/
  cause : Option String := none
  deriving Inhabited, Repr

/-- The message of a failure. -/
def Failure.message (f : Failure) : String :=
  let named := f.labels.head?.map ("invalid " ++ ·)
  let wanted :=
    if f.expected.isEmpty then none
    else some ("expected " ++ ", ".intercalate (f.expected.map Expectation.render))
  "\n".intercalate (named.toList ++ wanted.toList ++ f.cause.toList)

/-- A parser of values of type `α`. -/
def Parser (α : Type) : Type := List Char → Except Failure (α × List Char)

instance : Monad Parser where
  pure a := fun cs => .ok (a, cs)
  bind p f := fun cs =>
    match p cs with
    | .ok (a, r) => f a r
    | .error e => .error e

namespace Parser

variable {α β : Type}

/-- Runs a parser. -/
def run (p : Parser α) (cs : List Char) : Except Failure (α × List Char) := p cs

/-- A soft failure where the input stands, with nothing to say. -/
def fail : Parser α := fun cs => .error { rest := cs }

/-- A final failure at `rest`, for the reason `why`. -/
def abortAt (rest : List Char) (why : String) : Parser α := fun _ =>
  .error { rest, final := true, cause := some why }

/-- The input where it stands, without consuming it. -/
def position : Parser (List Char) := fun cs => .ok (cs, cs)

/-- Applies `f` to the value. -/
def map (f : α → β) (p : Parser α) : Parser β := fun cs =>
  match p cs with
  | .ok (a, r) => .ok (f a, r)
  | .error e => .error e

/-- Forgets the value. -/
def void (p : Parser α) : Parser Unit := fun cs =>
  match p cs with
  | .ok (_, r) => .ok ((), r)
  | .error e => .error e

/-- One character that satisfies `ok`; fails in place otherwise. -/
def satisfy (ok : Char → Bool) : Parser Char := fun cs =>
  match cs with
  | c :: r => if ok c then .ok (c, r) else .error { rest := cs }
  | [] => .error { rest := [] }

/-- The character `c`. -/
def char (c : Char) : Parser Unit := void (satisfy (· == c))

/-- One character other than `c`. -/
def noneOf (c : Char) : Parser Unit := void (satisfy (· != c))

/-- The characters of `s`, in order; fails in place otherwise. -/
def literal (s : String) : Parser Unit := fun cs =>
  if s.toList.isPrefixOf cs then .ok ((), cs.drop s.length) else .error { rest := cs }

/-- The longest run of characters satisfying `ok`, perhaps empty. -/
def takeWhile (ok : Char → Bool) : Parser (List Char) := fun cs =>
  .ok (cs.takeWhile ok, cs.dropWhile ok)

/-- At least `least` and at most `most` characters satisfying `ok`, as many as there
are; fails in place when there are fewer than `least`. -/
def takeBetween (ok : Char → Bool) (least most : Nat) : Parser (List Char) := fun cs =>
  let run := (cs.takeWhile ok).take most
  if run.length < least then .error { rest := cs } else .ok (run, cs.drop run.length)

/-- A non-empty run of characters satisfying `ok`. -/
def takeWhile1 (ok : Char → Bool) : Parser (List Char) := fun cs =>
  match cs.takeWhile ok with
  | [] => .error { rest := cs }
  | run => .ok (run, cs.dropWhile ok)

/-- The end of the input. -/
def eof : Parser Unit := fun cs =>
  match cs with
  | [] => .ok ((), [])
  | _ => .error { rest := cs }

/-- `p`, or else `q` from the same place if `p` failed softly. A failure of both is the
failure of `q`. -/
def alt (p q : Parser α) : Parser α := fun cs =>
  match p cs with
  | .ok r => .ok r
  | .error e => if e.final then .error e else q cs

/-- `p` if it reads, else nothing, with the input put back. -/
def opt (p : Parser α) : Parser (Option α) := fun cs =>
  match p cs with
  | .ok (a, r) => .ok (some a, r)
  | .error e => if e.final then .error e else .ok (none, cs)

/-- `p`, committed: its failures are final. -/
def cut (p : Parser α) : Parser α := fun cs =>
  match p cs with
  | .ok r => .ok r
  | .error e => .error { e with final := true }

/-- `p`, whose failures happened inside the construct `name`. -/
def label (name : String) (p : Parser α) : Parser α := fun cs =>
  match p cs with
  | .ok r => .ok r
  | .error e => .error { e with labels := e.labels ++ [name] }

/-- `p`, whose failures note that `x` was expected. -/
def expect (x : Expectation) (p : Parser α) : Parser α := fun cs =>
  match p cs with
  | .ok r => .ok r
  | .error e => .error { e with expected := e.expected ++ [x] }

/-- The value of `p` without consuming input; a failure also leaves the input in place. -/
def peek (p : Parser α) : Parser α := fun cs =>
  match p cs with
  | .ok (a, _) => .ok (a, cs)
  | .error e => .error { e with rest := cs }

/-- The characters `p` consumed. -/
def consumed (p : Parser α) : Parser (List Char) := fun cs =>
  match p cs with
  | .ok (_, r) => .ok (cs.take (cs.length - r.length), r)
  | .error e => .error e

/-- `p`, whose value must pass `ok`; a refused value is a soft failure where `p` started. -/
def verify (p : Parser α) (ok : α → Bool) : Parser α := fun cs =>
  match p cs with
  | .ok (a, r) => if ok a then .ok (a, r) else .error { rest := cs }
  | .error e => .error e

/-- `p`, whose value is converted by `f`; a refusal is a soft failure where `p` started,
with the reason `f` gave. -/
def check (p : Parser α) (f : α → Except String β) : Parser β := fun cs =>
  match p cs with
  | .ok (a, r) =>
    match f a with
    | .ok b => .ok (b, r)
    | .error why => .error { rest := cs, cause := some why }
  | .error e => .error e

/-- Reads with `p` and then parses what it consumed with `q`, which must read all of it;
a failure of `q` stands where `p` started. -/
def andThen (p : Parser (List Char)) (q : Parser β) : Parser β := fun cs =>
  match p cs with
  | .ok (text, r) =>
    match q text with
    | .ok (b, _) => .ok (b, r)
    | .error e => .error { e with rest := cs }
  | .error e => .error e

/-- Repeats `p` while it reads and consumes, collecting the values after `acc`. A soft
failure ends the repetition where that attempt started; a final one is passed on. -/
def manyFrom (p : Parser α) (acc : List α) (cs : List Char) :
    Except Failure (List α × List Char) :=
  match p cs with
  | .ok (a, r) =>
    if r.length < cs.length then manyFrom p (a :: acc) r else .ok ((a :: acc).reverse, r)
  | .error e => if e.final then .error e else .ok (acc.reverse, cs)
termination_by cs.length

/-- `p` as many times as it reads, perhaps none. -/
def many (p : Parser α) : Parser (List α) := fun cs => manyFrom p [] cs

/-- `p` at least once, then as many times as it reads. -/
def many1 (p : Parser α) : Parser (List α) := fun cs =>
  match p cs with
  | .ok (a, r) => manyFrom p [a] r
  | .error e => .error e

/-- Repeats `sep` then `p` while both read, collecting the values after `acc`. When either
fails softly, the repetition ends before that separator. -/
def sepFrom (p : Parser α) (sep : Parser Unit) (acc : List α) (cs : List Char) :
    Except Failure (List α × List Char) :=
  match sep cs with
  | .error e => if e.final then .error e else .ok (acc.reverse, cs)
  | .ok ((), r) =>
    match p r with
    | .error e => if e.final then .error e else .ok (acc.reverse, cs)
    | .ok (a, r') =>
      if r'.length < cs.length then sepFrom p sep (a :: acc) r' else .ok ((a :: acc).reverse, r')
termination_by cs.length

/-- One or more `p` separated by `sep`. -/
def sepBy1 (p : Parser α) (sep : Parser Unit) : Parser (List α) := fun cs =>
  match p cs with
  | .ok (a, r) => sepFrom p sep [a] r
  | .error e => .error e

/-- Any number of `p` separated by `sep`. -/
def sepBy (p : Parser α) (sep : Parser Unit) : Parser (List α) := fun cs =>
  match p cs with
  | .ok (a, r) => sepFrom p sep [a] r
  | .error e => if e.final then .error e else .ok ([], cs)

end Parser

end Unwinding
