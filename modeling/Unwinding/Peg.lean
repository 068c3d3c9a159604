/-!
# Parsing expression grammars that name what they expected

A grammar reads from the front of a list of characters by ordered choice: an alternative is
tried from where the choice began only when the one before it failed, and a failed reading
puts the input back. Some parts of a grammar are named rules. When a rule fails, that is
noted, together with how far into the input it had started; only the notes furthest into
the input are kept. A failure of the whole grammar is then reported at that position, as
the list of rules that failed there.

A rule that fails right after exactly one rule inside it failed at the same place is not
noted itself: the inner rule says more. Inside an atomic rule nothing is noted, so such a
rule is reported as a whole.

The report shows the line and column of the position (a carriage return before a line feed
counts with it), the line itself, a mark under the position, and the rules, sorted and
named.
-/

namespace Unwinding

namespace Peg

/-- The notes of failed rules: the position furthest into the input where a rule failed,
and the rules that failed there in the order they did; whether a rule is being read
atomically; and the length of the whole input, to tell positions from what is left. -/
structure Attempts (ρ : Type) where
  total : Nat
  position : Nat := 0
  rules : List ρ := []
  atomic : Bool := false
  deriving Inhabited

/-- The number of rules noted at a position. -/
def Attempts.countAt {ρ : Type} (a : Attempts ρ) (pos : Nat) : Nat :=
  if a.position == pos then a.rules.length else 0

/-- Notes that `rule`, started at `pos`, failed; `before` rules had been noted there when it
started. -/
def Attempts.note {ρ : Type} (rule : ρ) (pos before : Nat) (a : Attempts ρ) : Attempts ρ :=
  let now := a.countAt pos
  if now > before && now - before == 1 then a
  else if pos == a.position then { a with rules := a.rules.take before ++ [rule] }
  else if pos > a.position then { a with position := pos, rules := [rule] }
  else a

end Peg

/-- A grammar with rules of type `ρ` reading values of type `α`: the input is its state, a
failure puts it back, and the notes of failed rules are kept through failures. -/
abbrev Peg (ρ α : Type) : Type := StateT (List Char) (OptionT (StateM (Peg.Attempts ρ))) α

namespace Peg

variable {ρ α β : Type}

/-- How far into the input the reading stands. -/
def position : Peg ρ Nat := do
  let rest ← getThe (List Char)
  let a ← getThe (Attempts ρ)
  pure (a.total - rest.length)

/-- A failure. -/
def fail : Peg ρ α := failure

/-- One character that satisfies `ok`. -/
def satisfy (ok : Char → Bool) : Peg ρ Char := do
  match ← getThe (List Char) with
  | c :: rest => if ok c then do set rest; pure c else failure
  | [] => failure

/-- Any one character. -/
def anyChar : Peg ρ Char := satisfy fun _ => true

/-- The characters of `s` in order. -/
def literal (s : String) : Peg ρ Unit := do
  let cs ← getThe (List Char)
  if s.toList.isPrefixOf cs then set (cs.drop s.length) else failure

/-- The characters of `s` in order, letters in either case. -/
def literalAnyCase (s : String) : Peg ρ Unit := do
  let cs ← getThe (List Char)
  let taken := cs.take s.length
  if taken.length == s.length && (taken.map Char.toLower) == (s.toList.map Char.toLower) then
    set (cs.drop s.length)
  else failure

/-- The end of the input. -/
def endOfInput : Peg ρ Unit := do
  if (← getThe (List Char)).isEmpty then pure () else failure

/-- `p` if it reads, else nothing; the input is put back when it fails. -/
def maybe (p : Peg ρ α) : Peg ρ (Option α) := (some <$> p) <|> pure none

/-- Succeeds, reading nothing, where `p` would read. -/
def ahead (p : Peg ρ α) : Peg ρ Unit := do
  let cs ← getThe (List Char)
  let _ ← p
  set cs

/-- Succeeds, reading nothing, where `p` would fail; what `p` notes is forgotten. -/
def notAhead (p : Peg ρ α) : Peg ρ Unit := do
  let notes ← getThe (Attempts ρ)
  let r ← maybe (ahead p)
  set notes
  match r with
  | some _ => failure
  | none => pure ()

/-- `p` repeated while it reads and consumes, at most `fuel` times. -/
def repeatFor (p : Peg ρ α) : Nat → Peg ρ (List α)
  | 0 => pure []
  | fuel + 1 => do
    let before ← getThe (List Char)
    match ← maybe p with
    | none => pure []
    | some a =>
      let after ← getThe (List Char)
      if after.length < before.length then
        let more ← repeatFor p fuel
        pure (a :: more)
      else pure [a]

/-- `p` as many times as it reads, perhaps none. -/
def many (p : Peg ρ α) : Peg ρ (List α) := do
  let cs ← getThe (List Char)
  repeatFor p (cs.length + 1)

/-- The rule `r` read by `p`; with `atomic` nothing inside it is noted. A failure of the
rule is noted unless an enclosing rule is atomic. -/
def rule (r : ρ) (atomic : Bool) (p : Peg ρ α) : Peg ρ α := do
  let pos ← position
  let a ← getThe (Attempts ρ)
  let before := a.countAt pos
  let outer := a.atomic
  if atomic then modifyThe (Attempts ρ) fun a => { a with atomic := true }
  let result ← maybe p
  modifyThe (Attempts ρ) fun a => { a with atomic := outer }
  match result with
  | some v => pure v
  | none =>
    if !outer then modifyThe (Attempts ρ) (Attempts.note r pos before)
    failure

/-- Where and why a grammar failed: the position furthest into the input where rules
failed, and those rules. -/
structure Failure (ρ : Type) where
  position : Nat
  rules : List ρ

/-- Reads a whole text with a grammar. -/
def parse (g : Peg ρ α) (text : List Char) : Except (Failure ρ) α :=
  match ((g.run text).run.run { total := text.length }) with
  | (some (v, _), _) => .ok v
  | (none, a) => .error { position := a.position, rules := a.rules }

/-- The line and column after a text, both from one, going on from `lc`. A carriage return
before a line feed counts with it as one line break. -/
def lineColumn : List Char → Nat × Nat → Nat × Nat
  | [], lc => lc
  | '\r' :: '\n' :: rest, (l, _) => lineColumn rest (l + 1, 1)
  | '\n' :: rest, (l, _) => lineColumn rest (l + 1, 1)
  | _ :: rest, (l, c) => lineColumn rest (l, c + 1)

/-- The line a position is on, with the line feed that ends it. -/
def lineOf (text : List Char) (pos : Nat) : List Char :=
  let before := text.take pos
  let start := before.length - (before.reverse.takeWhile (· != '\n')).length
  let fromStart := text.drop start
  let lineEnd := (text.drop pos).takeWhile (· != '\n')
  let withBreak := if (text.drop pos).length > lineEnd.length then lineEnd.length + 1 else lineEnd.length
  fromStart.take (pos - start + withBreak)

/-- Names rules in a list: one, `a or b`, or `a, b, or c`. -/
def enumerate (names : List String) : String :=
  match names with
  | [a] => a
  | [a, b] => a ++ " or " ++ b
  | _ => ", ".intercalate names.dropLast ++ ", or " ++ names.getLastD ""

/-- The message of a failure: the rules that failed, in the order of `index`, each once. -/
def message (index : ρ → Nat) (name : ρ → String) (rules : List ρ) : String :=
  let sorted := (rules.mergeSort fun a b => index a ≤ index b).map name
  let names := sorted.foldr (fun n acc => if acc.head? == some n then acc else n :: acc) []
  if names.isEmpty then "unknown parsing error" else "expected " ++ enumerate names

/-- The report of a failure at `pos` of a text: where, the line, a mark under the position,
and the message. A line break at the position is shown with symbols for it; elsewhere line
breaks are left out of the line. -/
def report (text : List Char) (pos : Nat) (message : String) : String :=
  let (line, column) := lineColumn (text.take pos) (1, 1)
  let raw := lineOf text pos
  let atBreak := match text.drop pos with
    | '\n' :: _ | '\r' :: _ => true
    | _ => false
  let shown :=
    if atBreak then raw.map fun c => if c == '\r' then '␍' else if c == '\n' then '␊' else c
    else raw.filter fun c => c != '\r' && c != '\n'
  let number := toString line
  let gutter := String.ofList (List.replicate number.length ' ')
  let underline := (shown.take (column - 1)).map fun c => if c == '\t' then '\t' else ' '
  gutter ++ "--> " ++ number ++ ":" ++ toString column ++ "\n" ++
    gutter ++ " |\n" ++
    number ++ " | " ++ String.ofList shown ++ "\n" ++
    gutter ++ " | " ++ String.ofList underline ++ "^---\n" ++
    gutter ++ " |\n" ++
    gutter ++ " = " ++ message

end Peg

end Unwinding
