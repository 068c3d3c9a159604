import Unwinding.Context
import Unwinding.Json.Value

/-!
# Probing the frame ledger

`probe` pushes frames labelled `probe 0`, `probe 1`, … onto a fresh context and reports
the backtrace at the deepest one. When the depth limit refuses a push, the report is the
stack overflow diagnostic instead, whose backtrace shows the frames that did fit. Either way
the frames pushed are popped again before the report is given.

Frames are printed by a small printer: `~A` inserts the next datum, `~S` inserts it in
double quotes, `~%` is a line break and `~~` a tilde.
-/

namespace Unwinding

/-- Text frames are shown in double quotes with escapes when no printer is registered. -/
instance : Inspect String := ⟨Text.quoted⟩

namespace Cli

/-- Expands a directive over text data. -/
def expandDirective (directive : String) : List Char → List String → Except String String
  | [], _ => .ok ""
  | '~' :: c :: rest, data =>
    let next : Except String (String × List String) :=
      match data with
      | d :: more => .ok (d, more)
      | [] => .error ("not enough data for " ++ Text.quoted directive)
    let goOn (text : String) (data : List String) : Except String String :=
      (expandDirective directive rest data).map (text ++ ·)
    if c == 'A' || c == 'a' then
      match next with
      | .ok (d, more) => goOn d more
      | .error e => .error e
    else if c == 'S' || c == 's' then
      match next with
      | .ok (d, more) => goOn ("\"" ++ d ++ "\"") more
      | .error e => .error e
    else if c == '%' then goOn "\n" data
    else if c == '~' then goOn "~" data
    else .error ("unknown directive ~" ++ String.singleton c)
  | ['~'], _ => .error "directive ends with ~"
  | c :: rest, data => (expandDirective directive rest data).map (String.singleton c ++ ·)

/-- The printer of probe frames. -/
def framePrinter : Formatter String where
  render directive data :=
    match expandDirective directive directive.toList data with
    | .ok text => .text text
    | .error message => .failure message

/-- The label of the frame pushed at a depth. -/
def probeLabel (depth : Nat) : String := "probe " ++ toString depth

/-- How a probe ended. -/
inductive ProbeStatus where
  | ok
  | overflow
  deriving DecidableEq, Inhabited, Repr

/-- The name of a probe status. -/
def ProbeStatus.name : ProbeStatus → String
  | .ok => "ok"
  | .overflow => "overflow"

/-- What a probe reports: how it ended and the backtrace or diagnostic it took. -/
structure ProbeReport where
  status : ProbeStatus
  report : String
  deriving DecidableEq, Inhabited, Repr

/-- Pushes the frames `probe pushed`, `probe (pushed + 1)`, …, `remaining` more of them, and
stops at the first push the depth limit refuses. Gives how many frames are pushed in all, the
refusal if there was one, and the context after. -/
def pushFrames (c : Context String) (pushed : Nat) : Nat → Nat × Except Fatal Unit × Context String
  | 0 => (pushed, .ok (), c)
  | remaining + 1 =>
    match c.pushFrame (probeLabel pushed) with
    | (.error fatal, c) => (pushed, .error fatal, c)
    | (.ok (), c) => pushFrames c (pushed + 1) remaining

/-- Pops `count` frames and then gives `answer`; a pop that fails ends the loop with its
error instead. -/
def popFrames (answer : Except Fatal String) (c : Context String) :
    Nat → Except Fatal String × Context String
  | 0 => (answer, c)
  | count + 1 =>
    match c.popFrame with
    | (.error fatal, c) => (.error fatal, c)
    | (.ok _, c) => popFrames answer c count

/-- Pushes `frames` frames, takes the backtrace at the deepest one, then pops every frame that
was pushed. A refused push ends the pushes and its stack overflow is the answer; frames are
pushed one at a time, so a deep probe is no deep recursion. -/
def descend (c : Context String) (frames : Nat) : Except Fatal String × Context String :=
  let (pushed, outcome, c) := pushFrames c 0 frames
  popFrames (outcome.map fun () => c.backtrace) c pushed

/-- Probes a fresh context of the given depth limit with the frame printer registered: the
backtrace at the bottom, or the report of the stack overflow that stopped the descent. Any
other failure of the descent is passed on. -/
def probe (limit frames : Nat) : Except Fatal ProbeReport :=
  let c : Context String := Context.withLimit limit
  match (descend { c with formatter := some framePrinter } frames).1 with
  | .ok backtrace => .ok { status := .ok, report := backtrace }
  | .error (.stackOverflow _ report) => .ok { status := .overflow, report := report.display }
  | .error other => .error other

/-- The report as JSON, with its keys in order. -/
def ProbeReport.toJson (r : ProbeReport) (frames limit : Nat) : Json :=
  .object [("frames", .int frames), ("limit", .int limit), ("report", .string r.report),
    ("status", .string r.status.name)]

end Cli

end Unwinding
