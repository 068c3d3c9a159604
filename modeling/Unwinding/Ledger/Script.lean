import Unwinding.Ledger

/-!
# Requests to a ledger

A ledger driven by a list of requests, each answered with what it gave and the depth and
emptiness afterwards.
-/

namespace Unwinding

namespace Ledger

variable {α : Type}

/-- A request to a ledger. -/
inductive Request (α : Type) where
  | push (frame : α)
  | pop
  | popUnwinding
  | settle
  | newest
  | unwound

/-- What a request gave. -/
inductive Response (α : Type) where
  | ok
  | refused (e : DepthExceeded)
  | popped (frame : α)
  | underflow
  | frames (fs : List α)

/-- Serves one request. -/
def respond (l : Ledger α) : Request α → Response α × Ledger α
  | .push frame =>
    match l.push frame with
    | (.ok (), l') => (.ok, l')
    | (.error e, l') => (.refused e, l')
  | .pop =>
    match l.pop with
    | some (frame, l') => (.popped frame, l')
    | none => (.underflow, l)
  | .popUnwinding =>
    match l.popUnwinding with
    | some l' => (.ok, l')
    | none => (.underflow, l)
  | .settle => (.ok, l.settle)
  | .newest => (.frames l.newestFirst, l)
  | .unwound => (.frames l.unwoundFirst, l)

/-- Serves requests in turn; each answer comes with the depth and emptiness after it. -/
def serve (l : Ledger α) : List (Request α) → List (Response α × Nat × Bool)
  | [] => []
  | r :: rest =>
    let (answer, l') := l.respond r
    (answer, l'.depth, l'.isEmpty) :: l'.serve rest

end Ledger

end Unwinding
