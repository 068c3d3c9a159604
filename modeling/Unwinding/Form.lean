import Unwinding.Value

/-!
# Forms

A small language of forms, enough to drive every part of the kernel: constants and a log,
sequences, blocks and `return-from`, tag bodies and `go`, catchers and `throw`, raised
diagnostics and errors, and plain recursion to a given depth.
-/

namespace Unwinding

mutual

/-- A form of the language. -/
inductive Form where
  | const (v : Value)
  /-- Evaluates the inner form and appends its value to the log. -/
  | emit (inner : Form)
  | progn (body : List Form)
  | block (name : Ident) (body : List Form)
  | returnFrom (name : Ident) (value : Form)
  | tagbody (level : Nat) (clauses : List Clause)
  | go (level index : Nat)
  /-- Evaluates the inner form while the log is shorter than `length`, else gives `nil`. -/
  | whenLogShorter (length : Nat) (inner : Form)
  | catcher (tag : Form) (body : List Form)
  | throw (tag value : Form)
  | raise (directive : String) (data : List Form)
  | error (message : String)
  /-- Nests `depth` further frames of itself around the body. -/
  | recurse (depth : Nat) (body : Form)

/-- A clause of a tag body: a tag, or a statement. -/
inductive Clause where
  | tag (t : Nat)
  | stmt (form : Form)

end

namespace Form

/-- The label of the frame a form is evaluated in. -/
def frameLabel : Form → String
  | const _ => "const"
  | emit _ => "emit"
  | progn _ => "progn"
  | block name _ => "(block " ++ name.name ++ ")"
  | returnFrom name _ => "(return-from " ++ name.name ++ ")"
  | tagbody level _ => "(tagbody " ++ toString level ++ ")"
  | go level index => "(go " ++ toString level ++ " " ++ toString index ++ ")"
  | whenLogShorter .. => "when"
  | catcher .. => "(catch)"
  | throw .. => "(throw)"
  | raise .. => "(raise)"
  | error _ => "(error)"
  | recurse depth _ => "(recurse " ++ toString depth ++ ")"

/-- The frame a form is evaluated in: its label, as a string the runtime makes. -/
def frame (form : Form) : Value := .str form.frameLabel 0

end Form

namespace Clause

/-- Whether a clause is the tag `t`. -/
def isTag (t : Nat) : Clause → Bool
  | tag u => u == t
  | stmt _ => false

/-- Whether a clause is a tag at all. -/
def isAnyTag : Clause → Bool
  | tag _ => true
  | stmt _ => false

end Clause

/-- The number of tags of a tag body. -/
def tagCount (clauses : List Clause) : Nat := clauses.countP Clause.isAnyTag

/-- The position of the first tag `t` of a tag body. -/
def tagPosition (clauses : List Clause) (t : Nat) : Option Nat := clauses.findIdx? (Clause.isTag t)

end Unwinding
