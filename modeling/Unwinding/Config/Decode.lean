import Unwinding.Config.Layer

/-!
# Reading a configuration from a setting tree

The tree has a `runtime` and a `logging` section; each is a table (or an array, read by
position) whose one field is read by conversion, and is left at its default when absent.
Other keys are ignored. A section of another shape is a type error; a field that does not
convert is a type error with the key path to it. The first error in the order of the
tree's keys is reported.
-/

namespace Unwinding

namespace Setting

/-- How a section of an unexpected shape is described: the kind of scalar and its text. -/
def shapeDescription (s : Setting) : String :=
  match s.kind with
  | .nil => "unit value"
  | .bool b => "boolean `" ++ toString b ++ "`"
  | .int n => "integer `" ++ toString n ++ "`"
  | .uint n => "integer `" ++ toString n ++ "`"
  | .float x => "floating point `" ++ Decimal.render .pointed x ++ "`"
  | .text t => "string " ++ Text.quoted t
  | .table _ => "map"
  | .array _ => "sequence"

/-- Reads a section with one field, `field`, converted by `read`; `fallback` when the
field is absent. -/
def readSection {α : Type} (name field : String) (read : Setting → Except LoadError α)
    (fallback : α) (s : Setting) : Except LoadError α :=
  match s.kind with
  | .table entries =>
    match entries.lookup field with
    | some v => (read v).mapError (LoadError.underKey field)
    | none => .ok fallback
  | .array items =>
    match items with
    | v :: _ => (read v).mapError (LoadError.underIndex 0)
    | [] => .ok fallback
  | _ => .error (.message ("invalid type: " ++ s.shapeDescription ++ ", expected struct " ++ name))

end Setting

namespace Config

/-- Reads one top-level entry into the configuration built so far. -/
def readEntry (c : Config) (entry : String × Setting) : Except LoadError Config :=
  let (key, s) := entry
  if key == "runtime" then
    (s.readSection "RuntimeConfig" "max_depth" Setting.toUnsigned defaultDepthLimit).map
      (fun d => { c with maxDepth := d }) |>.mapError (LoadError.underKey key)
  else if key == "logging" then
    (s.readSection "LoggingConfig" "filter" Setting.toText defaultFilter).map
      (fun f => { c with filter := f }) |>.mapError (LoadError.underKey key)
  else .ok c

/-- Reads a configuration from a setting tree. -/
def ofSetting (root : Setting) : Except LoadError Config :=
  match root.kind with
  | .table entries => entries.foldlM readEntry {}
  | _ => .error (.message ("invalid type: " ++ root.shapeDescription ++ ", expected struct Config"))

end Config

end Unwinding
