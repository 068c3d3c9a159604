import Unwinding.Proofs.Context
import Unwinding.Proofs.Backtrace

/-!
# Stack overflow reports

A push onto a full ledger is refused with a stack overflow, and the report of that overflow
is raised on the frames then pending. This module spells the report out: the printer's text
for the overflow directive (or a marker with the printer's failure), a blank line, and a
backtrace with one numbered line for each pending frame, newest first. Without a printer the
report keeps only the directive.

The main statement is `pushFrame_refused_exactly_at_limit`.
-/

namespace Unwinding

variable {α : Type} [Inspect α]

namespace Context

/-- A diagnostic is unformatted exactly when no printer is registered. -/
theorem isUnformatted_raise (c : Context α) (directive : String) (data : List α) :
    (c.raise directive data).isUnformatted = c.formatter.isNone := by
  cases registered : c.formatter with
  | none => simp [raise, registered, Fatal.isUnformatted]
  | some f => simp [raise, registered, Fatal.isUnformatted]

/-- A push is refused exactly when the ledger is full, with a stack overflow raised on the
pending frames, which it leaves as they were; the hypothesis holds of every ledger requests
reach (`Ledger.depth_respond_le`). -/
theorem pushFrame_refused_exactly_at_limit (c : Context α) (frame : α)
    (bounded : c.depth ≤ c.limit) :
    ((∃ e c', c.pushFrame frame = (.error e, c')) ↔ c.depth = c.limit) ∧
    (c.depth = c.limit →
      ∃ report, c.pushFrame frame =
          (.error (.stackOverflow c.limit report), { c with ledger := c.ledger.settle }) ∧
        report = c.raise stackOverflowDirective [] ∧
        ({ c with ledger := c.ledger.settle } : Context α).ledger.pending = c.ledger.pending ∧
        (∀ f, c.formatter = some f →
          ∃ text lines,
            report = .raised (text ++ "\n\n" ++ backtraceHeader ++ "\n".intercalate lines) ∧
            text = (match f.format stackOverflowDirective [] with
              | .ok text => text
              | .error e => "#<error formatting " ++ stackOverflowDirective ++ ": " ++ e ++ ">") ∧
            lines = c.ledger.newestFirst.mapIdx
              (fun n x => toString n ++ ": " ++ renderDatum c.formatter x) ∧
            lines.length = c.limit) ∧
        (c.formatter = none → report = .unformatted stackOverflowDirective) ∧
        (Fatal.stackOverflow c.limit report).isUnformatted = c.formatter.isNone ∧
        (Fatal.stackOverflow c.limit report).display = report.display) := by
  refine ⟨⟨fun ⟨e, c', refused⟩ => ?_, fun full => ?_⟩, fun full => ?_⟩
  · obtain ⟨full, -, -⟩ := pushFrame_eq_error refused
    exact Nat.le_antisymm bounded full
  · exact ⟨_, _, pushFrame_of_le (Nat.le_of_eq full.symm) frame⟩
  · refine ⟨_, pushFrame_of_le (Nat.le_of_eq full.symm) frame, rfl, rfl, fun f registered => ?_,
      fun unregistered => by simp [raise, unregistered], isUnformatted_raise c _ _, rfl⟩
    have lines_length :
        (c.ledger.newestFirst.mapIdx
          fun n x => toString n ++ ": " ++ renderDatum c.formatter x).length = c.limit := by
      rw [List.length_mapIdx, Ledger.newestFirst_eq_reverse, List.length_reverse,
        ← Ledger.depth_eq_length]
      exact full
    refine ⟨_, _, ?_, rfl, rfl, lines_length⟩
    cases formatted : f.format stackOverflowDirective [] <;>
      simp only [raise, registered, formatted, backtrace, renderFrames_eq_lines,
        String.append_assoc]

/-- A ledger full with one frame refuses the next push and keeps its frame; with the label
printer the report is the directive and a backtrace of that one frame. -/
theorem full_ledger_reports_its_frame :
    ({ ledger := { limit := 1, pending := #[.int 7] }, formatter := some Printers.label } :
        Context Value).depth ≤ 1 ∧
      ∃ report c',
        ({ ledger := { limit := 1, pending := #[.int 7] }, formatter := some Printers.label } :
          Context Value).pushFrame (.int 8) = (.error (.stackOverflow 1 report), c') ∧
        c'.ledger.pending = #[.int 7] ∧ report.display = "stack overflow\n\nBacktrace:\n0: 7" := by
  obtain ⟨-, atLimit⟩ := pushFrame_refused_exactly_at_limit
    ({ ledger := { limit := 1, pending := #[.int 7] }, formatter := some Printers.label } :
      Context Value) (.int 8) (by decide)
  obtain ⟨report, pushed, -, kept, printed, -⟩ := atLimit rfl
  obtain ⟨text, lines, report_eq, text_eq, lines_eq, -⟩ := printed _ rfl
  refine ⟨by decide, report, _, pushed, kept, ?_⟩
  rw [report_eq, text_eq, lines_eq]
  rfl

end Context

end Unwinding
