import TerseMarkup.Proofs.Document.Numbering
import TerseMarkup.Proofs.Rendering.StepLaw
import TerseMarkup.Proofs.Reports

/-!
# What rendering reports

Rendering reports limits and nothing else, and it reports them on the lines of
the nodes that it renders, in the order of these: a block before the nodes of
its body. This holds on every budget.
-/

namespace TerseMarkup

namespace Render

variable {α β : Type}

/-- `step.Reports lines` says that the step reports limits only, and follows
the lines with that. -/
def Reports (step : Render α) (lines : List Nat) : Prop :=
  ∀ budget : Budget, Follows [.limit] lines (step budget).diagnostics

/-- All the reports of a step are about limits on one line. -/
def ReportsOn (step : Render α) (line : Nat) : Prop :=
  ∀ budget : Budget, ∀ diagnostic ∈ (step budget).diagnostics,
    diagnostic.kind ∈ [DiagnosticKind.limit] ∧ diagnostic.line = some line

theorem ReportsOn.reports {step : Render α} {line : Nat}
    (reportsOn : step.ReportsOn line) : step.Reports [line] :=
  fun budget => Follows.of_line (reportsOn budget)

protected theorem ReportsOn.pure (line : Nat) (value : α) :
    (pure value : Render α).ReportsOn line := by
  intro budget diagnostic member
  exact absurd member List.not_mem_nil

protected theorem ReportsOn.bind {line : Nat} {first : Render α}
    {second : α → Render β} (firstReports : first.ReportsOn line)
    (secondReports : ∀ value, (second value).ReportsOn line) :
    (first >>= second).ReportsOn line := by
  intro budget diagnostic member
  rw [bind_apply] at member
  rcases List.mem_append.mp member with before | after
  · exact firstReports budget diagnostic before
  · exact secondReports _ _ diagnostic after

protected theorem Reports.pure (lines : List Nat) (value : α) :
    (pure value : Render α).Reports lines :=
  fun _ => Follows.silent [.limit] lines

protected theorem Reports.bind {lines others : List Nat} {first : Render α}
    {second : α → Render β} (firstReports : first.Reports lines)
    (secondReports : ∀ value, (second value).Reports others) :
    (first >>= second).Reports (lines ++ others) := by
  intro budget
  rw [bind_apply]
  exact (firstReports budget).append (secondReports _ _)

theorem Reports.bind_pure {lines : List Nat} {step : Render α}
    (reports : step.Reports lines) (result : α → β) :
    (step >>= fun value => pure (result value)).Reports lines := by
  have silentAfter := reports.bind fun value =>
    Reports.pure [] (result value)
  rw [List.append_nil] at silentAfter
  exact silentAfter

/-! ## Lines -/

theorem charge_reportsOn (line cost : Nat) :
    (charge line cost).ReportsOn line := by
  intro budget diagnostic member
  unfold charge at member
  split at member
  · exact absurd member List.not_mem_nil
  · split at member
    · exact absurd member List.not_mem_nil
    · rw [List.mem_singleton.mp member]
      exact ⟨List.mem_cons_self, rfl⟩

/-- What is rendered on a line is reported on that line. -/
theorem reportsOn_law (options : Options) (line : Nat) :
    Law options line fun step => step.ReportsOn line where
  pure := ReportsOn.pure line
  bind := ReportsOn.bind
  charge := charge_reportsOn line
  report := by
    intro element budget diagnostic member
    rw [List.mem_singleton.mp member]
    exact ⟨List.mem_cons_self, rfl⟩

end Render

/-! ## Nodes -/

namespace Node

mutual

/-- The reports on a node follow the lines of the nodes from it on. -/
theorem render_reports (options : Options) : ∀ node : Node,
    (Node.render options node).Reports (node.preorder.map Node.line)
  | .passage line head form text =>
      ((Render.charge_reportsOn line 1).bind fun _ =>
        Render.ReportsOn.pure line _).reports
  | .markup line head body => by
      rw [preorder, List.map_cons, ← List.singleton_append]
      refine (Render.charge_reportsOn line 1).reports.bind ?_
      intro paid
      cases paid with
      | true =>
          exact (renderAll_reports options body).bind_pure
            fun inner => [Fragment.block head.tag head.headAttributes inner]
      | false =>
          -- The body is left out, and its lines are passed without a report.
          exact Render.Reports.pure _ []
  | .inline line element =>
      ((Render.reportsOn_law options line).element element []).reports
  | .nesting line chain =>
      ((Render.reportsOn_law options line).chain chain).reports
  | .siblings line parent others =>
      ((Render.reportsOn_law options line).siblings parent others).reports

theorem renderAll_reports (options : Options) : ∀ nodes : List Node,
    (Node.renderAll options nodes).Reports
      ((preorderAll nodes).map Node.line)
  | [] => Render.Reports.pure [] []
  | node :: rest => by
      rw [preorderAll, List.map_append]
      exact (render_reports options node).bind fun first =>
        (renderAll_reports options rest).bind_pure fun others =>
          first ++ others

end

end Node

end TerseMarkup
