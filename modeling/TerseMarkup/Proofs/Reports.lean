import Mathlib.Data.List.Basic
import TerseMarkup.Diagnostic

/-!
# Reports in the order of lines

Reports follow a list of lines if each of them is on one of the lines, in the
order in which these are listed. Reports that follow some lines, and then
others that follow later lines, follow all of these lines together.
-/

namespace TerseMarkup

/-- `Follows kinds lines diagnostics` says that the reports are of these kinds
and that they follow these lines. There can be any number of reports on a
line. -/
inductive Follows (kinds : List DiagnosticKind) :
    List Nat → List Diagnostic → Prop
  | nil : Follows kinds [] []
  | pass {line : Nat} {lines : List Nat} {diagnostics : List Diagnostic} :
      Follows kinds lines diagnostics →
      Follows kinds (line :: lines) diagnostics
  | report {line : Nat} {lines : List Nat} {diagnostic : Diagnostic}
      {diagnostics : List Diagnostic} :
      diagnostic.kind ∈ kinds → diagnostic.line = some line →
      Follows kinds (line :: lines) diagnostics →
      Follows kinds (line :: lines) (diagnostic :: diagnostics)

/-- `InLineOrder kinds onLine diagnostics` says that the reports are of these
kinds, each on a line of which `onLine` holds, and that their lines do not
decrease. -/
structure InLineOrder (kinds : List DiagnosticKind) (onLine : Nat → Prop)
    (diagnostics : List Diagnostic) : Prop where
  kind_mem : ∀ diagnostic ∈ diagnostics, diagnostic.kind ∈ kinds
  numbered : ∃ numbers : List Nat,
    diagnostics.map (·.line) = numbers.map some ∧
      numbers.Pairwise (· ≤ ·) ∧ ∀ number ∈ numbers, onLine number

namespace Follows

variable {kinds : List DiagnosticKind} {lines others : List Nat}
  {diagnostics later : List Diagnostic}

theorem silent (kinds : List DiagnosticKind) (lines : List Nat) :
    Follows kinds lines [] := by
  induction lines with
  | nil => exact .nil
  | cons line rest inductionHypothesis => exact .pass inductionHypothesis

theorem append (first : Follows kinds lines diagnostics)
    (second : Follows kinds others later) :
    Follows kinds (lines ++ others) (diagnostics ++ later) := by
  induction first with
  | nil => exact second
  | pass _ inductionHypothesis => exact .pass inductionHypothesis
  | report isOfKind onLine _ inductionHypothesis =>
      exact .report isOfKind onLine inductionHypothesis

/-- Lines without reports make no difference. -/
theorem sublist (follows : Follows kinds lines diagnostics)
    (among : lines.Sublist others) : Follows kinds others diagnostics := by
  induction among generalizing diagnostics with
  | slnil => exact follows
  | cons line _ inductionHypothesis => exact .pass (inductionHypothesis follows)
  | cons_cons line _ inductionHypothesis =>
      -- All reports on the line come before it is passed.
      induction diagnostics with
      | nil => exact silent kinds _
      | cons diagnostic later laterHypothesis =>
          cases follows with
          | pass rest => exact .pass (inductionHypothesis rest)
          | report isOfKind onLine rest =>
              exact .report isOfKind onLine (laterHypothesis rest)

theorem of_line {line : Nat}
    (onLine : ∀ diagnostic ∈ diagnostics,
      diagnostic.kind ∈ kinds ∧ diagnostic.line = some line) :
    Follows kinds [line] diagnostics := by
  induction diagnostics with
  | nil => exact silent kinds [line]
  | cons diagnostic rest inductionHypothesis =>
      obtain ⟨⟨isOfKind, here⟩, restOnLine⟩ := List.forall_mem_cons.mp onLine
      exact .report isOfKind here (inductionHypothesis restOnLine)

theorem kind_mem (follows : Follows kinds lines diagnostics) :
    ∀ diagnostic ∈ diagnostics, diagnostic.kind ∈ kinds := by
  induction follows with
  | nil =>
      intro diagnostic member
      contradiction
  | pass _ inductionHypothesis => exact inductionHypothesis
  | report isOfKind _ _ inductionHypothesis =>
      exact List.forall_mem_cons.mpr ⟨isOfKind, inductionHypothesis⟩

theorem exists_numbers (follows : Follows kinds lines diagnostics)
    (increasing : lines.Pairwise (· ≤ ·)) :
    ∃ numbers : List Nat,
      diagnostics.map (·.line) = numbers.map some ∧
        numbers.Pairwise (· ≤ ·) ∧ ∀ number ∈ numbers, number ∈ lines := by
  induction follows with
  | nil => exact ⟨[], rfl, List.Pairwise.nil, fun _ member => member⟩
  | pass _ inductionHypothesis =>
      obtain ⟨numbers, onLines, ordered, among⟩ :=
        inductionHypothesis increasing.of_cons
      exact ⟨numbers, onLines, ordered,
        fun number member => List.mem_cons_of_mem _ (among number member)⟩
  | @report line rest diagnostic later _ onLine _ inductionHypothesis =>
      obtain ⟨numbers, onLines, ordered, among⟩ :=
        inductionHypothesis increasing
      have first : ∀ number ∈ numbers, line ≤ number := by
        intro number member
        rcases List.mem_cons.mp (among number member) with rfl | laterLine
        · exact Nat.le_refl _
        · exact List.rel_of_pairwise_cons increasing laterLine
      refine ⟨line :: numbers, ?_, List.pairwise_cons.mpr ⟨first, ordered⟩,
        List.forall_mem_cons.mpr ⟨List.mem_cons_self, among⟩⟩
      rw [List.map_cons, List.map_cons, onLine, onLines]

/-- Reports that follow lines from first to last are in the order of these
lines. -/
theorem inLineOrder {onLine : Nat → Prop}
    (follows : Follows kinds lines diagnostics)
    (increasing : lines.Pairwise (· ≤ ·))
    (holds : ∀ line ∈ lines, onLine line) :
    InLineOrder kinds onLine diagnostics where
  kind_mem := follows.kind_mem
  numbered := by
    obtain ⟨numbers, onLines, ordered, among⟩ :=
      follows.exists_numbers increasing
    exact ⟨numbers, onLines, ordered,
      fun number member => holds number (among number member)⟩

end Follows

end TerseMarkup
