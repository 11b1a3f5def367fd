import TerseMarkup.Proofs.Document.Shifting
import TerseMarkup.Proofs.Rendering.Emission
import TerseMarkup.Proofs.Html.Writing
import TerseMarkup.Proofs.Source.Lines
import TerseMarkup.Proofs.Source.Placement

/-!
# One source after another

A source in which every block and every block comment is closed ends where its
lines end: nothing of it reaches into lines that follow. The document of two
such sources, one after the other, is the document of the first and then that
of the second, and the same holds of the reports and of the HTML.
-/

namespace TerseMarkup

/-- No report is about a block or a block comment that is never closed. -/
def NoUnclosed (diagnostics : List Diagnostic) : Prop :=
  ∀ diagnostic ∈ diagnostics,
    diagnostic.kind ≠ .unclosedBlock ∧ diagnostic.kind ≠ .unclosedComment

theorem noUnclosed_append {first second : List Diagnostic} :
    NoUnclosed (first ++ second) ↔ NoUnclosed first ∧ NoUnclosed second :=
  List.forall_mem_append

def Parsed.append (first second : Parsed) : Parsed where
  document := first.document ++ second.document
  diagnostics := first.diagnostics ++ second.diagnostics

namespace Cursor

def extend (cursor : Cursor) (lines : List Line) : Cursor :=
  ⟨cursor.number, cursor.remaining ++ lines⟩

theorem Behind.stop_eq {later earlier : Cursor}
    (behind : later.Behind earlier) : later.stop = earlier.stop := by
  obtain ⟨passed, lines, number⟩ := behind
  unfold stop
  rw [lines, number, List.length_append, Nat.add_assoc]

theorem stop_of_next {cursor after : Cursor} {line : SignificantLine}
    (found : cursor.next = (.line line, after)) :
    after.stop = cursor.stop := by
  obtain ⟨raw, _, _, afterNumber, rawBehind⟩ := behind_of_next found
  exact (rawBehind.next afterNumber).stop_eq

theorem stop_of_takeBody? {cursor body rest : Cursor}
    (taken : cursor.takeBody? = some (body, rest)) :
    rest.stop = cursor.stop := by
  obtain ⟨_, restBehind, _⟩ := inside_of_takeBody? taken
  exact restBehind.stop_eq

section Extend

variable {cursor after : Cursor} (lines : List Line)

theorem next_extend {line : SignificantLine}
    (found : cursor.next = (.line line, after)) :
    (cursor.extend lines).next = (.line line, after.extend lines) := by
  have nextIs := nextIs_of_next found
  cases nextIs with
  | @line skipped rest raw isSkipped split plain significant =>
      rw [Cursor.next, extend, split, List.append_assoc, List.cons_append,
        nextFrom_of_skipped isSkipped,
        nextFrom_of_significant _ _ plain significant]
      rfl

/-- Where nothing is found, what follows is read next. -/
theorem next_extend_of_nothing (found : cursor.next = (.nothing, after)) :
    (cursor.extend lines).next = (Cursor.mk cursor.stop lines).next := by
  have nextIs := nextIs_of_next found
  cases nextIs with
  | nothing skipped =>
      rw [Cursor.next, extend, nextFrom_of_skipped skipped]
      rfl

theorem takeBody?_extend {body rest : Cursor}
    (taken : cursor.takeBody? = some (body, rest)) :
    (cursor.extend lines).takeBody? = some (body, rest.extend lines) := by
  obtain ⟨closer, split, isBody, bodyNumber, restNumber⟩ :=
    isBody_of_takeBody? taken
  rw [extend, split, List.append_assoc, List.cons_append,
    takeBody?_of_isBody isBody, ← restNumber, ← bodyNumber]
  rfl

end Extend

/-- Lines that follow a scope in which all is closed are read after it. Only
the lines of the scope itself are followed; bodies are taken whole. -/
theorem extend_invariant (options : Options) (lines : List Line) :
    Invariant options
      (fun depth cursor parsed =>
        NoUnclosed parsed.diagnostics →
          (cursor.extend lines).parse options depth =
            parsed.append
              ((Cursor.mk cursor.stop lines).parse options depth))
      (fun _ _ _ _ _ => True) where
  nothing found _ := parse_of_next_eq (next_extend_of_nothing lines found)
  comment _ closed := absurd rfl (closed _ List.mem_cons_self).2
  unclosed _ _ _ closed := absurd rfl (closed _ List.mem_cons_self).1
  closed found opener taken _ restHypothesis closed := by
    have sameStop := (stop_of_takeBody? taken).trans (stop_of_next found)
    obtain ⟨_, restClosed⟩ := noUnclosed_append.mp closed
    rw [parse_of_block (next_extend lines found) opener
        (takeBody?_extend lines taken),
      restHypothesis restClosed, sameStop]
    simp only [Parsed.append, List.cons_append, List.append_assoc]
  closing found notOpener closing restHypothesis closed := by
    rw [parse_of_closing (next_extend lines found) notOpener closing,
      restHypothesis closed, stop_of_next found]
  line found notOpener notClosing restHypothesis closed := by
    obtain ⟨_, restClosed⟩ := noUnclosed_append.mp closed
    rw [parse_of_line (next_extend lines found) notOpener notClosing,
      restHypothesis restClosed, stop_of_next found]
    simp only [Parsed.append, List.cons_append, List.append_assoc]
  verbatim _ := trivial
  raw _ := trivial
  deep _ _ _ := trivial
  markup _ _ _ _ := trivial

end Cursor

namespace Document

theorem parse_append_feed (options : Options) (first second : String)
    (closed : NoUnclosed (Document.parse options first).diagnostics) :
    Document.parse options (first ++ "\n" ++ second) =
      (Document.parse options first).append
        ((Document.parse options second).shift
          (sourceLines first.toList).length) := by
  have lines : sourceLines (first ++ "\n" ++ second).toList =
      sourceLines first.toList ++ sourceLines second.toList := by
    rw [← sourceLines_append]
    simp
  have later : Cursor.mk (1 + (sourceLines first.toList).length)
      (sourceLines second.toList) =
        (Cursor.mk 1 (sourceLines second.toList)).shift
          (sourceLines first.toList).length := rfl
  have both := (Cursor.extend_invariant options
    (sourceLines second.toList)).parsed 0 ⟨1, sourceLines first.toList⟩ closed
  rw [Cursor.stop, later, Cursor.parse_shift] at both
  rw [Document.parse, lines]
  exact both

/-- A budget that holds two documents, one after the other, holds each of
them, wherever their lines are. -/
theorem html_render_append {options : Options} {first second : Document}
    {offset : Nat}
    (enough : Document.demand options
      (first ++ Node.shiftAll offset second) ≤ options.maxElements) :
    (Document.render options (first ++ Node.shiftAll offset second)).1 =
      (Document.render options first).1 ++
        (Document.render options second).1 := by
  have total : Document.demand options (first ++ Node.shiftAll offset second) =
      Document.demand options first + Document.demand options second := by
    unfold Document.demand
    rw [Node.demandAll_append, Node.demandAll_shift]
  have firstEnough :
      Document.demand options first ≤ options.maxElements := by omega
  have secondEnough :
      Document.demand options second ≤ options.maxElements := by omega
  rw [render_of_le enough, render_of_le firstEnough,
    render_of_le secondEnough, Node.expansionAll_append,
    Node.expansionAll_shift, Fragment.htmlAll_append]

/-- Two sources with a line feed between them, the first of them with every
block and block comment closed, are read one after the other: the nodes and
the reports of the second follow those of the first, with their lines as far
down at every depth as the first source is long. If the budget holds both, the
HTML of the second follows that of the first. -/
theorem parse_sequence (options : Options) (first second : String)
    (closed : ∀ diagnostic ∈ (Document.parse options first).diagnostics,
      diagnostic.kind ≠ .unclosedBlock ∧
        diagnostic.kind ≠ .unclosedComment) :
    (Document.parse options (first ++ "\n" ++ second)).document =
        (Document.parse options first).document ++
          (Document.parse options second).document.map
            (Node.shift (sourceLines first.toList).length) ∧
      (Document.parse options (first ++ "\n" ++ second)).diagnostics =
        (Document.parse options first).diagnostics ++
          (Document.parse options second).diagnostics.map
            (Diagnostic.shift (sourceLines first.toList).length) ∧
      ((∀ diagnostic ∈ (Document.render options
            (Document.parse options (first ++ "\n" ++ second)).document).2,
          diagnostic.message ≠ Budget.overrunMessage options.maxElements) →
        (Document.render options
            (Document.parse options (first ++ "\n" ++ second)).document).1 =
          (Document.render options
              (Document.parse options first).document).1 ++
            (Document.render options
              (Document.parse options second).document).1) := by
  have whole := parse_append_feed options first second closed
  have document := congrArg Parsed.document whole
  have reports := congrArg Parsed.diagnostics whole
  dsimp only [Parsed.append, Parsed.shift] at document reports
  refine ⟨?_, reports, ?_⟩
  · rw [document, Node.shiftAll_eq_map]
  · intro unreported
    have enough := demand_le_of_unreported unreported
    rw [document] at enough ⊢
    exact html_render_append enough

/-- The first source ends with a carriage return and has a token that is no
element, the second one leaves a block open. -/
theorem parse_sequence_unclosed :
    let first := "ul\\\x7b\nli\x7b&index;\x7d*2 + ?\n\\\x7d\r"
    let second := "#\x7b\nx\n#\x7d\nb > i\ndiv\\\x7b"
    (∀ diagnostic ∈ (Document.parse {} first).diagnostics,
        diagnostic.kind ≠ .unclosedBlock ∧
          diagnostic.kind ≠ .unclosedComment) ∧
      (Document.parse {} (first ++ "\n" ++ second)).diagnostics =
        [(Fault.grammar "?" 2).diagnostic,
          (Fault.unclosedBlock "div" 8).diagnostic] ∧
      (Document.render {}
          (Document.parse {} (first ++ "\n" ++ second)).document).1 =
        (Document.render {} (Document.parse {} first).document).1 ++
          "<b>\n<i></i>\n</b>\n" := by
  intro first second
  have closed : ∀ diagnostic ∈ (Document.parse {} first).diagnostics,
      diagnostic.kind ≠ .unclosedBlock ∧
        diagnostic.kind ≠ .unclosedComment := by
    decide +kernel
  obtain ⟨_, reports, html⟩ := parse_sequence {} first second closed
  refine ⟨closed, reports.trans (by decide +kernel), ?_⟩
  rw [html (by decide +kernel)]
  decide +kernel

end Document

end TerseMarkup
