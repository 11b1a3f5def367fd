import TerseMarkup.Compilation
import TerseMarkup.Proofs.Document.Literals
import TerseMarkup.Proofs.Expression.Pieces
import TerseMarkup.Proofs.Rendering.LimitReports

/-!
# The order of the reports on a source

A source is reported on three times: when it is read, when its document is
rendered, and when the expressions in the HTML are given values. The first two
go down the lines of the source, each from the top. The third has no lines to
name any more.
-/

namespace TerseMarkup

/-! ## The lines of a cursor -/

namespace Cursor

def numbers (cursor : Cursor) : List Nat :=
  List.range' cursor.number cursor.remaining.length

theorem Inside.numbers_sublist {inner outer : Cursor}
    (inside : inner.Inside outer) :
    inner.numbers.Sublist outer.numbers := by
  obtain ⟨before, after, lines, number⟩ := inside
  unfold numbers
  rw [lines, List.length_append, List.length_append, ← List.range'_append_1,
    ← List.range'_append_1, ← number]
  exact (List.sublist_append_left _ _).trans (List.sublist_append_right _ _)

theorem numbers_next {cursor after : Cursor} {line : SignificantLine}
    (found : cursor.next = (.line line, after)) :
    (line.number :: after.numbers).Sublist cursor.numbers := by
  obtain ⟨raw, _, _, afterNumber, behind⟩ := behind_of_next found
  have fromLine := behind.inside.numbers_sublist
  rw [numbers, List.length_cons, List.range'_succ, ← afterNumber] at fromLine
  exact fromLine

theorem numbers_takeBody? {cursor body rest : Cursor}
    (taken : cursor.takeBody? = some (body, rest)) :
    (body.numbers ++ rest.numbers).Sublist cursor.numbers := by
  obtain ⟨closer, lines, _, bodyNumber, restNumber⟩ :=
    isBody_of_takeBody? taken
  unfold numbers
  rw [lines, List.length_append, List.length_cons, ← List.range'_append_1,
    List.range'_succ, bodyNumber, restNumber]
  exact (List.Sublist.refl _).append (List.sublist_cons_self _ _)

end Cursor

/-! ## Reading -/

/-- The kinds of the reports on what a source says. -/
def readingKinds : List DiagnosticKind :=
  [.grammar, .unclosedBlock, .unclosedComment, .limit]

theorem Node.follows_ofLine (line : SignificantLine) :
    Follows readingKinds [line.number] (ofLine line).2 := by
  apply Follows.of_line
  intro diagnostic member
  rw [reports_ofLine_eq] at member
  have grammatical : diagnostic.kind = .grammar :=
    kind_of_mem_literalReports member
  have numbered : diagnostic.line = some (ofLine line).1.line :=
    line_of_mem_literalReports member
  rw [grammatical, numbered, line_ofLine]
  exact ⟨by decide, rfl⟩

/-- The reports on a scope follow its lines, and those on a block follow its
opener and the lines of its body. -/
theorem Cursor.follows_invariant (options : Options) :
    Invariant options
      (fun _ cursor parsed =>
        Follows readingKinds cursor.numbers parsed.diagnostics)
      (fun _ number _ body read =>
        Follows readingKinds (number :: body.numbers) read.2) where
  nothing _ := Follows.silent readingKinds _
  comment {depth number cursor after} found := by
    obtain ⟨_, place⟩ := inside_of_unclosedComment found
    have listed : DiagnosticKind.unclosedComment ∈ readingKinds := by decide
    have reported : Follows readingKinds [number]
        [(Fault.unclosedComment number).diagnostic] :=
      .report listed rfl (Follows.silent _ _)
    exact reported.sublist place.numbers_sublist
  unclosed {depth cursor after line head} found _ _ := by
    have listed : DiagnosticKind.unclosedBlock ∈ readingKinds := by decide
    have reported : Follows readingKinds (line.number :: after.numbers)
        [(Fault.unclosedBlock head.tag line.number).diagnostic] :=
      .report listed rfl (Follows.silent _ _)
    exact reported.sublist (numbers_next found)
  closed {depth cursor after body rest line head} found _ taken blockFollows
      restFollows := by
    -- The body of a block stands between its opener and the lines behind it,
    -- and the reports on the three are put together in this order.
    have inOrder : (line.number :: (body.numbers ++ rest.numbers)).Sublist
        (line.number :: after.numbers) :=
      (numbers_takeBody? taken).cons_cons line.number
    exact (blockFollows.append restFollows).sublist
      (inOrder.trans (numbers_next found))
  closing found _ _ restFollows :=
    restFollows.pass.sublist (numbers_next found)
  line found _ _ restFollows :=
    ((Node.follows_ofLine _).append restFollows).sublist (numbers_next found)
  verbatim _ := Follows.silent readingKinds _
  raw _ := Follows.silent readingKinds _
  deep _ _ _ := by
    have listed : DiagnosticKind.limit ∈ readingKinds := by decide
    exact .report listed rfl (Follows.silent _ _)
  markup _ _ _ bodyFollows := .pass bodyFollows

theorem Document.inLineOrder_parse (options : Options) (source : String) :
    InLineOrder readingKinds
      (fun line => 1 ≤ line ∧ line ≤ (sourceLines source.toList).length)
      (Document.parse options source).diagnostics := by
  have follows :=
    (Cursor.follows_invariant options).parsed 0 ⟨1, sourceLines source.toList⟩
  refine follows.inLineOrder ?_ ?_
  · exact List.pairwise_le_range'
  · intro line member
    obtain ⟨lower, upper⟩ :
        1 ≤ line ∧ line < 1 + (sourceLines source.toList).length :=
      List.mem_range'_1.mp member
    exact ⟨lower, by omega⟩

/-! ## Rendering -/

/-- The reports on the rendering of a source are on lines of its nodes. -/
theorem Document.inLineOrder_render (options : Options) (source : String) :
    InLineOrder [.limit]
      (fun line => ∃ node ∈
        Node.preorderAll (Document.parse options source).document,
          node.line = line)
      ((Document.parse options source).document.render options).2 := by
  have records :=
    (Cursor.records_invariant options).parsed 0 ⟨1, sourceLines source.toList⟩
  have follows := Node.renderAll_reports options
    (Document.parse options source).document (.full options.maxElements)
  refine follows.inLineOrder ?_ ?_
  · rw [List.pairwise_map]
    exact records.increasing.imp Nat.le_of_lt
  · intro line member
    exact List.mem_map.mp member

/-! ## Values -/

theorem Expression.report_of_mem_substitute {options : Options}
    {evaluator : Evaluator} {html : String} {diagnostic : Diagnostic}
    (member : diagnostic ∈ (substitute options evaluator html).2) :
    diagnostic.kind = .evaluation ∧ diagnostic.line = none := by
  obtain ⟨pieces, last, cut⟩ := Pieces.exists_pieces html.toList
  rw [substitute, substituteChars_of_pieces options evaluator cut] at member
  obtain ⟨piece, _, reported⟩ := List.mem_filterMap.mp member
  obtain ⟨message, _, rfl⟩ := Option.map_eq_some_iff.mp reported
  exact ⟨rfl, rfl⟩

/-- The reports on a source come in three parts: those of reading it, down its
lines; those of rendering it, which are about limits, down the lines of its
nodes; and those on expressions, which are on no line. -/
theorem compile_phases (options : Options) (evaluator : Evaluator)
    (source : String) :
    (compile options evaluator source).diagnostics =
        (Document.parse options source).diagnostics ++
          ((Document.parse options source).document.render options).2 ++
          (Expression.substitute options evaluator
            ((Document.parse options source).document.render options).1).2 ∧
      InLineOrder [.grammar, .unclosedBlock, .unclosedComment, .limit]
        (fun line => 1 ≤ line ∧ line ≤ (sourceLines source.toList).length)
        (Document.parse options source).diagnostics ∧
      InLineOrder [.limit]
        (fun line => ∃ node ∈
          Node.preorderAll (Document.parse options source).document,
            node.line = line)
        ((Document.parse options source).document.render options).2 ∧
      ∀ diagnostic ∈ (Expression.substitute options evaluator
          ((Document.parse options source).document.render options).1).2,
        diagnostic.kind = .evaluation ∧ diagnostic.line = none :=
  ⟨rfl, Document.inLineOrder_parse options source,
    Document.inLineOrder_render options source,
    fun _ member => Expression.report_of_mem_substitute member⟩

end TerseMarkup
