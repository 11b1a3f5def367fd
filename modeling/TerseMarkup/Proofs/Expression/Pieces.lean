import Mathlib.Data.List.Basic
import Mathlib.Data.Nat.Find
import TerseMarkup.Expression.Substitution
import TerseMarkup.Proofs.Expression.Pattern

/-!
# The pieces of a text

A text falls into pieces at its spans, each found as the first one in what is
left of the text behind the one before it. There is one way to cut a text like
this. Substitution keeps what stands between the spans, puts what the host
answers in place of each, and reports the answers that count as failures.
-/

namespace TerseMarkup

namespace Answer

/-- What stands in the HTML in place of an expression with this answer. -/
def shown (options : Options) : Answer → List Char
  | value text => Html.escapeChars text.toList
  | absent => []
  | failed _ => options.errorMarker.toList
  | crashed _ => options.errorMarker.toList

/-- The message of an answer that counts as a failure. -/
def failure? : Answer → Option String
  | value _ => none
  | absent => none
  | failed message => some message
  | crashed (some message) => some message
  | crashed none => some "panic with a non-string payload"

end Answer

namespace Expression

/-! ## The first span -/

/-- A span and the text before it. -/
structure Piece where
  before : List Char
  written : List Char
  expression : List Char

/-- `FirstSpan text piece after` says that the first span of the text is that
of the piece, and that `after` is what comes behind it. -/
structure FirstSpan (text : List Char) (piece : Piece) (after : List Char) :
    Prop where
  whole : text = piece.before ++ (piece.written ++ after)
  span : Span (piece.written ++ after) piece.expression after
  leftmost : ∀ start < piece.before.length, ¬ StartsSpan (text.drop start)

theorem Span.exists_written {text expression after : List Char}
    (span : Span text expression after) :
    ∃ written, text = written ++ after := by
  cases span with
  | @closed blanks inside _ first _ _ _ =>
      exact ⟨opener ++ (blanks ++ first :: (inside ++ closer)), by simp⟩
  | @blank blanks _ last _ _ =>
      exact ⟨opener ++ (blanks ++ [last] ++ closer), by simp⟩

/-- A text without any span, or with a first one. -/
theorem exists_firstSpan (text : List Char) :
    (∀ start, ¬ StartsSpan (text.drop start)) ∨
      ∃ piece after, FirstSpan text piece after := by
  classical
  by_cases exists? : ∃ start, StartsSpan (text.drop start)
  · right
    obtain ⟨expression, after, span⟩ := Nat.find_spec exists?
    obtain ⟨written, split⟩ := span.exists_written
    refine ⟨⟨text.take (Nat.find exists?), written, expression⟩, after,
      ?_, ?_, ?_⟩
    · rw [← split]
      exact (List.take_append_drop _ text).symm
    · rw [← split]
      exact span
    · intro start isBefore
      have earlier : start < Nat.find exists? :=
        Nat.lt_of_lt_of_le isBefore (List.length_take_le _ _)
      exact Nat.find_min exists? earlier
  · left
    exact not_exists.mp exists?

/-! ## Cutting at the first span -/

theorem cutFrom_cons {passed rest : List Char} {character : Char}
    (unmarked : ¬ opener <+: character :: rest) :
    cutFrom passed (character :: rest) =
      cutFrom (character :: passed) rest := by
  rw [cutFrom]
  rintro after rfl rfl
  exact unmarked ⟨after, rfl⟩

theorem cutFrom_opener (passed rest : List Char) :
    cutFrom passed (opener ++ rest) =
      (spanAt? rest).map fun (expression, after) =>
        ⟨passed.reverse, expression, after⟩ :=
  rfl

theorem cutFrom_eq_none (passed : List Char) {text : List Char}
    (spanless : ∀ start, ¬ StartsSpan (text.drop start)) :
    cutFrom passed text = none := by
  induction text generalizing passed with
  | nil => rfl
  | cons character rest inductionHypothesis =>
      by_cases marked : opener <+: character :: rest
      · obtain ⟨inside, same⟩ := marked
        have unread : spanAt? inside = none := by
          rw [Option.eq_none_iff_forall_not_mem]
          rintro ⟨expression, after⟩ found
          apply spanless 0
          rw [← same]
          exact ⟨expression, after, spanAt?_eq_some_iff.mp found⟩
        rw [← same, cutFrom_opener, unread, Option.map_none]
      · rw [cutFrom_cons marked]
        exact inductionHypothesis (character :: passed)
          fun start => spanless (start + 1)

theorem cutFrom_append (passed : List Char)
    {before rest expression after : List Char}
    (span : Span rest expression after)
    (leftmost : ∀ start < before.length,
      ¬ StartsSpan ((before ++ rest).drop start)) :
    cutFrom passed (before ++ rest) =
      some ⟨passed.reverse ++ before, expression, after⟩ := by
  induction before generalizing passed with
  | nil =>
      obtain ⟨inside, rfl, _⟩ := span.exists_closer
      rw [List.nil_append, cutFrom_opener, spanAt?_eq_some_iff.mpr span,
        List.append_nil, Option.map_some]
  | cons character later inductionHypothesis =>
      have unmarked : ¬ opener <+: character :: (later ++ rest) := by
        rintro ⟨inside, same⟩
        -- A `<$` here would have to start a span, which comes too early.
        have unread : spanAt? inside = none := by
          rw [Option.eq_none_iff_forall_not_mem]
          rintro ⟨early, earlyAfter⟩ found
          apply leftmost 0 (Nat.zero_lt_succ _)
          rw [List.cons_append, ← same]
          exact ⟨early, earlyAfter, spanAt?_eq_some_iff.mp found⟩
        apply not_startsSpan_of_unread unread (character :: later).length
        rw [same, ← List.cons_append, List.drop_left]
        exact ⟨expression, after, span⟩
      have laterLeftmost : ∀ start < later.length,
          ¬ StartsSpan ((later ++ rest).drop start) :=
        fun start bound => leftmost (start + 1) (Nat.succ_lt_succ bound)
      rw [List.cons_append, cutFrom_cons unmarked,
        inductionHypothesis (character :: passed) laterLeftmost,
        List.reverse_cons, List.append_assoc, List.singleton_append]

theorem FirstSpan.cut? {text : List Char} {piece : Piece}
    {after : List Char} (first : FirstSpan text piece after) :
    cut? text = some ⟨piece.before, piece.expression, after⟩ := by
  have leftmost := first.leftmost
  rw [first.whole] at leftmost
  rw [first.whole]
  exact cutFrom_append [] first.span leftmost

theorem FirstSpan.startsSpan {text : List Char} {piece : Piece}
    {after : List Char} (first : FirstSpan text piece after) :
    StartsSpan (text.drop piece.before.length) := by
  rw [first.whole, List.drop_left]
  exact ⟨piece.expression, after, first.span⟩

theorem FirstSpan.unique {text after otherAfter : List Char}
    {piece other : Piece} (first : FirstSpan text piece after)
    (otherFirst : FirstSpan text other otherAfter) :
    other = piece ∧ otherAfter = after := by
  have same := otherFirst.cut?.symm.trans first.cut?
  simp only [Option.some.injEq, Cut.mk.injEq] at same
  obtain ⟨sameBefore, sameExpression, rfl⟩ := same
  have whole : other.before ++ (other.written ++ otherAfter) =
      piece.before ++ (piece.written ++ otherAfter) :=
    otherFirst.whole.symm.trans first.whole
  rw [sameBefore] at whole
  have sameWritten : other.written = piece.written :=
    List.append_cancel_right (List.append_cancel_left whole)
  cases other
  cases piece
  simp_all

/-! ## All pieces -/

/-- `Pieces text pieces last` says that the text falls into these pieces and
that no span is left in `last`, which is what comes behind them. -/
inductive Pieces : List Char → List Piece → List Char → Prop
  | last {text : List Char} :
      (∀ start, ¬ StartsSpan (text.drop start)) → Pieces text [] text
  | span {text after last : List Char} {piece : Piece}
      {pieces : List Piece} :
      FirstSpan text piece after → Pieces after pieces last →
      Pieces text (piece :: pieces) last

namespace Pieces

theorem exists_pieces (text : List Char) :
    ∃ pieces last, Pieces text pieces last := by
  rcases exists_firstSpan text with spanless | ⟨piece, after, first⟩
  · exact ⟨[], text, .last spanless⟩
  · have shorter : after.length < text.length := length_cut? first.cut?
    obtain ⟨pieces, last, rest⟩ := exists_pieces after
    exact ⟨piece :: pieces, last, .span first rest⟩
termination_by text.length

theorem unique {text last otherLast : List Char}
    {pieces otherPieces : List Piece} (cut : Pieces text pieces last)
    (otherCut : Pieces text otherPieces otherLast) :
    otherPieces = pieces ∧ otherLast = last := by
  induction cut generalizing otherPieces otherLast with
  | last spanless =>
      cases otherCut with
      | last _ => exact ⟨rfl, rfl⟩
      | span first _ => exact absurd first.startsSpan (spanless _)
  | span first _ inductionHypothesis =>
      cases otherCut with
      | last spanless => exact absurd first.startsSpan (spanless _)
      | span otherFirst otherRest =>
          obtain ⟨rfl, rfl⟩ := first.unique otherFirst
          obtain ⟨rfl, rfl⟩ := inductionHypothesis otherRest
          exact ⟨rfl, rfl⟩

/-- Nothing of the text is left out. -/
theorem whole {text last : List Char} {pieces : List Piece}
    (cut : Pieces text pieces last) :
    text = pieces.flatMap (fun piece => piece.before ++ piece.written) ++
      last := by
  induction cut with
  | last _ => rfl
  | span first _ inductionHypothesis =>
      rw [first.whole, inductionHypothesis, List.flatMap_cons]
      simp only [List.append_assoc]

end Pieces

/-! ## Substitution -/

section Substitution

variable (options : Options) (evaluator : Evaluator)

def Piece.answer (piece : Piece) : Answer :=
  evaluator (String.ofList piece.expression)

def Piece.report? (piece : Piece) : Option Diagnostic :=
  (piece.answer evaluator).failure?.map fun message =>
    (Fault.evaluation (String.ofList piece.expression) message).diagnostic

theorem replacement_eq (piece : Piece) :
    replacement options evaluator (String.ofList piece.expression) =
      ((piece.answer evaluator).shown options,
        (piece.report? evaluator).toList) := by
  rw [Piece.report?, Piece.answer, replacement]
  cases evaluator (String.ofList piece.expression) with
  | value text => rfl
  | absent => rfl
  | failed message => rfl
  | crashed message? => cases message? <;> rfl

theorem substituteChars_of_uncut {text : List Char}
    (uncut : cut? text = none) :
    substituteChars options evaluator text = (text, []) := by
  unfold substituteChars
  split
  · rfl
  · simp_all

theorem substituteChars_of_cut {text : List Char} {cut : Cut}
    (found : cut? text = some cut) :
    substituteChars options evaluator text =
      (cut.before ++
          (replacement options evaluator (String.ofList cut.expression)).1 ++
          (substituteChars options evaluator cut.after).1,
        (replacement options evaluator (String.ofList cut.expression)).2 ++
          (substituteChars options evaluator cut.after).2) := by
  rw [substituteChars]
  split
  · simp_all
  · rename_i other otherFound
    obtain rfl : other = cut :=
      Option.some.inj (otherFound.symm.trans found)
    rfl

/-- Substitution replaces the span of every piece and keeps the rest. -/
theorem substituteChars_of_pieces {text last : List Char}
    {pieces : List Piece} (cut : Pieces text pieces last) :
    substituteChars options evaluator text =
      (pieces.flatMap (fun piece =>
          piece.before ++ (piece.answer evaluator).shown options) ++ last,
        pieces.filterMap (Piece.report? evaluator)) := by
  induction cut with
  | last spanless =>
      rw [substituteChars_of_uncut options evaluator
        (cutFrom_eq_none [] spanless)]
      rfl
  | @span text after last piece pieces first _ inductionHypothesis =>
      rw [substituteChars_of_cut options evaluator first.cut?,
        inductionHypothesis, replacement_eq]
      cases reported : piece.report? evaluator with
      | none => simp [List.filterMap_cons_none reported]
      | some diagnostic => simp [List.filterMap_cons_some reported]

end Substitution

/-- The spans of a text are the matches of the pattern. The text is cut at
its spans in one way, each being the first one in what is left; substitution
keeps what stands between them and puts the answers in their place, and it
reports the expressions that fail, in the same order. -/
theorem substitute_leftmost_spans (options : Options) (evaluator : Evaluator)
    (html : String) :
    (∀ written expression after,
      Span (written ++ after) expression after ↔
        pattern.first? (written ++ after) =
          some ⟨written, [expression], after⟩) ∧
    ∃ pieces last,
      Pieces html.toList pieces last ∧
      (∀ otherPieces otherLast, Pieces html.toList otherPieces otherLast →
        otherPieces = pieces ∧ otherLast = last) ∧
      html.toList =
        pieces.flatMap (fun piece => piece.before ++ piece.written) ++ last ∧
      substitute options evaluator html =
        (String.ofList (pieces.flatMap (fun piece =>
            piece.before ++ (piece.answer evaluator).shown options) ++ last),
          pieces.filterMap (Piece.report? evaluator)) := by
  refine ⟨fun _ _ _ => span_iff_first?, ?_⟩
  obtain ⟨pieces, last, cut⟩ := Pieces.exists_pieces html.toList
  refine ⟨pieces, last, cut, fun _ _ => cut.unique, cut.whole, ?_⟩
  rw [substitute, substituteChars_of_pieces options evaluator cut]

end Expression

end TerseMarkup
