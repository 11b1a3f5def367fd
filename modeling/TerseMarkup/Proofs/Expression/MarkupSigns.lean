import TerseMarkup.Proofs.Expression.Pieces
import TerseMarkup.Proofs.Html.Tags

/-!
# Values do not make markup

A value is escaped before it is put in place of its expression. The signs that
open and close tags and quoted values are therefore those that stand between
the spans of a text, in their order, whatever the values are.
-/

namespace TerseMarkup

/-! ## Evaluators that succeed -/

/-- Every expression is fine, with a value or without one. -/
def Evaluator.Succeeds (evaluator : Evaluator) : Prop :=
  ∀ expression, ∃ value?, (evaluator expression).result = .ok value?

namespace Answer

variable {answer : Answer} {value? : Option String}
  (succeeds : answer.result = .ok value?)

include succeeds

theorem markupSigns_shown (options : Options) :
    Html.markupSigns (answer.shown options) = [] := by
  cases answer with
  | value text => exact Html.markupSigns_escapeChars text.toList
  | absent => rfl
  | failed message => contradiction
  | crashed message? => cases message? <;> contradiction

theorem failure?_eq_none : answer.failure? = none := by
  cases answer with
  | value text => rfl
  | absent => rfl
  | failed message => contradiction
  | crashed message? => cases message? <;> contradiction

end Answer

/-! ## Substitution -/

namespace Expression

section

variable {evaluator : Evaluator} (succeeds : evaluator.Succeeds)
  {text last : List Char} {pieces : List Piece}
  (cut : Pieces text pieces last)

include succeeds cut

/-- The signs of markup are those between the spans. -/
theorem markupSigns_substituteChars (options : Options) :
    Html.markupSigns (substituteChars options evaluator text).1 =
      Html.markupSigns (pieces.flatMap Piece.before ++ last) := by
  have unmarked : ∀ piece : Piece,
      Html.markupSigns (piece.before ++ (piece.answer evaluator).shown options) =
        Html.markupSigns piece.before := by
    intro piece
    obtain ⟨value?, isValue⟩ := succeeds (String.ofList piece.expression)
    have signless : Html.markupSigns
        ((piece.answer evaluator).shown options) = [] :=
      Answer.markupSigns_shown isValue options
    rw [Html.markupSigns_append, signless, List.append_nil]
  rw [substituteChars_of_pieces options evaluator cut,
    Html.markupSigns_append, Html.markupSigns_append,
    Html.markupSigns_flatMap, Html.markupSigns_flatMap]
  simp only [unmarked]

theorem reports_substituteChars (options : Options) :
    (substituteChars options evaluator text).2 = [] := by
  rw [substituteChars_of_pieces options evaluator cut,
    List.filterMap_eq_nil_iff]
  intro piece _
  obtain ⟨value?, isValue⟩ := succeeds (String.ofList piece.expression)
  have noFailure : (piece.answer evaluator).failure? = none :=
    Answer.failure?_eq_none isValue
  rw [Piece.report?, noFailure, Option.map_none]

end

/-- Values do not add, remove or reorder signs of markup: whatever the values
of the expressions are, the HTML has the same ones, and nothing is reported. -/
theorem substitute_markupSigns (options : Options) (first second : Evaluator)
    (firstSucceeds : first.Succeeds) (secondSucceeds : second.Succeeds)
    (html : String) :
    Html.markupSigns (substitute options first html).1.toList =
        Html.markupSigns (substitute options second html).1.toList ∧
      (substitute options first html).2 = [] ∧
      (substitute options second html).2 = [] := by
  obtain ⟨pieces, last, cut⟩ := Pieces.exists_pieces html.toList
  refine ⟨?_, reports_substituteChars firstSucceeds cut options,
    reports_substituteChars secondSucceeds cut options⟩
  rw [substitute, substitute, String.toList_ofList, String.toList_ofList]
  calc
    Html.markupSigns (substituteChars options first html.toList).1 =
        Html.markupSigns (pieces.flatMap Piece.before ++ last) :=
      markupSigns_substituteChars firstSucceeds cut options
    _ = Html.markupSigns (substituteChars options second html.toList).1 :=
      (markupSigns_substituteChars secondSucceeds cut options).symm

/-- Markup as a value, an expression without one, and a span without end. -/
theorem substitute_markupSigns_value :
    let options : Options := {}
    let html := "<p t=\"<$ a $>\"><$ b $> <$ c</p>"
    let markup : Evaluator := fun _ => .value "'<i>\""
    let nothing : Evaluator := fun _ => .absent
    (substitute options markup html).1 =
        "<p t=\"&#039;&lt;i&gt;&quot;\">&#039;&lt;i&gt;&quot; <$ c</p>" ∧
      Html.markupSigns (substitute options markup html).1.toList =
        Html.markupSigns (substitute options nothing html).1.toList := by
  intro options html markup nothing
  have markupSucceeds : markup.Succeeds := fun _ => ⟨_, rfl⟩
  have nothingSucceeds : nothing.Succeeds := fun _ => ⟨_, rfl⟩
  refine ⟨by decide +kernel, ?_⟩
  exact (substitute_markupSigns options markup nothing markupSucceeds
    nothingSucceeds html).1

end Expression

end TerseMarkup
