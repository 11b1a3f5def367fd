import TerseMarkup.Proofs.Rendering.Placeholder

/-!
# The pieces between placeholders

A text is cut at its placeholders in one way, because a placeholder has no
ampersand behind its first sign and two of them cannot overlap. Filling in an
index puts its digits between the pieces. What comes out has no placeholder
left, so that a second index finds nothing to fill.
-/

namespace TerseMarkup

/-- The text consists of these pieces with a placeholder between any two, and
no piece has one. -/
structure CutAtPlaceholders
    (text : List Char) (pieces : List (List Char)) : Prop where
  nonempty : pieces ≠ []
  filled : ∀ piece ∈ pieces, IsFilled piece
  whole : placeholder.intercalate pieces = text

/-! ## A placeholder behind a piece -/

theorem placeholder_eq :
    placeholder = '&' :: ['i', 'n', 'd', 'e', 'x', ';'] :=
  rfl

theorem IsFilled.of_infix {part text : List Char} (filled : IsFilled text)
    (inside : part <:+: text) : IsFilled part := by
  intro within
  exact filled (within.trans inside)

theorem IsFilled.not_placeholder_first {character : Char}
    {rest : List Char} (later : List Char)
    (filled : IsFilled (character :: rest)) :
    ¬ placeholder <+: character :: (rest ++ (placeholder ++ later)) := by
  intro starts
  have pieceStarts :
      character :: rest <+: character :: (rest ++ (placeholder ++ later)) :=
    List.prefix_append (character :: rest) (placeholder ++ later)
  rcases List.prefix_or_prefix_of_prefix starts pieceStarts with
    inPiece | ⟨stop, whole⟩
  · exact filled inPiece.isInfix
  · cases stop with
    | nil =>
        rw [List.append_nil] at whole
        rw [whole] at filled
        exact filled List.infix_rfl
    | cons sign others =>
        -- The sign starts the next placeholder and stands inside of this one.
        have isAmpersand : sign = '&' := by
          have behind : sign :: others <+: placeholder ++ later := by
            apply (List.prefix_append_right_inj (character :: rest)).mp
            rw [whole]
            exact starts
          exact (List.cons_prefix_cons.mp behind).1
        have inside : sign ∈ ['i', 'n', 'd', 'e', 'x', ';'] := by
          rw [placeholder_eq] at whole
          rw [← (List.cons.inj whole).2]
          exact List.mem_append_right rest List.mem_cons_self
        rw [isAmpersand] at inside
        exact absurd inside (by decide)

theorem eq_nil_of_placeholder_append {gap rest later : List Char}
    (filled : IsFilled gap)
    (same : placeholder ++ rest = gap ++ (placeholder ++ later)) :
    gap = [] := by
  cases gap with
  | nil => rfl
  | cons character others =>
      have starts : placeholder <+: placeholder ++ rest :=
        List.prefix_append placeholder rest
      rw [same] at starts
      exact absurd starts (filled.not_placeholder_first later)

/-- The first placeholder of a text can be found in one place only. -/
theorem append_placeholder_inj {first second rest later : List Char}
    (firstFilled : IsFilled first) (secondFilled : IsFilled second)
    (same : first ++ (placeholder ++ rest) =
      second ++ (placeholder ++ later)) :
    first = second ∧ rest = later := by
  have sameFirst : first = second := by
    rcases List.append_eq_append_iff.mp same with
      ⟨gap, split, behind⟩ | ⟨gap, split, behind⟩
    · have inSecond : gap <:+: second := by
        rw [split]
        exact (List.suffix_append first gap).isInfix
      rw [split, eq_nil_of_placeholder_append
        (secondFilled.of_infix inSecond) behind, List.append_nil]
    · have inFirst : gap <:+: first := by
        rw [split]
        exact (List.suffix_append second gap).isInfix
      rw [split, eq_nil_of_placeholder_append
        (firstFilled.of_infix inFirst) behind, List.append_nil]
  rw [sameFirst, List.append_cancel_left_eq,
    List.append_cancel_left_eq] at same
  exact ⟨sameFirst, same⟩

/-! ## All pieces -/

theorem exists_intercalate_cons
    (separator : List Char) (others : List (List Char)) :
    ∃ later, ∀ piece,
      separator.intercalate (piece :: others) = piece ++ later := by
  cases others with
  | nil => exact ⟨[], fun piece => by simp⟩
  | cons next more =>
      refine ⟨separator ++ separator.intercalate (next :: more), ?_⟩
      intro piece
      rw [List.intercalate_cons_cons, List.append_assoc]

theorem not_isFilled_intercalate
    (piece next : List Char) (more : List (List Char)) :
    ¬ IsFilled (placeholder.intercalate (piece :: next :: more)) := by
  intro filled
  rw [List.intercalate_cons_cons] at filled
  exact filled (List.infix_append _ _ _)

namespace CutAtPlaceholders

theorem exists_pieces (text : List Char) :
    ∃ pieces, CutAtPlaceholders text pieces := by
  induction text using fillIndex.induct with
  | case1 rest inductionHypothesis =>
      obtain ⟨pieces, nonempty, filled, whole⟩ := inductionHypothesis
      refine ⟨[] :: pieces, List.cons_ne_nil _ _,
        List.forall_mem_cons.mpr ⟨isFilled_nil, filled⟩, ?_⟩
      rw [List.intercalate_cons_of_ne_nil nonempty, whole]
      rfl
  | case2 character rest notPlaceholder inductionHypothesis =>
      obtain ⟨pieces, nonempty, filled, whole⟩ := inductionHypothesis
      obtain ⟨piece, others, rfl⟩ := List.exists_cons_of_ne_nil nonempty
      obtain ⟨pieceFilled, othersFilled⟩ := List.forall_mem_cons.mp filled
      obtain ⟨later, joined⟩ := exists_intercalate_cons placeholder others
      rw [joined] at whole
      have longerFilled : IsFilled (character :: piece) := by
        refine isFilled_cons.mpr ⟨?_, pieceFilled⟩
        rintro ⟨more, written⟩
        obtain ⟨isAmpersand, inPiece⟩ := List.cons.inj written
        apply notPlaceholder (more ++ later) isAmpersand.symm
        rw [← whole, ← inPiece]
        rfl
      refine ⟨(character :: piece) :: others, List.cons_ne_nil _ _,
        List.forall_mem_cons.mpr ⟨longerFilled, othersFilled⟩, ?_⟩
      rw [joined, List.cons_append, whole]
  | case3 =>
      exact ⟨[[]], List.cons_ne_nil _ _,
        List.forall_mem_singleton.mpr isFilled_nil, rfl⟩

theorem unique {text : List Char} {pieces others : List (List Char)}
    (cut : CutAtPlaceholders text pieces)
    (otherCut : CutAtPlaceholders text others) : others = pieces := by
  induction pieces generalizing text others with
  | nil => exact absurd rfl cut.nonempty
  | cons piece rest inductionHypothesis =>
      obtain ⟨other, later, rfl⟩ :=
        List.exists_cons_of_ne_nil otherCut.nonempty
      obtain ⟨pieceFilled, restFilled⟩ := List.forall_mem_cons.mp cut.filled
      obtain ⟨otherFilled, laterFilled⟩ :=
        List.forall_mem_cons.mp otherCut.filled
      have same := otherCut.whole.trans cut.whole.symm
      cases rest with
      | nil =>
          cases later with
          | nil =>
              rw [List.intercalate_singleton, List.intercalate_singleton]
                at same
              rw [same]
          | cons next more =>
              rw [List.intercalate_singleton] at same
              rw [← same] at pieceFilled
              exact absurd pieceFilled (not_isFilled_intercalate other next more)
      | cons next more =>
          cases later with
          | nil =>
              rw [List.intercalate_singleton] at same
              rw [same] at otherFilled
              exact absurd otherFilled (not_isFilled_intercalate piece next more)
          | cons otherNext otherMore =>
              rw [List.intercalate_cons_cons, List.intercalate_cons_cons,
                List.append_assoc, List.append_assoc] at same
              obtain ⟨rfl, sameRest⟩ :=
                append_placeholder_inj otherFilled pieceFilled same
              have restCut : CutAtPlaceholders
                  (placeholder.intercalate (next :: more)) (next :: more) :=
                ⟨List.cons_ne_nil _ _, restFilled, rfl⟩
              rw [inductionHypothesis restCut
                ⟨List.cons_ne_nil _ _, laterFilled, sameRest⟩]

end CutAtPlaceholders

/-! ## Filling in an index -/

theorem fillIndex_append_placeholder (index : Nat) {piece : List Char}
    (later : List Char) (filled : IsFilled piece) :
    fillIndex index (piece ++ (placeholder ++ later)) =
      piece ++ (Nat.toDigits 10 index ++ fillIndex index later) := by
  induction piece with
  | nil => rfl
  | cons character rest inductionHypothesis =>
      rw [List.cons_append,
        fillIndex_cons_of_unmarked index
          (filled.not_placeholder_first later),
        inductionHypothesis (isFilled_cons.mp filled).2, List.cons_append]

/-- The digits of the index take the place of every placeholder. -/
theorem fillIndex_intercalate (index : Nat) {pieces : List (List Char)}
    (filled : ∀ piece ∈ pieces, IsFilled piece) :
    fillIndex index (placeholder.intercalate pieces) =
      (Nat.toDigits 10 index).intercalate pieces := by
  induction pieces with
  | nil => rfl
  | cons piece rest inductionHypothesis =>
      obtain ⟨pieceFilled, restFilled⟩ := List.forall_mem_cons.mp filled
      cases rest with
      | nil =>
          rw [List.intercalate_singleton, List.intercalate_singleton,
            fillIndex_of_isFilled index pieceFilled]
      | cons next more =>
          rw [List.intercalate_cons_cons, List.append_assoc,
            fillIndex_append_placeholder index _ pieceFilled,
            inductionHypothesis restFilled, List.intercalate_cons_cons,
            List.append_assoc]

/-- A text is cut at its placeholders in one way, and an index is put between
the pieces. No placeholder is left for another index. -/
theorem withIndex_pieces (index : Nat) (text : String) :
    ∃ pieces,
      CutAtPlaceholders text.toList pieces ∧
      (∀ others, CutAtPlaceholders text.toList others → others = pieces) ∧
      withIndex index text =
        String.ofList ((Nat.toDigits 10 index).intercalate pieces) ∧
      IsFilled (withIndex index text).toList ∧
      ∀ other,
        withIndex other (withIndex index text) = withIndex index text := by
  obtain ⟨pieces, cut⟩ := CutAtPlaceholders.exists_pieces text.toList
  have filled := isFilled_withIndex index text
  refine ⟨pieces, cut, fun _ => cut.unique, ?_, filled, ?_⟩
  · rw [withIndex, ← fillIndex_intercalate index cut.filled, cut.whole]
  · intro other
    rw [withIndex, fillIndex_of_isFilled other filled, String.ofList_toList]

example : withIndex 12 "&in&index;dex;&index;" = "&in12dex;12" := by
  decide

end TerseMarkup
