import TerseMarkup.Source.Line

/-!
# Lines of a text that is put together

The lines of two texts with a line feed between them are the lines of the one
and then those of the other. Stretches without a line feed that are joined by
line feeds are found again by cutting.
-/

namespace TerseMarkup

namespace Line

theorem split_of_not_mem {line : List Char} (oneLine : '\n' ∉ line) :
    split line = (line, []) := by
  induction line with
  | nil => rfl
  | cons character rest inductionHypothesis =>
      rw [List.mem_cons, not_or] at oneLine
      rw [split_cons, if_neg (Ne.symm oneLine.1),
        inductionHypothesis oneLine.2]

theorem split_append (first second : List Char) :
    split (first ++ '\n' :: second) =
      ((split first).1,
        (split first).2 ++ (split second).1 :: (split second).2) := by
  induction first with
  | nil => rw [List.nil_append, split_cons, if_pos rfl]; rfl
  | cons character rest inductionHypothesis =>
      rw [List.cons_append, split_cons, split_cons, inductionHypothesis]
      by_cases isFeed : character = '\n'
      · rw [if_pos isFeed, if_pos isFeed]
        rfl
      · rw [if_neg isFeed, if_neg isFeed]

/-- The stretches between the line feeds of a text, in order. -/
def stretches (text : List Char) : List Line :=
  (split text).1 :: (split text).2

theorem stretches_append (first second : List Char) :
    stretches (first ++ '\n' :: second) =
      stretches first ++ stretches second := by
  unfold stretches
  rw [split_append, List.cons_append]

theorem not_mem_of_mem_stretches (text : List Char) :
    ∀ line ∈ stretches text, '\n' ∉ line := by
  induction text with
  | nil =>
      intro line member
      have empty : line = [] := List.mem_singleton.mp member
      rw [empty]
      exact List.not_mem_nil
  | cons character rest inductionHypothesis =>
      intro line member
      unfold stretches at member inductionHypothesis
      rw [split_cons] at member
      by_cases isFeed : character = '\n'
      · rw [if_pos isFeed] at member
        rcases List.mem_cons.mp member with rfl | later
        · exact List.not_mem_nil
        · exact inductionHypothesis line later
      · rw [if_neg isFeed] at member
        rcases List.mem_cons.mp member with rfl | later
        · rw [List.mem_cons, not_or]
          exact ⟨Ne.symm isFeed,
            inductionHypothesis _ List.mem_cons_self⟩
        · exact inductionHypothesis line (List.mem_cons_of_mem _ later)

theorem stretches_intercalate {lines : List Line} (someLine : lines ≠ [])
    (oneLine : ∀ line ∈ lines, '\n' ∉ line) :
    stretches (['\n'].intercalate lines) = lines := by
  induction lines with
  | nil => exact absurd rfl someLine
  | cons line rest inductionHypothesis =>
      have first : stretches line = [line] := by
        unfold stretches
        rw [split_of_not_mem (oneLine line List.mem_cons_self)]
      cases rest with
      | nil => rw [List.intercalate_singleton, first]
      | cons next others =>
          have later := inductionHypothesis (List.cons_ne_nil _ _)
            fun other member => oneLine other (List.mem_cons_of_mem _ member)
          rw [List.intercalate_cons_cons, List.append_assoc,
            List.singleton_append, stretches_append, first, later]
          rfl

theorem dropReturn_concat (line : Line) : dropReturn (line ++ ['\r']) = line := by
  unfold dropReturn
  rw [List.getLast?_concat, if_pos rfl, List.dropLast_concat]

theorem dropReturn_of_ne {line : Line} (noReturn : line.getLast? ≠ some '\r') :
    dropReturn line = line :=
  if_neg noReturn

/-- A line ends with a carriage return that belongs to its ending, or it has
none. -/
theorem eq_dropReturn_or (line : Line) :
    line = dropReturn line ++ ['\r'] ∨ line = dropReturn line := by
  by_cases isReturn : line.getLast? = some '\r'
  · obtain ⟨initial, rfl⟩ := List.getLast?_eq_some_iff.mp isReturn
    rw [dropReturn_concat]
    exact Or.inl rfl
  · rw [dropReturn_of_ne isReturn]
    exact Or.inr rfl

end Line

theorem sourceLines_eq (source : List Char) :
    sourceLines source = (Line.stretches source).map Line.dropReturn := rfl

theorem sourceLines_append (first second : List Char) :
    sourceLines (first ++ '\n' :: second) =
      sourceLines first ++ sourceLines second := by
  rw [sourceLines_eq, Line.stretches_append, List.map_append]
  rfl

theorem sourceLines_of_not_mem {line : List Char} (oneLine : '\n' ∉ line)
    (noReturn : line.getLast? ≠ some '\r') : sourceLines line = [line] := by
  rw [sourceLines, Line.split_of_not_mem oneLine]
  simp only [List.map_cons, List.map_nil, Line.dropReturn_of_ne noReturn]

end TerseMarkup
