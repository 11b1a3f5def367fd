import TerseMarkup.Proofs.Source.Skipping
import TerseMarkup.Proofs.Text.Trimming

/-!
# A comment behind a line

A comment behind a line does not change what the line says, as long as the
line says something and leaves no quote open. It can change how the line
counts among the lines that open and close blocks: a closing line with a
comment behind it does not count any more, and the end of the comment decides
whether the line counts as an opener.
-/

namespace TerseMarkup

def Line.commented (comment : List Char) (line : Line) : Line :=
  line ++ ' ' :: '#' :: comment

/-- A line that a comment can follow: it is neither blank nor a comment, and
the scan for comments does not end inside of a quote. -/
structure Line.TakesComment (line : Line) : Prop where
  visible : Text.trim line ≠ []
  notComment : (Text.trim line).head? ≠ some '#'
  unquoted :
    (Quoting.outside.run
      (Comment.keep .outside true (Text.trim line))).mark = none

/-! ## The scan for comments -/

namespace Comment

open Text

theorem keep_cons_of_ne {quoting : Quoting} {afterBlank : Bool}
    {character : Char} (rest : List Char) (notHash : character ≠ '#') :
    keep quoting afterBlank (character :: rest) =
      character ::
        keep (quoting.step character) (isBlank character) rest := by
  rw [keep, if_neg]
  rintro ⟨isHash, _⟩
  exact notHash isHash

/-- A comment in the text ends the scan; otherwise it goes on behind it. -/
theorem keep_append (quoting : Quoting) (afterBlank : Bool)
    (text after : List Char) :
    keep quoting afterBlank (text ++ after) = keep quoting afterBlank text ∨
      keep quoting afterBlank text = text ∧
        ∃ blank,
          keep quoting afterBlank (text ++ after) =
            text ++ keep (quoting.run text) blank after := by
  induction text generalizing quoting afterBlank with
  | nil => exact Or.inr ⟨rfl, afterBlank, rfl⟩
  | cons character rest inductionHypothesis =>
      rw [List.cons_append, keep, keep, Quoting.run_cons]
      by_cases marker :
          character = '#' ∧ afterBlank = true ∧ quoting.isOutside = true
      · rw [if_pos marker, if_pos marker]
        exact Or.inl rfl
      · rw [if_neg marker, if_neg marker]
        rcases inductionHypothesis (quoting.step character)
            (isBlank character) with ended | ⟨whole, blank, later⟩
        · rw [ended]
          exact Or.inl rfl
        · rw [whole, later]
          exact Or.inr ⟨rfl, blank, rfl⟩

theorem step_of_isBlank {quoting : Quoting} {character : Char}
    (blank : isBlank character = true) (unquoted : quoting.mark = none) :
    quoting.step character = .outside := by
  have notSlash : character ≠ '\\' := by
    rintro rfl
    exact absurd blank (by decide)
  have notMark : Quoting.isMark character = false := by
    by_contra isMark
    simp only [Quoting.isMark, Bool.or_eq_true, beq_iff_eq, Bool.not_eq_false]
      at isMark
    rcases isMark with rfl | rfl <;> exact absurd blank (by decide)
  obtain ⟨mark, escaped⟩ := quoting
  obtain rfl : mark = none := unquoted
  cases escaped with
  | true => rfl
  | false => simp [Quoting.step, Quoting.outside, notSlash, notMark]

theorem ne_hash_of_isBlank {character : Char}
    (blank : isBlank character = true) : character ≠ '#' := by
  rintro rfl
  exact absurd blank (by decide)

/-- Outside of quotes, a `#` after blanks ends the scan. -/
theorem keep_blank_hash {quoting : Quoting} {gap : List Char}
    (afterBlank : Bool) (comment : List Char) (someBlank : gap ≠ [])
    (blank : AllBlank gap) (unquoted : quoting.mark = none) :
    keep quoting afterBlank (gap ++ '#' :: comment) = gap := by
  induction gap generalizing quoting afterBlank with
  | nil => exact absurd rfl someBlank
  | cons character rest inductionHypothesis =>
      have isBlankFirst := blank character List.mem_cons_self
      have notHash := ne_hash_of_isBlank isBlankFirst
      have stepped := step_of_isBlank isBlankFirst unquoted
      rw [List.cons_append, keep_cons_of_ne _ notHash, stepped, isBlankFirst]
      cases rest with
      | nil =>
          rw [List.nil_append, keep, if_pos ⟨rfl, rfl, rfl⟩]
      | cons next others =>
          rw [inductionHypothesis true (List.cons_ne_nil _ _)
            (fun other member => blank other (List.mem_cons_of_mem _ member))
            rfl]

end Comment

/-! ## The line and its comment -/

namespace Line.TakesComment

variable {line : Line} (takes : line.TakesComment) (comment : List Char)

include takes

theorem exists_first :
    ∃ character rest,
      Text.trim line = character :: rest ∧ character ≠ '#' ∧
        Text.isBlank character = false := by
  cases shape : Text.trim line with
  | nil => exact absurd shape takes.visible
  | cons character rest =>
      refine ⟨character, rest, rfl, ?_, ?_⟩
      · rintro rfl
        exact takes.notComment (by rw [shape]; rfl)
      · exact (Text.isTrimmed_trim line).start character (by rw [shape]; rfl)

theorem exists_trim_commented :
    ∃ gap rest, gap ≠ [] ∧ Text.AllBlank gap ∧
      Text.trim (line.commented comment) =
        Text.trim line ++ (gap ++ '#' :: rest) := by
  obtain ⟨rest, hash⟩ :=
    Text.exists_trim_cons comment (by decide : Text.isBlank '#' = false)
  have hashVisible : Text.trim ('#' :: comment) ≠ [] := by simp [hash]
  obtain ⟨gap, someGap, blank, trimmed⟩ :=
    Text.trim_space_append takes.visible hashVisible
  rw [hash] at trimmed
  exact ⟨gap, rest, someGap, blank, trimmed⟩

theorem significant_ne_nil : line.significant ≠ [] := by
  obtain ⟨character, rest, shape, notHash, visible⟩ := takes.exists_first
  obtain ⟨kept, trimmed⟩ := Text.exists_trim_cons
    (Comment.keep (Quoting.outside.step character) (Text.isBlank character)
      rest) visible
  rw [Line.significant, shape, Comment.strip,
    Comment.keep_cons_of_ne _ notHash, trimmed]
  exact List.cons_ne_nil _ _

theorem significant_commented :
    (line.commented comment).significant = line.significant := by
  obtain ⟨gap, rest, someGap, blank, trimmed⟩ :=
    takes.exists_trim_commented comment
  rw [Line.significant, Line.significant, trimmed, Comment.strip,
    Comment.strip]
  rcases Comment.keep_append .outside true (Text.trim line)
      (gap ++ '#' :: rest) with ended | ⟨whole, afterBlank, later⟩
  · rw [ended]
  · have unquoted := takes.unquoted
    rw [whole] at unquoted
    rw [later, whole, Comment.keep_blank_hash _ _ someGap blank unquoted,
      Text.trim_append_blank _ blank]

theorem opensComment_eq_false : Cursor.opensComment line = false := by
  obtain ⟨character, rest, shape, notHash, _⟩ := takes.exists_first
  exact Cursor.opensComment_eq_false_of_ne shape notHash

theorem opensComment_commented :
    Cursor.opensComment (line.commented comment) = false := by
  obtain ⟨gap, after, _, _, trimmed⟩ := takes.exists_trim_commented comment
  obtain ⟨character, rest, shape, notHash, _⟩ := takes.exists_first
  rw [shape, List.cons_append] at trimmed
  exact Cursor.opensComment_eq_false_of_ne trimmed notHash

theorem closesBlock_commented :
    Cursor.closesBlock (line.commented comment) = false := by
  obtain ⟨gap, rest, _, _, trimmed⟩ := takes.exists_trim_commented comment
  rw [← Bool.not_eq_true, Cursor.closesBlock_iff, trimmed]
  intro closing
  have hash : '#' ∈ ['\\', '}'] := by
    rw [← closing]
    simp
  exact absurd hash (by decide)

end Line.TakesComment

/-- A carriage return at the end of a comment makes no difference to how the
line counts. -/
theorem Line.opensBlock_commented_return (line comment : List Char) :
    Cursor.opensBlock (Line.commented (comment ++ ['\r']) line) =
      Cursor.opensBlock (Line.commented comment line) := by
  have blank : Text.AllBlank ['\r'] := by
    intro character member
    rw [List.mem_singleton.mp member]
    decide
  have split : Line.commented (comment ++ ['\r']) line =
      Line.commented comment line ++ ['\r'] := by
    simp [Line.commented]
  rw [Bool.eq_iff_iff, Cursor.opensBlock_iff, Cursor.opensBlock_iff, split,
    Text.trim_append_blank _ blank]

end TerseMarkup
