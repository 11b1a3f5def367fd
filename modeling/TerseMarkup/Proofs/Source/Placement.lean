import TerseMarkup.Proofs.Source.BlockBody
import TerseMarkup.Proofs.Source.Skipping

/-!
# Places of lines

Reading goes from one cursor to another: past the next significant line, into
the body of a block, past its closing line. All of these stand over a stretch
of the same lines, with the numbers that the lines have there, so that a line
keeps its number at every depth.
-/

namespace TerseMarkup.Cursor

/-- `inner.Inside outer` says that the lines of `inner` are a stretch of the
lines of `outer`, with the same numbers. -/
def Inside (inner outer : Cursor) : Prop :=
  ∃ before after,
    outer.remaining = before ++ (inner.remaining ++ after) ∧
      inner.number = outer.number + before.length

/-- `later.Behind earlier` says that the lines of `later` are what is left of
the lines of `earlier` after some of them. -/
def Behind (later earlier : Cursor) : Prop :=
  ∃ passed,
    earlier.remaining = passed ++ later.remaining ∧
      later.number = earlier.number + passed.length

def single (number : Nat) (line : Line) : Cursor :=
  ⟨number, [line]⟩

/-- The number after that of the last line. -/
def stop (cursor : Cursor) : Nat :=
  cursor.number + cursor.remaining.length

theorem Inside.refl (cursor : Cursor) : cursor.Inside cursor :=
  ⟨[], [], by simp, rfl⟩

theorem Inside.trans {inner middle outer : Cursor}
    (innerInside : inner.Inside middle) (middleInside : middle.Inside outer) :
    inner.Inside outer := by
  obtain ⟨innerBefore, innerAfter, innerLines, innerNumber⟩ := innerInside
  obtain ⟨before, after, lines, number⟩ := middleInside
  refine ⟨before ++ innerBefore, innerAfter ++ after, ?_, ?_⟩
  · rw [lines, innerLines]
    simp only [List.append_assoc]
  · rw [innerNumber, number, List.length_append, Nat.add_assoc]

theorem Inside.le {inner outer : Cursor} (inside : inner.Inside outer) :
    outer.number ≤ inner.number := by
  obtain ⟨before, after, lines, number⟩ := inside
  omega

theorem Inside.stop_le {inner outer : Cursor} (inside : inner.Inside outer) :
    inner.stop ≤ outer.stop := by
  obtain ⟨before, after, lines, number⟩ := inside
  unfold stop
  rw [lines, number]
  simp only [List.length_append]
  omega

theorem Inside.getElem? {number : Nat} {line : Line} {cursor : Cursor}
    (inside : (single number line).Inside cursor) :
    cursor.remaining[number - cursor.number]? = some line := by
  obtain ⟨before, after, lines, start⟩ := inside
  have position : number - cursor.number = before.length := by
    have : number = cursor.number + before.length := start
    omega
  rw [position, lines]
  simp [single]

theorem Behind.refl (cursor : Cursor) : cursor.Behind cursor :=
  ⟨[], rfl, rfl⟩

theorem Behind.trans {later middle earlier : Cursor}
    (laterBehind : later.Behind middle) (middleBehind : middle.Behind earlier) :
    later.Behind earlier := by
  obtain ⟨laterPassed, laterLines, laterNumber⟩ := laterBehind
  obtain ⟨passed, lines, number⟩ := middleBehind
  refine ⟨passed ++ laterPassed, ?_, ?_⟩
  · rw [lines, laterLines, List.append_assoc]
  · rw [laterNumber, number, List.length_append, Nat.add_assoc]

theorem Behind.inside {later earlier : Cursor}
    (behind : later.Behind earlier) : later.Inside earlier := by
  obtain ⟨passed, lines, number⟩ := behind
  refine ⟨passed, [], ?_, number⟩
  rw [lines, List.append_nil]

theorem Behind.first {number : Nat} {line : Line} {rest : List Line}
    {cursor : Cursor} (behind : (mk number (line :: rest)).Behind cursor) :
    (single number line).Inside cursor := by
  obtain ⟨passed, lines, start⟩ := behind
  exact ⟨passed, rest, lines, start⟩

theorem Behind.next {number : Nat} {line : Line} {cursor after : Cursor}
    (behind : (mk number (line :: after.remaining)).Behind cursor)
    (afterNumber : after.number = number + 1) :
    after.Behind cursor := by
  obtain ⟨passed, lines, start⟩ := behind
  have place : number = cursor.number + passed.length := start
  refine ⟨passed ++ [line], ?_, ?_⟩
  · rw [lines, List.append_assoc]
    rfl
  · rw [afterNumber, place, List.length_append, List.length_singleton,
      Nat.add_assoc]

/-! ## The next significant line -/

/-- The line that is found stands where its number says, and the cursor after
it stands right behind. -/
theorem behind_of_next {cursor after : Cursor} {line : SignificantLine}
    (found : cursor.next = (.line line, after)) :
    ∃ raw : Line,
      opensComment raw = false ∧ raw.significant = line.text ∧
        after.number = line.number + 1 ∧
        (mk line.number (raw :: after.remaining)).Behind cursor := by
  have next := nextIs_of_next found
  cases next with
  | @line skipped rest raw isSkipped split plain significant =>
      exact ⟨raw, plain, rfl, rfl, skipped, split, rfl⟩

/-- A comment without its end starts where its number says. -/
theorem inside_of_unclosedComment {cursor after : Cursor} {number : Nat}
    (found : cursor.next = (.unclosedComment number, after)) :
    ∃ raw : Line, (single number raw).Inside cursor := by
  have next := nextIs_of_next found
  cases next with
  | @unclosedComment skipped rest opener isSkipped split opening unclosed =>
      exact ⟨opener, skipped, rest, split, rfl⟩

/-! ## The body of a block -/

theorem inside_of_takeBody? {cursor body rest : Cursor}
    (taken : cursor.takeBody? = some (body, rest)) :
    body.Inside cursor ∧ rest.Behind cursor ∧ body.stop < rest.number := by
  obtain ⟨closer, lines, _, bodyNumber, restNumber⟩ :=
    isBody_of_takeBody? taken
  refine ⟨⟨[], closer :: rest.remaining, lines, bodyNumber⟩,
    ⟨body.remaining ++ [closer], ?_, ?_⟩, ?_⟩
  · rw [lines, List.append_assoc]
    rfl
  · rw [restNumber, List.length_append, List.length_singleton, Nat.add_assoc]
  · unfold stop
    omega

end TerseMarkup.Cursor
