import TerseMarkup.Proofs.Source.TrailingComment

/-!
# Reading call by call

A cursor is driven by calls that read the next significant line, move past
lines without reading them or move to the end. Whatever calls come one after
the other, the cursor stands at a position among the lines it was given, no
call moves it back, and `Answers` says for every call what it finds from
there and where it leaves the cursor.
-/

namespace TerseMarkup

/-! ## What a line says -/

theorem Line.isTrimmed_significant (line : Line) :
    Text.IsTrimmed line.significant :=
  Text.isTrimmed_trim _

/-- What a line says never starts like a comment. -/
theorem Line.head?_significant (line : Line) :
    line.significant.head? ≠ some '#' := by
  unfold Line.significant Comment.strip
  cases shape : Text.trim line with
  | nil => simp
  | cons character rest =>
      by_cases isHash : character = '#'
      · subst isHash
        rw [Comment.keep, if_pos ⟨rfl, rfl, rfl⟩]
        simp
      · have visible : Text.isBlank character = false :=
          (Text.isTrimmed_trim line).start character (by rw [shape]; rfl)
        obtain ⟨kept, trimmed⟩ := Text.exists_trim_cons
          (Comment.keep (Quoting.outside.step character)
            (Text.isBlank character) rest) visible
        rw [Comment.keep_cons_of_ne _ isHash, trimmed]
        simpa using isHash

namespace Cursor

/-! ## Calls -/

/-- What can be asked of a cursor: to read on, to move past lines unread, or to
move to the end. -/
inductive Call where
  | next
  | advance (count : Nat)
  | exhaust
  deriving DecidableEq, Repr

/-- What a call finds, if it reads at all, and the cursor after it. -/
def call (cursor : Cursor) : Call → Option Found × Cursor
  | .next => (some cursor.next.1, cursor.next.2)
  | .advance count => (none, cursor.advance count)
  | .exhaust => (none, cursor.exhaust)

def after (cursor : Cursor) (calls : List Call) : Cursor :=
  calls.foldl (fun current request => (current.call request).2) cursor

/-- The cursor that has passed `position` of the lines, the first of which
has the number `first`. -/
def standing (first : Nat) (lines : List Line) (position : Nat) : Cursor :=
  ⟨first + position, lines.drop position⟩

/-- What a call finds from a position on, and the position after it. -/
inductive Answers (first : Nat) (lines : List Line) (position : Nat) :
    Call → Option Found → Nat → Prop
  | line {index : Nat} {raw : Line} :
      position ≤ index → lines[index]? = some raw →
      Skipped (lines.extract position index) →
      opensComment raw = false → raw.significant ≠ [] →
      Answers first lines position .next
        (some (.line ⟨first + index, raw.significant⟩)) (index + 1)
  | unclosedComment {index : Nat} {opener : Line} :
      position ≤ index → lines[index]? = some opener →
      Skipped (lines.extract position index) →
      opensComment opener = true →
      (∀ line ∈ lines.drop (index + 1), closesComment line = false) →
      Answers first lines position .next
        (some (.unclosedComment (first + index))) lines.length
  | nothing :
      Skipped (lines.drop position) →
      Answers first lines position .next (some .nothing) lines.length
  | advance (count : Nat) :
      Answers first lines position (.advance count) none
        (min (position + count) lines.length)
  | exhaust :
      Answers first lines position .exhaust none lines.length

section Standing

variable {first : Nat} {lines : List Line} {position : Nat}

/-- The lines from a position on, taken apart at a later one. -/
theorem drop_eq_extract_append {index : Nat} {line : Line}
    (reached : position ≤ index) (found : lines[index]? = some line) :
    lines.drop position =
      lines.extract position index ++ line :: lines.drop (index + 1) := by
  obtain ⟨bound, isLine⟩ := List.getElem?_eq_some_iff.mp found
  have later : (lines.drop position).drop (index - position) =
      line :: lines.drop (index + 1) := by
    rw [List.drop_drop, Nat.add_sub_cancel' reached,
      List.drop_eq_getElem_cons bound, isLine]
  rw [← later]
  exact (List.take_append_drop _ _).symm

/-- A line that comes after others behind a position, found by its index. -/
theorem place_of_drop_eq {skipped rest : List Line} {line : Line}
    (split : lines.drop position = skipped ++ line :: rest) :
    lines[position + skipped.length]? = some line ∧
      lines.extract position (position + skipped.length) = skipped ∧
      lines.drop (position + skipped.length + 1) = rest := by
  refine ⟨?_, ?_, ?_⟩
  · rw [← List.getElem?_drop, split, List.getElem?_append_right
      (Nat.le_refl _), Nat.sub_self]
    rfl
  · rw [List.extract_eq_take_drop, Nat.add_sub_cancel_left, split,
      List.take_left]
  · rw [Nat.add_assoc, ← List.drop_drop, split, ← List.drop_drop,
      List.drop_left]
    rfl

theorem length_extract {index : Nat} (bound : index ≤ lines.length) :
    (lines.extract position index).length = index - position := by
  rw [List.extract_eq_take_drop, List.length_take, List.length_drop]
  omega

theorem standing_length (first : Nat) (lines : List Line) :
    standing first lines lines.length = ⟨first + lines.length, []⟩ := by
  rw [standing, List.drop_length]

theorem standing_advance (inside : position ≤ lines.length) (count : Nat) :
    (standing first lines position).advance count =
      standing first lines (min (position + count) lines.length) := by
  have number : first + position + min count (lines.length - position) =
      first + min (position + count) lines.length := by
    omega
  have remaining : lines.drop (position + count) =
      lines.drop (min (position + count) lines.length) := by
    by_cases past : position + count ≤ lines.length
    · rw [Nat.min_eq_left past]
    · rw [Nat.min_eq_right (by omega), List.drop_length,
        List.drop_eq_nil_of_le (by omega)]
  rw [standing, advance, standing, List.length_drop, number, List.drop_drop,
    remaining]

theorem standing_exhaust (inside : position ≤ lines.length) :
    (standing first lines position).exhaust =
      standing first lines lines.length := by
  have whole : min
      (position + (standing first lines position).remaining.length)
      lines.length = lines.length := by
    rw [standing, List.length_drop]
    omega
  rw [exhaust, standing_advance inside, whole]

/-- Reading goes on at the line behind those that say nothing. -/
theorem standing_next {index : Nat} {line : Line}
    (reached : position ≤ index) (found : lines[index]? = some line)
    (skipped : Skipped (lines.extract position index)) :
    (standing first lines position).next =
      nextFrom (first + index) none (line :: lines.drop (index + 1)) := by
  have bound : index < lines.length := (List.getElem?_eq_some_iff.mp found).1
  have place : first + position + (lines.extract position index).length =
      first + index := by
    rw [length_extract (Nat.le_of_lt bound)]
    omega
  rw [next, standing, drop_eq_extract_append reached found,
    nextFrom_of_skipped skipped, place]

/-- An answer that a call can get is the one that it gets. -/
theorem call_of_answers {request : Call} {answer : Option Found} {later : Nat}
    (inside : position ≤ lines.length)
    (answers : Answers first lines position request answer later) :
    (standing first lines position).call request =
      (answer, standing first lines later) := by
  cases answers with
  | line reached found skipped plain significant =>
      rw [call, standing_next reached found skipped,
        nextFrom_of_significant _ _ plain significant]
      rfl
  | @unclosedComment index _ reached found skipped opening unclosed =>
      have bound : index < lines.length :=
        (List.getElem?_eq_some_iff.mp found).1
      have stop : first + index + 1 + (lines.drop (index + 1)).length =
          first + lines.length := by
        rw [List.length_drop]
        omega
      rw [call, standing_next reached found skipped, nextFrom]
      simp only [opening, if_true]
      rw [nextFrom_of_unclosed _ _ unclosed, stop, standing_length]
  | nothing skipped =>
      have stop : first + position + (lines.drop position).length =
          first + lines.length := by
        rw [List.length_drop]
        omega
      have read := nextFrom_of_skipped skipped (first + position) []
      rw [List.append_nil, stop] at read
      rw [call, next, standing, read, standing_length]
      rfl
  | advance count => rw [call, standing_advance inside]
  | exhaust => rw [call, standing_exhaust inside]

/-- Every call is answered, and its answer does not move the cursor back. -/
theorem exists_answers (first : Nat) (inside : position ≤ lines.length)
    (request : Call) :
    ∃ answer later, position ≤ later ∧ later ≤ lines.length ∧
      Answers first lines position request answer later := by
  cases request with
  | next =>
      have reading := nextFrom_is (first + position) (lines.drop position)
      -- `NextIs` speaks of the lines that are left; what it says of them is
      -- said again by their places among all lines.
      generalize nextFrom (first + position) none (lines.drop position) =
        result at reading
      cases reading with
      | @line skipped rest raw isSkipped split plain significant =>
          obtain ⟨found, between, _⟩ := place_of_drop_eq split
          have bound := (List.getElem?_eq_some_iff.mp found).1
          rw [← between] at isSkipped
          exact ⟨_, _, by omega, bound,
            Answers.line (Nat.le_add_right _ _) found isSkipped plain
              significant⟩
      | @unclosedComment skipped rest opener isSkipped split opening unclosed =>
          obtain ⟨found, between, behind⟩ := place_of_drop_eq split
          rw [← between] at isSkipped
          rw [← behind] at unclosed
          exact ⟨_, _, inside, Nat.le_refl _,
            Answers.unclosedComment (Nat.le_add_right _ _) found isSkipped
              opening unclosed⟩
      | nothing isSkipped =>
          exact ⟨_, _, inside, Nat.le_refl _, Answers.nothing isSkipped⟩
  | advance count =>
      exact ⟨none, min (position + count) lines.length, by omega, by omega,
        Answers.advance count⟩
  | exhaust =>
      exact ⟨none, lines.length, inside, Nat.le_refl _, Answers.exhaust⟩

/-- A call leaves the cursor at a position that is not before its own. -/
theorem exists_standing_call (first : Nat) (inside : position ≤ lines.length)
    (request : Call) :
    ∃ later, position ≤ later ∧ later ≤ lines.length ∧
      ((standing first lines position).call request).2 =
        standing first lines later := by
  obtain ⟨answer, later, forward, bound, answers⟩ :=
    exists_answers first inside request
  refine ⟨later, forward, bound, ?_⟩
  rw [call_of_answers inside answers]

/-- Calls, one after the other, leave the cursor at a position that is not
before its own. -/
theorem exists_standing_after (first : Nat) (inside : position ≤ lines.length)
    (calls : List Call) :
    ∃ later, position ≤ later ∧ later ≤ lines.length ∧
      (standing first lines position).after calls =
        standing first lines later := by
  induction calls generalizing position with
  | nil => exact ⟨position, Nat.le_refl _, inside, rfl⟩
  | cons request others inductionHypothesis =>
      obtain ⟨middle, forward, bound, called⟩ :=
        exists_standing_call first inside request
      obtain ⟨later, onward, laterBound, reached⟩ := inductionHypothesis bound
      refine ⟨later, Nat.le_trans forward onward, laterBound, ?_⟩
      rw [after, List.foldl_cons, called]
      exact reached

end Standing

/-- Whatever calls came before, the cursor stands at a position among the
lines, and every further call finds from there exactly what is said by
`Answers`, without moving back or past the end. A line that it finds is not
empty, has no blanks around it and is no comment. -/
theorem calls_answered
    (first : Nat) (lines : List Line) (earlier : List Call) :
    ∃ position,
      position ≤ lines.length ∧
        (mk first lines).after earlier = standing first lines position ∧
        ∀ (request : Call) (answer : Option Found) (cursor : Cursor),
          ((mk first lines).after earlier).call request = (answer, cursor) ↔
            ∃ later,
              position ≤ later ∧ later ≤ lines.length ∧
                cursor = standing first lines later ∧
                Answers first lines position request answer later ∧
                ∀ line, answer = some (.line line) →
                  line.text ≠ [] ∧ Text.IsTrimmed line.text ∧
                    line.text.head? ≠ some '#' := by
  obtain ⟨position, _, inside, reached⟩ :=
    exists_standing_after first (Nat.zero_le lines.length) earlier
  refine ⟨position, inside, reached, ?_⟩
  intro request answer cursor
  change (mk first lines).after earlier = _ at reached
  rw [reached]
  constructor
  · intro called
    obtain ⟨given, later, forward, bound, answers⟩ :=
      exists_answers first inside request
    rw [call_of_answers inside answers, Prod.mk.injEq] at called
    obtain ⟨rfl, rfl⟩ := called
    refine ⟨later, forward, bound, rfl, answers, ?_⟩
    rintro line rfl
    cases answers with
    | line _ _ _ _ significant =>
        exact ⟨significant, Line.isTrimmed_significant _,
          Line.head?_significant _⟩
  · rintro ⟨later, _, _, rfl, answers, _⟩
    exact call_of_answers inside answers

end Cursor

end TerseMarkup
