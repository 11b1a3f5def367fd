import TerseMarkup.Source.Cursor

/-!
# What is passed over on the way to a significant line

The lines before the next significant line are blank lines, comments and whole
block comments, and nothing else. A derivation of `Skipped` takes the lines
that were passed over apart into these; `NextIs` says which line is found
after them and where the cursor stands then.
-/

namespace TerseMarkup

/-- What a line says: the line without comment and surrounding blanks. -/
def Line.significant (line : Line) : Line :=
  Comment.strip (Text.trim line)

namespace Cursor

/-- Lines that say nothing, one after the other: lines without text of their
own, and block comments up to the first line that ends them. -/
inductive Skipped : List Line → Prop
  | nil : Skipped []
  | blank {line : Line} {rest : List Line} :
      opensComment line = false → line.significant = [] →
      Skipped rest → Skipped (line :: rest)
  | comment {opener closer : Line} {inside rest : List Line} :
      opensComment opener = true →
      (∀ line ∈ inside, closesComment line = false) →
      closesComment closer = true →
      Skipped rest → Skipped (opener :: (inside ++ closer :: rest))

theorem Skipped.append {first second : List Line}
    (firstSkipped : Skipped first) (secondSkipped : Skipped second) :
    Skipped (first ++ second) := by
  induction firstSkipped with
  | nil => exact secondSkipped
  | blank plain empty _ inductionHypothesis =>
      exact Skipped.blank plain empty inductionHypothesis
  | comment opening inside closing _ inductionHypothesis =>
      rw [List.cons_append, List.append_assoc, List.cons_append]
      exact Skipped.comment opening inside closing inductionHypothesis

/-- What reading the lines from the one with the given number on may come to:
a significant line, a block comment without an end, or nothing. -/
inductive NextIs (number : Nat) (lines : List Line) :
    Found × Cursor → Prop
  | line {skipped rest : List Line} {raw : Line} :
      Skipped skipped → lines = skipped ++ raw :: rest →
      opensComment raw = false → raw.significant ≠ [] →
      NextIs number lines
        (.line ⟨number + skipped.length, raw.significant⟩,
          ⟨number + skipped.length + 1, rest⟩)
  | unclosedComment {skipped rest : List Line} {opener : Line} :
      Skipped skipped → lines = skipped ++ opener :: rest →
      opensComment opener = true →
      (∀ line ∈ rest, closesComment line = false) →
      NextIs number lines
        (.unclosedComment (number + skipped.length),
          ⟨number + lines.length, []⟩)
  | nothing :
      Skipped lines →
      NextIs number lines (.nothing, ⟨number + lines.length, []⟩)

/-- Lines that say nothing may come first. -/
theorem NextIs.prepend
    {number : Nat} {first lines : List Line} {result : Found × Cursor}
    (firstSkipped : Skipped first)
    (later : NextIs (number + first.length) lines result) :
    NextIs number (first ++ lines) result := by
  cases later with
  | line skipped split plain significant =>
      subst split
      rw [Nat.add_assoc number, ← List.length_append]
      exact NextIs.line (firstSkipped.append skipped)
        (List.append_assoc _ _ _).symm plain significant
  | unclosedComment skipped split opening unclosed =>
      subst split
      rw [Nat.add_assoc number, Nat.add_assoc number, ← List.length_append,
        ← List.length_append]
      exact NextIs.unclosedComment (firstSkipped.append skipped)
        (List.append_assoc _ _ _).symm opening unclosed
  | nothing skipped =>
      rw [Nat.add_assoc number, ← List.length_append]
      exact NextIs.nothing (firstSkipped.append skipped)

/-! ## Inside of a block comment -/

theorem nextFrom_of_closed
    (number opener : Nat) {inside rest : List Line} {closer : Line}
    (unclosed : ∀ line ∈ inside, closesComment line = false)
    (closing : closesComment closer = true) :
    nextFrom number (some opener) (inside ++ closer :: rest) =
      nextFrom (number + inside.length + 1) none rest := by
  induction inside generalizing number with
  | nil => simp [nextFrom, closing]
  | cons line others inductionHypothesis =>
      have first := unclosed line List.mem_cons_self
      have later := inductionHypothesis (number + 1) fun other member =>
        unclosed other (List.mem_cons_of_mem line member)
      rw [List.cons_append, nextFrom]
      simp only [first, if_neg Bool.false_ne_true, later, List.length_cons]
      congr 1
      omega

theorem nextFrom_of_unclosed
    (number opener : Nat) {lines : List Line}
    (unclosed : ∀ line ∈ lines, closesComment line = false) :
    nextFrom number (some opener) lines =
      (.unclosedComment opener, ⟨number + lines.length, []⟩) := by
  induction lines generalizing number with
  | nil => rfl
  | cons line others inductionHypothesis =>
      have first := unclosed line List.mem_cons_self
      have later := inductionHypothesis (number + 1) fun other member =>
        unclosed other (List.mem_cons_of_mem line member)
      rw [nextFrom]
      simp only [first, if_neg Bool.false_ne_true, later, List.length_cons]
      congr 2
      omega

/-! ## The next significant line -/

theorem nextFrom_of_blank (number : Nat) {line : Line} (rest : List Line)
    (plain : opensComment line = false) (empty : line.significant = []) :
    nextFrom number none (line :: rest) = nextFrom (number + 1) none rest := by
  rw [nextFrom]
  simp only [plain, if_neg Bool.false_ne_true]
  exact if_pos empty

theorem nextFrom_of_significant (number : Nat) {line : Line}
    (rest : List Line) (plain : opensComment line = false)
    (significant : line.significant ≠ []) :
    nextFrom number none (line :: rest) =
      (.line ⟨number, line.significant⟩, ⟨number + 1, rest⟩) := by
  rw [nextFrom]
  simp only [plain, if_neg Bool.false_ne_true]
  exact if_neg significant

theorem nextFrom_of_skipped {skipped : List Line}
    (isSkipped : Skipped skipped) (number : Nat) (rest : List Line) :
    nextFrom number none (skipped ++ rest) =
      nextFrom (number + skipped.length) none rest := by
  induction isSkipped generalizing number with
  | nil => rfl
  | blank plain empty _ inductionHypothesis =>
      rw [List.cons_append, nextFrom_of_blank _ _ plain empty,
        inductionHypothesis, List.length_cons, Nat.add_assoc, Nat.add_comm 1]
  | @comment opener closer inside others opening unclosed closing _
      inductionHypothesis =>
      have length :
          number + (opener :: (inside ++ closer :: others)).length =
            number + 1 + inside.length + 1 + others.length := by
        simp only [List.length_cons, List.length_append]
        omega
      rw [List.cons_append, List.append_assoc, List.cons_append, nextFrom]
      simp only [opening, if_true]
      rw [nextFrom_of_closed _ _ unclosed closing, inductionHypothesis, length]

theorem nextFrom_is (number : Nat) (lines : List Line) :
    NextIs number lines (nextFrom number none lines) := by
  match lines with
  | [] => exact NextIs.nothing Skipped.nil
  | line :: rest =>
      rw [nextFrom]
      dsimp only
      split
      · rename_i opening
        cases closerFound : rest.find? closesComment with
        | none =>
            have unclosed : ∀ other ∈ rest, closesComment other = false := by
              simpa using List.find?_eq_none.mp closerFound
            rw [nextFrom_of_unclosed (number + 1) number unclosed,
              Nat.add_assoc, Nat.add_comm 1, ← List.length_cons]
            exact NextIs.unclosedComment Skipped.nil rfl opening unclosed
        | some closer =>
            obtain ⟨closing, inside, later, rfl, unclosed⟩ :=
              List.find?_eq_some_iff_append.mp closerFound
            have insideUnclosed :
                ∀ other ∈ inside, closesComment other = false := by
              simpa using unclosed
            have comment : Skipped (line :: (inside ++ [closer])) :=
              Skipped.comment opening insideUnclosed closing Skipped.nil
            have after :
                number + (line :: (inside ++ [closer])).length =
                  number + 1 + inside.length + 1 := by
              simp only [List.length_cons, List.length_append,
                List.length_nil]
              omega
            rw [nextFrom_of_closed (number + 1) number insideUnclosed closing,
              ← after, List.append_cons inside, ← List.cons_append]
            exact NextIs.prepend comment (nextFrom_is _ later)
      · rename_i notOpening
        have plain : opensComment line = false := by simpa using notOpening
        split
        · rename_i empty
          exact NextIs.prepend (Skipped.blank plain empty Skipped.nil)
            (nextFrom_is (number + 1) rest)
        · rename_i significant
          exact NextIs.line Skipped.nil rfl plain significant
termination_by lines.length

theorem nextIs_of_next {cursor : Cursor} {result : Found × Cursor}
    (found : cursor.next = result) :
    NextIs cursor.number cursor.remaining result := by
  rw [← found]
  exact nextFrom_is cursor.number cursor.remaining

end Cursor

end TerseMarkup
