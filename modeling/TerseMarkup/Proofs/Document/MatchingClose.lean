import TerseMarkup.Proofs.Document.Steps
import TerseMarkup.Proofs.Source.BlockBody

/-!
# The line that closes a block

A block ends with the first line up to which one block more is closed than
was opened after its own opener. The number of that line is the least one at
which the counts of closing and opening lines differ by one. As one more line
closes at most one more block, the counts do not differ by more before it, so
that the depth that is kept on the way never has to go below zero.
-/

namespace TerseMarkup

/-- The reports that reading a block adds to those of its scope. -/
def BlockFound.reports : BlockFound → List Diagnostic
  | .block _ diagnostics => diagnostics
  | .unclosed _ => []

namespace Cursor

/-! ## Counting from the opener on -/

/-- Among the first `count` lines, one block more is closed than opened. -/
def ClosesOuter (lines : List Line) (count : Nat) : Prop :=
  closes (lines.take count) = opens (lines.take count) + 1

instance (lines : List Line) (count : Nat) :
    Decidable (ClosesOuter lines count) :=
  inferInstanceAs (Decidable (_ = _))

/-- The block that was opened just before the lines ends with the last of the
first `count` lines. -/
structure EndsAt (lines : List Line) (count : Nat) : Prop where
  closing : ClosesOuter lines count
  first : ∀ fewer < count, ¬ ClosesOuter lines fewer

section Counting

variable {lines : List Line} {count : Nat}

/-- One more line closes at most one more block, and takes none back that was
opened. -/
theorem counts_take_add_one (lines : List Line) (count : Nat) :
    closes (lines.take (count + 1)) ≤ closes (lines.take count) + 1 ∧
      opens (lines.take count) ≤ opens (lines.take (count + 1)) := by
  have atMost : lines[count]?.toList.countP closesBlock ≤ 1 :=
    Nat.le_trans List.countP_le_length Option.length_toList_le
  simp only [List.take_add_one, closes, opens, List.countP_append]
  omega

/-- As long as the block is not closed, no more blocks are closed than
opened. -/
theorem closes_take_le
    (unclosed : ∀ fewer ≤ count, ¬ ClosesOuter lines fewer) :
    closes (lines.take count) ≤ opens (lines.take count) := by
  induction count with
  | zero => simp [closes]
  | succ count inductionHypothesis =>
      have before := inductionHypothesis fun fewer bound =>
        unclosed fewer (Nat.le_succ_of_le bound)
      have notHere := unclosed (count + 1) (Nat.le_refl _)
      -- One line cannot take the counts from level to a difference of two
      -- without a difference of one, which is ruled out.
      have step := counts_take_add_one lines count
      unfold ClosesOuter at notHere
      omega

theorem staysOpen_take
    (unclosed : ∀ fewer ≤ count, ¬ ClosesOuter lines fewer) :
    StaysOpen 0 (lines.take count) := by
  intro initial isPrefix
  have isTake : initial = lines.take (min initial.length count) := by
    rw [← List.take_take]
    exact List.prefix_iff_eq_take.mp isPrefix
  rw [isTake]
  exact closes_take_le fun fewer bound => unclosed fewer (by omega)

theorem staysOpen_iff_forall :
    StaysOpen 0 lines ↔ ∀ count, ¬ ClosesOuter lines count := by
  constructor
  · intro staysOpen count closing
    have bound := staysOpen (lines.take count) (List.take_prefix count lines)
    unfold ClosesOuter at closing
    omega
  · intro unclosed
    rw [← List.take_length (l := lines)]
    exact staysOpen_take fun fewer _ => unclosed fewer

/-- The lines before the one that ends the block are its body. -/
theorem EndsAt.exists_closer (endsAt : EndsAt lines count) :
    ∃ before closer,
      count = before + 1 ∧ before < lines.length ∧
        lines = lines.take before ++ closer :: lines.drop count ∧
        IsBody 0 (lines.take before) closer := by
  obtain ⟨closing, first⟩ := endsAt
  cases count with
  | zero => simp [ClosesOuter, closes] at closing
  | succ before =>
      have unclosed : ∀ fewer ≤ before, ¬ ClosesOuter lines fewer :=
        fun fewer bound => first fewer (by omega)
      have level := closes_take_le unclosed
      simp only [ClosesOuter, List.take_add_one, closes, opens,
        List.countP_append] at closing level
      cases found : lines[before]? with
      | none =>
          simp only [found, Option.toList_none, List.countP_nil] at closing
          omega
      | some closer =>
          simp only [found, Option.toList_some, List.countP_singleton]
            at closing
          cases isClosing : closesBlock closer with
          | false =>
              rw [isClosing, if_neg Bool.false_ne_true] at closing
              omega
          | true =>
              rw [if_pos isClosing,
                opensBlock_eq_false_of_closesBlock isClosing,
                if_neg Bool.false_ne_true] at closing
              obtain ⟨bound, isCloser⟩ := List.getElem?_eq_some_iff.mp found
              refine ⟨before, closer, rfl, bound, ?_, isClosing,
                Nat.add_right_cancel closing, staysOpen_take unclosed⟩
              rw [← isCloser, List.getElem_cons_drop, List.take_append_drop]

end Counting

section Reading

variable {cursor : Cursor} {count : Nat}

theorem takeBody?_isSome_iff :
    cursor.takeBody?.isSome = true ↔
      ∃ count, ClosesOuter cursor.remaining count := by
  rw [Option.isSome_iff_ne_none, ne_eq, takeBody?_eq_none_iff,
    staysOpen_iff_forall]
  simp only [Classical.not_forall, Classical.not_not]

theorem EndsAt.bounds (endsAt : EndsAt cursor.remaining count) :
    0 < count ∧ count ≤ cursor.remaining.length := by
  obtain ⟨before, _, rfl, bound, _⟩ := endsAt.exists_closer
  exact ⟨Nat.succ_pos before, bound⟩

theorem EndsAt.takeBody?_eq (endsAt : EndsAt cursor.remaining count) :
    cursor.takeBody? =
      some (⟨cursor.number, cursor.remaining.take (count - 1)⟩,
        cursor.advance count) := by
  obtain ⟨before, closer, rfl, bound, split, isBody⟩ := endsAt.exists_closer
  have length : (cursor.remaining.take before).length = before :=
    List.length_take_of_le (Nat.le_of_lt bound)
  have passed : cursor.advance (before + 1) =
      ⟨cursor.number + before + 1, cursor.remaining.drop (before + 1)⟩ := by
    rw [advance, Nat.min_eq_left bound, Nat.add_assoc]
  have taken := @takeBody?_of_isBody cursor.number _
    (cursor.remaining.drop (before + 1)) _ isBody
  rw [← split, length] at taken
  rw [passed, Nat.add_sub_cancel]
  exact taken

/-- After lines that do not close the block, the search goes on at the depth
that they leave open. -/
theorem exists_level
    (unclosed : ∀ fewer ≤ count, ¬ ClosesOuter cursor.remaining fewer) :
    ∃ level,
      opens (cursor.remaining.take count) =
          closes (cursor.remaining.take count) + level ∧
        splitBody 0 cursor.remaining =
          (splitBody level (cursor.remaining.drop count)).map
            fun found =>
              (cursor.remaining.take count ++ found.1, found.2) := by
  obtain ⟨level, counted⟩ := Nat.le.dest (closes_take_le unclosed)
  refine ⟨level, counted.symm, ?_⟩
  have searched := splitBody_append (cursor.remaining.drop count)
    (staysOpen_take unclosed) counted.symm
  rw [List.take_append_drop] at searched
  exact searched

end Reading

/-- The body of a block is found exactly if some first lines close one block
more than they open. With the least number of such lines the body is what
comes before the last of them, with its place, and the cursor stands behind
that line afterwards; as the text of a block, the lines of the body come each
with a line feed. Otherwise the block is reported as unclosed and nothing else
is, and the cursor stands at the end. On the way the depth is the number of
blocks opened less the number of those closed, which is not negative. -/
theorem readBlock_matching_close
    (options : Options) (depth line : Nat) (head : Element)
    (cursor : Cursor) :
    (cursor.takeBody?.isSome = true ↔
        ∃ count, ClosesOuter cursor.remaining count) ∧
      (∀ count, EndsAt cursor.remaining count →
        let body := cursor.remaining.take (count - 1)
        let text := String.ofList (body.flatMap (· ++ ['\n']))
        0 < count ∧ count ≤ cursor.remaining.length ∧
          cursor.takeBody? =
            some (⟨cursor.number, body⟩, cursor.advance count) ∧
          (cursor.readBlock options depth line head).2 =
            cursor.advance count ∧
          (head.isVerbatim = true →
            (cursor.readBlock options depth line head).1 =
              .block (.passage line head .verbatim text) []) ∧
          (head.isRaw = true →
            (cursor.readBlock options depth line head).1 =
              .block (.passage line head .raw text) [])) ∧
      ((∀ count, ¬ ClosesOuter cursor.remaining count) →
        (cursor.readBlock options depth line head) =
            (.unclosed (.unclosedBlock head.tag line), cursor.exhaust) ∧
          (cursor.readBlock options depth line head).1.reports = []) ∧
      (∀ count, (∀ fewer ≤ count, ¬ ClosesOuter cursor.remaining fewer) →
        ∃ level,
          opens (cursor.remaining.take count) =
              closes (cursor.remaining.take count) + level ∧
            splitBody 0 cursor.remaining =
              (splitBody level (cursor.remaining.drop count)).map
                fun found =>
                  (cursor.remaining.take count ++ found.1, found.2)) := by
  refine ⟨takeBody?_isSome_iff, ?_, ?_, fun count => exists_level⟩
  · intro count endsAt
    obtain ⟨positive, bound⟩ := endsAt.bounds
    have taken := endsAt.takeBody?_eq
    refine ⟨positive, bound, taken, ?_, ?_, ?_⟩
    · rw [readBlock_of_closed taken]
    · intro isVerbatim
      rw [readBlock_of_closed taken, parseBlock_of_isVerbatim isVerbatim]
      rfl
    · intro isRaw
      rw [readBlock_of_closed taken, parseBlock_of_isRaw isRaw]
      rfl
  · intro unclosed
    have untaken : cursor.takeBody? = none :=
      takeBody?_eq_none_iff.mpr (staysOpen_iff_forall.mpr unclosed)
    rw [readBlock_of_unclosed untaken]
    exact ⟨rfl, rfl⟩

/-- A block inside of the body has a closing line of its own. -/
theorem readBlock_matching_close_nested :
    EndsAt
        ["div\\\x7b".toList, "  \\\x7d".toList, "\\\x7d ".toList,
          "p".toList] 3 ∧
      (Cursor.mk 5
        ["div\\\x7b".toList, "  \\\x7d".toList, "\\\x7d ".toList,
          "p".toList]).readBlock {} 0 4 { tag := "raw" } =
        (.block
          (.passage 4 { tag := "raw" } .raw "div\\\x7b\n  \\\x7d\n") [],
          ⟨8, ["p".toList]⟩) := by
  have endsAt : EndsAt
      ["div\\\x7b".toList, "  \\\x7d".toList, "\\\x7d ".toList,
        "p".toList] 3 := by
    constructor <;> decide +kernel
  obtain ⟨_, matching, _⟩ := readBlock_matching_close {} 0 4 { tag := "raw" }
    ⟨5, ["div\\\x7b".toList, "  \\\x7d".toList, "\\\x7d ".toList,
      "p".toList]⟩
  obtain ⟨_, _, _, behind, _, raw⟩ := matching 3 endsAt
  refine ⟨endsAt, Prod.ext ?_ behind⟩
  exact raw (by decide)

end Cursor

end TerseMarkup
