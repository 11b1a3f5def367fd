import TerseMarkup.Source.Cursor

/-!
# Where the body of a block ends

A block ends with the first line that closes one block more than were opened
since. This is said here by counting: over every initial stretch of the body
no more blocks are closed than opened, and over the whole of it as many. The
search for the end finds it exactly if there is one.
-/

namespace TerseMarkup.Cursor

def opens (lines : List Line) : Nat :=
  lines.countP opensBlock

def closes (lines : List Line) : Nat :=
  lines.countP closesBlock

/-- Inside of `depth` blocks, none of the lines closes a further one. -/
def StaysOpen (depth : Nat) (lines : List Line) : Prop :=
  ∀ initial, initial <+: lines → closes initial ≤ opens initial + depth

/-- A line cannot both close a block and count as opening one. -/
theorem opensBlock_eq_false_of_closesBlock {line : Line}
    (closing : closesBlock line = true) : opensBlock line = false := by
  rw [← Bool.not_eq_true, opensBlock_iff, closesBlock_iff.mp closing]
  decide

/-! ## One line more -/

section Counting

variable {depth : Nat} {line : Line} {rest : List Line}

theorem opens_cons_of_closing (closing : closesBlock line = true) :
    opens (line :: rest) = opens rest := by
  have notOpening := opensBlock_eq_false_of_closesBlock closing
  rw [opens, List.countP_cons_of_neg (by simp [notOpening]), opens]

theorem closes_cons_of_closing (closing : closesBlock line = true) :
    closes (line :: rest) = closes rest + 1 := by
  rw [closes, List.countP_cons_of_pos closing, closes]

theorem opens_cons_of_other (depth : Nat) :
    opens (line :: rest) + depth =
      opens rest + (if opensBlock line then depth + 1 else depth) := by
  unfold opens
  rw [List.countP_cons]
  split <;> omega

theorem closes_cons_of_other (notClosing : closesBlock line = false) :
    closes (line :: rest) = closes rest := by
  rw [closes, List.countP_cons_of_neg (by simp [notClosing]), closes]

theorem staysOpen_nil (depth : Nat) : StaysOpen depth [] := by
  intro initial isPrefix
  rw [List.prefix_nil.mp isPrefix]
  exact Nat.zero_le _

theorem not_staysOpen_zero (closing : closesBlock line = true) :
    ¬ StaysOpen 0 (line :: rest) := by
  intro staysOpen
  have bound := staysOpen [line] (by simp)
  rw [closes_cons_of_closing closing, opens_cons_of_closing closing] at bound
  exact absurd bound (by decide)

/-- What holds of all initial stretches of `line :: rest` is said by those
of `rest`. -/
theorem staysOpen_cons {inner : Nat}
    (step : ∀ initial : List Line,
      closes (line :: initial) ≤ opens (line :: initial) + depth ↔
        closes initial ≤ opens initial + inner) :
    StaysOpen depth (line :: rest) ↔ StaysOpen inner rest := by
  constructor
  · intro staysOpen initial isPrefix
    exact (step initial).mp
      (staysOpen (line :: initial) (List.cons_prefix_cons.mpr ⟨rfl, isPrefix⟩))
  · intro staysOpen initial isPrefix
    rcases List.prefix_cons_iff.mp isPrefix with rfl | ⟨tail, rfl, tailPrefix⟩
    · exact Nat.zero_le _
    · exact (step tail).mpr (staysOpen tail tailPrefix)

theorem staysOpen_cons_of_closing (closing : closesBlock line = true) :
    StaysOpen (depth + 1) (line :: rest) ↔ StaysOpen depth rest := by
  apply staysOpen_cons
  intro initial
  rw [closes_cons_of_closing closing, opens_cons_of_closing closing]
  omega

theorem staysOpen_cons_of_other (notClosing : closesBlock line = false) :
    StaysOpen depth (line :: rest) ↔
      StaysOpen (if opensBlock line then depth + 1 else depth) rest := by
  apply staysOpen_cons
  intro initial
  rw [closes_cons_of_other notClosing, opens_cons_of_other]

/-! ## The search -/

theorem splitBody_zero (closing : closesBlock line = true) :
    splitBody 0 (line :: rest) = some ([], rest) := by
  simp [splitBody, closing]

theorem splitBody_cons_of_closing (closing : closesBlock line = true) :
    splitBody (depth + 1) (line :: rest) =
      (splitBody depth rest).map fun (body, after) => (line :: body, after) := by
  simp [splitBody, closing]

theorem splitBody_cons_of_other (notClosing : closesBlock line = false) :
    splitBody depth (line :: rest) =
      (splitBody (if opensBlock line then depth + 1 else depth) rest).map
        fun (body, after) => (line :: body, after) := by
  cases depth with
  | zero => simp [splitBody, notClosing]
  | succ outer => simp [splitBody, notClosing]

end Counting

/-- The search goes past lines that close no further block, and the depth is
then the number of blocks that are left open by them. -/
theorem splitBody_append
    {depth level : Nat} {first : List Line} (rest : List Line)
    (staysOpen : StaysOpen depth first)
    (counted : opens first + depth = closes first + level) :
    splitBody depth (first ++ rest) =
      (splitBody level rest).map
        fun found => (first ++ found.1, found.2) := by
  induction first generalizing depth with
  | nil =>
      have same : depth = level := by
        simp only [opens, closes, List.countP_nil, Nat.zero_add] at counted
        exact counted
      subst same
      exact Option.map_id'.symm
  | cons line others inductionHypothesis =>
      rw [List.cons_append]
      cases closing : closesBlock line with
      | true =>
          cases depth with
          | zero => exact absurd staysOpen (not_staysOpen_zero closing)
          | succ outer =>
              rw [opens_cons_of_closing closing,
                closes_cons_of_closing closing] at counted
              rw [splitBody_cons_of_closing closing, inductionHypothesis
                ((staysOpen_cons_of_closing closing).mp staysOpen) (by omega),
                Option.map_map]
              rfl
      | false =>
          rw [opens_cons_of_other, closes_cons_of_other closing] at counted
          rw [splitBody_cons_of_other closing, inductionHypothesis
            ((staysOpen_cons_of_other closing).mp staysOpen) counted,
            Option.map_map]
          rfl

/-! ## Bodies -/

/-- `IsBody depth body closer` says that, inside of `depth` further blocks,
the block with this body ends with the line `closer`. -/
structure IsBody (depth : Nat) (body : List Line) (closer : Line) : Prop where
  closing : closesBlock closer = true
  level : closes body = opens body + depth
  staysOpen : StaysOpen depth body

theorem IsBody.cons_of_closing
    {depth : Nat} {line closer : Line} {body : List Line}
    (isBody : IsBody depth body closer) (closing : closesBlock line = true) :
    IsBody (depth + 1) (line :: body) closer where
  closing := isBody.closing
  level := by
    rw [closes_cons_of_closing closing, opens_cons_of_closing closing,
      isBody.level, Nat.add_assoc]
  staysOpen := (staysOpen_cons_of_closing closing).mpr isBody.staysOpen

theorem IsBody.cons_of_other
    {depth : Nat} {line closer : Line} {body : List Line}
    (notClosing : closesBlock line = false)
    (isBody :
      IsBody (if opensBlock line then depth + 1 else depth) body closer) :
    IsBody depth (line :: body) closer where
  closing := isBody.closing
  level := by
    rw [closes_cons_of_other notClosing, opens_cons_of_other]
    exact isBody.level
  staysOpen := (staysOpen_cons_of_other notClosing).mpr isBody.staysOpen

/-- The end of a block is found where it is. -/
theorem splitBody_of_isBody
    {depth : Nat} {body after : List Line} {closer : Line}
    (isBody : IsBody depth body closer) :
    splitBody depth (body ++ closer :: after) = some (body, after) := by
  have counted : opens body + depth = closes body + 0 := isBody.level.symm
  rw [splitBody_append _ isBody.staysOpen counted,
    splitBody_zero isBody.closing, Option.map_some]
  simp only [List.append_nil]

/-- Where an end is found, it is the end of the block. -/
theorem isBody_of_splitBody
    {depth : Nat} {lines body after : List Line}
    (found : splitBody depth lines = some (body, after)) :
    ∃ closer, lines = body ++ closer :: after ∧ IsBody depth body closer := by
  induction lines generalizing depth body with
  | nil => simp [splitBody] at found
  | cons line rest inductionHypothesis =>
      cases closing : closesBlock line with
      | true =>
          cases depth with
          | zero =>
              rw [splitBody_zero closing] at found
              simp only [Option.some.injEq, Prod.mk.injEq] at found
              obtain ⟨rfl, rfl⟩ := found
              exact ⟨line, rfl, closing, rfl, staysOpen_nil 0⟩
          | succ outer =>
              rw [splitBody_cons_of_closing closing] at found
              simp only [Option.map_eq_some_iff, Prod.mk.injEq] at found
              obtain ⟨⟨inner, later⟩, innerFound, rfl, rfl⟩ := found
              obtain ⟨closer, rfl, isBody⟩ := inductionHypothesis innerFound
              exact ⟨closer, rfl, isBody.cons_of_closing closing⟩
      | false =>
          rw [splitBody_cons_of_other closing] at found
          simp only [Option.map_eq_some_iff, Prod.mk.injEq] at found
          obtain ⟨⟨inner, later⟩, innerFound, rfl, rfl⟩ := found
          obtain ⟨closer, rfl, isBody⟩ := inductionHypothesis innerFound
          exact ⟨closer, rfl, isBody.cons_of_other closing⟩

/-- No end is found exactly if the block stays open. -/
theorem splitBody_eq_none_iff {depth : Nat} {lines : List Line} :
    splitBody depth lines = none ↔ StaysOpen depth lines := by
  induction lines generalizing depth with
  | nil => simp [splitBody, staysOpen_nil]
  | cons line rest inductionHypothesis =>
      cases closing : closesBlock line with
      | true =>
          cases depth with
          | zero => simp [splitBody_zero closing, not_staysOpen_zero closing]
          | succ outer =>
              rw [splitBody_cons_of_closing closing, Option.map_eq_none_iff,
                inductionHypothesis, staysOpen_cons_of_closing closing]
      | false =>
          rw [splitBody_cons_of_other closing, Option.map_eq_none_iff,
            inductionHypothesis, staysOpen_cons_of_other closing]

/-- A block that is counted as opened inside of a body does not stay open to
the end of it: over what follows the opener, one block more is closed than
opened. -/
theorem IsBody.not_staysOpen
    {body before after : List Line} {opener closer : Line}
    (isBody : IsBody 0 body closer)
    (split : body = before ++ opener :: after)
    (opening : opensBlock opener = true) :
    ¬ StaysOpen 0 after := by
  intro staysOpen
  have notClosing : closesBlock opener = false := by
    cases closing : closesBlock opener with
    | false => rfl
    | true =>
        rw [opensBlock_eq_false_of_closesBlock closing] at opening
        contradiction
  have level := isBody.level
  have lower := isBody.staysOpen before ⟨opener :: after, split.symm⟩
  have upper := staysOpen after (List.prefix_refl after)
  rw [split] at level
  simp only [opens, closes, List.countP_append, List.countP_cons, opening,
    notClosing, if_pos, if_neg Bool.false_ne_true] at level lower upper
  omega

/-! ## Lines that count alike -/

section Alike

variable {lines others : List Line}
  (sameOpening : others.map opensBlock = lines.map opensBlock)
  (sameClosing : others.map closesBlock = lines.map closesBlock)

include sameOpening in
theorem opens_of_map_eq : opens others = opens lines := by
  have counted := congrArg (List.countP id) sameOpening
  rw [List.countP_map, List.countP_map] at counted
  exact counted

include sameClosing in
theorem closes_of_map_eq : closes others = closes lines := by
  have counted := congrArg (List.countP id) sameClosing
  rw [List.countP_map, List.countP_map] at counted
  exact counted

include sameOpening sameClosing

theorem StaysOpen.of_map_eq {depth : Nat} (staysOpen : StaysOpen depth lines) :
    StaysOpen depth others := by
  intro initial isPrefix
  rw [List.prefix_iff_eq_take] at isPrefix
  have opening : (others.take initial.length).map opensBlock =
      (lines.take initial.length).map opensBlock := by
    rw [List.map_take, List.map_take, sameOpening]
  have closing : (others.take initial.length).map closesBlock =
      (lines.take initial.length).map closesBlock := by
    rw [List.map_take, List.map_take, sameClosing]
  rw [isPrefix, opens_of_map_eq opening, closes_of_map_eq closing]
  exact staysOpen _ (List.take_prefix _ _)

theorem IsBody.of_map_eq {depth : Nat} {closer : Line}
    (isBody : IsBody depth lines closer) : IsBody depth others closer where
  closing := isBody.closing
  level := by
    rw [opens_of_map_eq sameOpening, closes_of_map_eq sameClosing]
    exact isBody.level
  staysOpen := isBody.staysOpen.of_map_eq sameOpening sameClosing

end Alike

/-! ## Taking a body -/

/-- A body that was taken is the body of the block that was opened just
before. -/
theorem isBody_of_takeBody? {cursor body after : Cursor}
    (taken : cursor.takeBody? = some (body, after)) :
    ∃ closer,
      cursor.remaining = body.remaining ++ closer :: after.remaining ∧
        IsBody 0 body.remaining closer ∧
        body.number = cursor.number ∧
        after.number = cursor.number + body.remaining.length + 1 := by
  simp only [takeBody?, Option.map_eq_some_iff, Prod.mk.injEq] at taken
  obtain ⟨⟨inner, later⟩, found, rfl, rfl⟩ := taken
  obtain ⟨closer, split, isBody⟩ := isBody_of_splitBody found
  exact ⟨closer, split, isBody, rfl, rfl⟩

theorem takeBody?_of_isBody {number : Nat} {body after : List Line}
    {closer : Line} (isBody : IsBody 0 body closer) :
    (Cursor.mk number (body ++ closer :: after)).takeBody? =
      some (⟨number, body⟩, ⟨number + body.length + 1, after⟩) := by
  rw [takeBody?, splitBody_of_isBody isBody]
  rfl

theorem takeBody?_eq_none_iff {cursor : Cursor} :
    cursor.takeBody? = none ↔ StaysOpen 0 cursor.remaining := by
  rw [takeBody?, Option.map_eq_none_iff, splitBody_eq_none_iff]

end TerseMarkup.Cursor
