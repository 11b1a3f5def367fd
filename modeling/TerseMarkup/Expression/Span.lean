import TerseMarkup.Text.Blank

/-!
# Expression spans

An expression is embedded in HTML between `<$` and `$>`, with blanks around
it. The span that starts at a `<$` ends with the first `$>` that leaves at
least one character for the expression. Where nothing but blanks stands
between the two and no other `$>` follows, the last blank is the expression.
-/

namespace TerseMarkup.Expression

/-- Splits a text at its first `$>`: what stands before it and what comes
after it. `passed` is what was already passed over, last character first. -/
def splitAtClose (passed : List Char) :
    List Char → Option (List Char × List Char)
  | '$' :: '>' :: rest => some (passed.reverse, rest)
  | character :: rest => splitAtClose (character :: passed) rest
  | [] => none

/-- The expression of the span whose `<$` was just read, and the text after
the span. -/
def spanAt? (text : List Char) : Option (List Char × List Char) :=
  match text.dropWhile Text.isBlank with
  | [] => none
  | first :: others =>
      match splitAtClose [first] others with
      | some (inside, rest) => some (Text.trimEnd inside, rest)
      | none =>
          -- Nothing but blanks may be left for the expression.
          match (text.takeWhile Text.isBlank).getLast?, first, others with
          | some blank, '$', '>' :: rest => some ([blank], rest)
          | _, _, _ => none

structure Cut where
  before : List Char
  expression : List Char
  after : List Char
  deriving DecidableEq, Repr

/-- Cuts a text at its first span. `passed` is what was already passed over,
last character first. A `<$` that starts no span has no `$>` left to end one,
so that no span follows it either. -/
def cutFrom (passed : List Char) : List Char → Option Cut
  | '<' :: '$' :: rest =>
      (spanAt? rest).map fun (expression, after) =>
        ⟨passed.reverse, expression, after⟩
  | character :: rest => cutFrom (character :: passed) rest
  | [] => none

def cut? (text : List Char) : Option Cut :=
  cutFrom [] text

theorem length_splitAtClose
    {passed text inside rest : List Char}
    (found : splitAtClose passed text = some (inside, rest)) :
    rest.length < text.length := by
  fun_induction splitAtClose passed text with
  | case1 passed after =>
      simp only [Option.some.injEq, Prod.mk.injEq] at found
      rw [← found.2]
      simp only [List.length_cons]
      omega
  | case2 passed character after _ inductionHypothesis =>
      have := inductionHypothesis found
      simp only [List.length_cons]
      omega
  | case3 => contradiction

theorem length_spanAt?
    {text expression rest : List Char}
    (found : spanAt? text = some (expression, rest)) :
    rest.length < text.length := by
  have dropped : (text.dropWhile Text.isBlank).length ≤ text.length :=
    (List.dropWhile_sublist _).length_le
  unfold spanAt? at found
  split at found
  · contradiction
  · rename_i first others bodyEquality
    rw [bodyEquality, List.length_cons] at dropped
    split at found
    · rename_i inside after split
      have shorter := length_splitAtClose split
      simp only [Option.some.injEq, Prod.mk.injEq] at found
      rw [← found.2]
      omega
    · split at found
      · simp only [Option.some.injEq, Prod.mk.injEq] at found
        rw [← found.2]
        simp only [List.length_cons] at dropped
        omega
      · contradiction

theorem length_cutFrom
    {passed text : List Char} {cut : Cut}
    (found : cutFrom passed text = some cut) :
    cut.after.length < text.length := by
  fun_induction cutFrom passed text with
  | case1 passed rest =>
      obtain ⟨⟨expression, after⟩, span, rfl⟩ :=
        Option.map_eq_some_iff.mp found
      have shorter := length_spanAt? span
      simp only [List.length_cons]
      omega
  | case2 passed character rest _ inductionHypothesis =>
      have := inductionHypothesis found
      simp only [List.length_cons]
      omega
  | case3 => contradiction

theorem length_cut?
    {text : List Char} {cut : Cut}
    (found : cut? text = some cut) :
    cut.after.length < text.length :=
  length_cutFrom found

end TerseMarkup.Expression
