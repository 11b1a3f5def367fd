import TerseMarkup.Expression.Span
import TerseMarkup.Proofs.Text.Trimming

/-!
# Where spans start and end

A span starts at a `<$`. With the blanks after it passed over, it ends with
the first `$>` that leaves a character for the expression. Where there is no
such `$>`, the span may still be a `<$`, blanks and a `$>`, and then the last
blank is the expression. The reading of spans finds these and no others, and
where it finds none at a `<$`, none starts further on.
-/

namespace TerseMarkup.Expression

def opener : List Char := ['<', '$']

def closer : List Char := ['$', '>']

/-- `Span text expression after` says that `text` starts with a span, that
this is its expression, and that `after` is what comes behind it. A span ends
with the first `$>` behind the first character that is not blank. If there is
none, it may hold blanks only, the last of which is then the expression. -/
inductive Span : List Char → List Char → List Char → Prop
  | closed {blanks inside after : List Char} {first : Char}
      (blank : Text.AllBlank blanks) (visible : Text.isBlank first = false)
      (shortest : ¬ closer <:+: inside) :
      Span (opener ++ (blanks ++ first :: (inside ++ (closer ++ after))))
        (Text.trimEnd (first :: inside)) after
  | blank {blanks after : List Char} {last : Char}
      (blank : Text.AllBlank (blanks ++ [last]))
      (final : ¬ closer <:+: after) :
      Span (opener ++ (blanks ++ [last] ++ (closer ++ after))) [last] after

def StartsSpan (text : List Char) : Prop :=
  ∃ expression after, Span text expression after

/-! ## The first closing mark -/

theorem splitAtClose_closer (passed after : List Char) :
    splitAtClose passed (closer ++ after) = some (passed.reverse, after) :=
  rfl

theorem splitAtClose_cons {passed rest : List Char} {character : Char}
    (notCloser : ¬ closer <+: character :: rest) :
    splitAtClose passed (character :: rest) =
      splitAtClose (character :: passed) rest := by
  rw [splitAtClose]
  rintro after rfl rfl
  exact notCloser ⟨after, rfl⟩

/-- A `$>` behind a text does not start inside of it. -/
theorem closer_prefix_append {character : Char} {body after : List Char}
    (starts : closer <+: character :: (body ++ (closer ++ after))) :
    closer <+: character :: body := by
  obtain ⟨rest, same⟩ := starts
  cases body with
  | nil => simp [closer] at same
  | cons second others =>
      simp only [closer, List.cons_append, List.nil_append,
        List.cons.injEq] at same
      obtain ⟨rfl, rfl, _⟩ := same
      exact ⟨others, rfl⟩

theorem splitAtClose_append (passed : List Char) {body : List Char}
    (after : List Char) (noClose : ¬ closer <:+: body) :
    splitAtClose passed (body ++ (closer ++ after)) =
      some (passed.reverse ++ body, after) := by
  induction body generalizing passed with
  | nil => simp [splitAtClose_closer]
  | cons character rest inductionHypothesis =>
      rw [List.infix_cons_iff, not_or] at noClose
      obtain ⟨notHere, notLater⟩ := noClose
      have notCloser :
          ¬ closer <+: character :: (rest ++ (closer ++ after)) :=
        fun starts => notHere (closer_prefix_append starts)
      rw [List.cons_append, splitAtClose_cons notCloser,
        inductionHypothesis (character :: passed) notLater]
      simp

theorem splitAtClose_eq_none (passed : List Char) {text : List Char}
    (noClose : ¬ closer <:+: text) : splitAtClose passed text = none := by
  induction text generalizing passed with
  | nil => rfl
  | cons character rest inductionHypothesis =>
      rw [List.infix_cons_iff, not_or] at noClose
      obtain ⟨notHere, notLater⟩ := noClose
      rw [splitAtClose_cons notHere,
        inductionHypothesis (character :: passed) notLater]

/-- The second character of a `$>` starts no other one. -/
theorem not_closer_infix_tail {after : List Char}
    (final : ¬ closer <:+: after) : ¬ closer <:+: '>' :: after := by
  rw [List.infix_cons_iff, not_or]
  refine ⟨?_, final⟩
  rintro ⟨rest, same⟩
  exact absurd (List.cons.inj same).1 (by decide)

/-- A `$>` does not start with a blank. -/
theorem closer_infix_of_blanks {blanks text : List Char}
    (blank : Text.AllBlank blanks) (closes : closer <:+: blanks ++ text) :
    closer <:+: text := by
  induction blanks with
  | nil => exact closes
  | cons character rest inductionHypothesis =>
      obtain ⟨blankFirst, blankRest⟩ := List.forall_mem_cons.mp blank
      rw [List.cons_append, List.infix_cons_iff] at closes
      rcases closes with ⟨after, same⟩ | later
      · rw [← (List.cons.inj same).1] at blankFirst
        exact absurd blankFirst (by decide)
      · exact inductionHypothesis blankRest later

/-- A text with a `$>` in it has a first one. -/
theorem exists_first_closer {text : List Char} (closes : closer <:+: text) :
    ∃ body after, text = body ++ (closer ++ after) ∧ ¬ closer <:+: body := by
  induction text with
  | nil => exact absurd (List.infix_nil.mp closes) (by decide)
  | cons character rest inductionHypothesis =>
      by_cases here : closer <+: character :: rest
      · obtain ⟨after, same⟩ := here
        exact ⟨[], after, same.symm, by decide⟩
      · have later : closer <:+: rest :=
          (List.infix_cons_iff.mp closes).resolve_left here
        obtain ⟨body, after, rfl, noClose⟩ := inductionHypothesis later
        refine ⟨character :: body, after, rfl, ?_⟩
        rw [List.infix_cons_iff, not_or]
        refine ⟨?_, noClose⟩
        rintro ⟨others, same⟩
        apply here
        rw [← List.cons_append, ← same, List.append_assoc]
        exact List.prefix_append _ _

/-! ## Reading a span -/

section Reading

variable {blanks others after : List Char} {first : Char}

theorem spanAt?_of_allBlank (blank : Text.AllBlank blanks) :
    spanAt? blanks = none := by
  have nothing : blanks.dropWhile Text.isBlank = [] :=
    List.dropWhile_eq_nil_iff.mpr blank
  rw [spanAt?, nothing]

theorem dropWhile_isBlank (blank : Text.AllBlank blanks)
    (visible : Text.isBlank first = false) :
    (blanks ++ first :: others).dropWhile Text.isBlank =
      first :: others := by
  rw [List.dropWhile_append_of_pos blank,
    List.dropWhile_cons_of_neg (by simp [visible])]

theorem takeWhile_isBlank (blank : Text.AllBlank blanks)
    (visible : Text.isBlank first = false) :
    (blanks ++ first :: others).takeWhile Text.isBlank = blanks := by
  rw [List.takeWhile_append_of_pos blank,
    List.takeWhile_cons_of_neg (by simp [visible]), List.append_nil]

theorem spanAt?_of_closed {inside : List Char} (blank : Text.AllBlank blanks)
    (visible : Text.isBlank first = false)
    (shortest : ¬ closer <:+: inside) :
    spanAt? (blanks ++ first :: (inside ++ (closer ++ after))) =
      some (Text.trimEnd (first :: inside), after) := by
  rw [spanAt?, dropWhile_isBlank blank visible]
  dsimp only
  rw [splitAtClose_append [first] after shortest]
  rfl

theorem spanAt?_of_blank {last : Char}
    (blank : Text.AllBlank (blanks ++ [last])) (final : ¬ closer <:+: after) :
    spanAt? (blanks ++ [last] ++ (closer ++ after)) =
      some ([last], after) := by
  rw [spanAt?, closer, List.cons_append, List.singleton_append,
    dropWhile_isBlank blank (by decide), takeWhile_isBlank blank (by decide),
    List.getLast?_concat]
  dsimp only
  rw [splitAtClose_eq_none ['$'] (not_closer_infix_tail final)]
  rfl

/-- Without a `$>` behind its first visible character, a text starts no span
but one of blanks. -/
theorem spanAt?_of_unclosed (blank : Text.AllBlank blanks)
    (visible : Text.isBlank first = false) (unclosed : ¬ closer <:+: others)
    {expression : List Char}
    (found : spanAt? (blanks ++ first :: others) = some (expression, after)) :
    ∃ earlier last, blanks = earlier ++ [last] ∧ expression = [last] ∧
      first :: others = closer ++ after := by
  rw [spanAt?, dropWhile_isBlank blank visible,
    takeWhile_isBlank blank visible] at found
  dsimp only at found
  rw [splitAtClose_eq_none [first] unclosed] at found
  dsimp only at found
  split at found
  · rename_i last rest lastFound
    simp only [Option.some.injEq, Prod.mk.injEq] at found
    obtain ⟨rfl, rfl⟩ := found
    obtain ⟨earlier, rfl⟩ := List.getLast?_eq_some_iff.mp lastFound
    exact ⟨earlier, last, rfl, rfl, rfl⟩
  · contradiction

end Reading

/-- Every text is blank, or it has a first character that is not. -/
theorem allBlank_or_visible (text : List Char) :
    Text.AllBlank text ∨
      ∃ blanks first others, Text.AllBlank blanks ∧
        Text.isBlank first = false ∧ text = blanks ++ first :: others := by
  obtain ⟨blanks, blank, split⟩ := Text.exists_trimStart text
  cases shape : Text.trimStart text with
  | nil =>
      rw [shape, List.append_nil] at split
      rw [split]
      exact Or.inl blank
  | cons first others =>
      have visible : Text.isBlank first = false :=
        Text.start_trimStart text first (by rw [shape]; rfl)
      rw [shape] at split
      exact Or.inr ⟨blanks, first, others, blank, visible, split⟩

/-- The span that is read behind a `<$` is the one that starts there. -/
theorem spanAt?_eq_some_iff {text expression after : List Char} :
    spanAt? text = some (expression, after) ↔
      Span (opener ++ text) expression after := by
  constructor
  · intro found
    rcases allBlank_or_visible text with
      blank | ⟨blanks, first, others, blank, visible, rfl⟩
    · rw [spanAt?_of_allBlank blank] at found
      contradiction
    · by_cases closes : closer <:+: others
      · obtain ⟨inside, rest, rfl, shortest⟩ := exists_first_closer closes
        rw [spanAt?_of_closed blank visible shortest] at found
        simp only [Option.some.injEq, Prod.mk.injEq] at found
        obtain ⟨rfl, rfl⟩ := found
        exact Span.closed blank visible shortest
      · obtain ⟨earlier, last, rfl, rfl, same⟩ :=
          spanAt?_of_unclosed blank visible closes found
        have later : others = '>' :: after := (List.cons.inj same).2
        have final : ¬ closer <:+: after := by
          intro inAfter
          apply closes
          rw [later]
          exact List.infix_cons_iff.mpr (Or.inr inAfter)
        rw [same]
        exact Span.blank blank final
  · generalize whole : opener ++ text = marked
    intro span
    cases span with
    | closed blank visible shortest =>
        rw [List.append_cancel_left whole]
        exact spanAt?_of_closed blank visible shortest
    | blank blank final =>
        rw [List.append_cancel_left whole]
        exact spanAt?_of_blank blank final

theorem Span.exists_closer {text expression after : List Char}
    (span : Span text expression after) :
    ∃ rest, text = opener ++ rest ∧ closer <:+: rest := by
  cases span with
  | @closed blanks inside _ first _ _ _ =>
      refine ⟨_, rfl, blanks ++ first :: inside, after, ?_⟩
      simp
  | @blank blanks _ last _ _ =>
      refine ⟨_, rfl, blanks ++ [last], after, ?_⟩
      simp

/-! ## No span after one that fails -/

theorem not_startsSpan_of_not_opener {text : List Char}
    (unmarked : ¬ opener <+: text) : ¬ StartsSpan text := by
  rintro ⟨expression, after, span⟩
  obtain ⟨rest, rfl, _⟩ := span.exists_closer
  exact unmarked (List.prefix_append _ _)

/-- What comes behind a `<$` comes behind the first character that is not
blank. -/
theorem suffix_of_opener {blanks others before rest : List Char}
    {first : Char} (blank : Text.AllBlank blanks)
    (same : blanks ++ first :: others = before ++ (opener ++ rest)) :
    rest <:+ others := by
  rcases List.append_eq_append_iff.mp same with
    ⟨gap, _, tail⟩ | ⟨gap, front, tail⟩
  · cases gap with
    | nil => exact ⟨['$'], (List.cons.inj tail).2.symm⟩
    | cons head gap =>
        have later : others = gap ++ (opener ++ rest) :=
          (List.cons.inj tail).2
        exact ⟨gap ++ opener, by rw [later, List.append_assoc]⟩
  · cases gap with
    | nil => exact ⟨['$'], (List.cons.inj tail).2⟩
    | cons head gap =>
        have isMark : '<' = head := (List.cons.inj tail).1
        have inBlanks : '<' ∈ blanks := by
          rw [front, isMark]
          exact List.mem_append_right _ List.mem_cons_self
        exact absurd (blank '<' inBlanks) (by decide)

/-- Where no span starts at a `<$`, there is no `$>` that could end a later
one. -/
theorem not_startsSpan_of_unread {text : List Char}
    (unread : spanAt? text = none) (start : Nat) :
    ¬ StartsSpan ((opener ++ text).drop start) := by
  match start with
  | 0 =>
      rintro ⟨expression, after, span⟩
      have found := spanAt?_eq_some_iff.mpr span
      rw [unread] at found
      contradiction
  | 1 =>
      apply not_startsSpan_of_not_opener
      rintro ⟨rest, same⟩
      exact absurd (List.cons.inj same).1 (by decide)
  | start + 2 =>
      rintro ⟨expression, after, span⟩
      obtain ⟨rest, marked, closes⟩ := span.exists_closer
      have whole : text = text.take start ++ (opener ++ rest) := by
        rw [← marked]
        exact (List.take_append_drop start text).symm
      rcases allBlank_or_visible text with
        blank | ⟨blanks, first, others, blank, visible, rfl⟩
      · have inText : '<' ∈ text := by
          rw [whole]
          simp [opener]
        exact absurd (blank '<' inText) (by decide)
      · have laterCloses : closer <:+: others :=
          closes.trans (suffix_of_opener blank whole).isInfix
        obtain ⟨inside, rest, rfl, shortest⟩ :=
          exists_first_closer laterCloses
        rw [spanAt?_of_closed blank visible shortest] at unread
        contradiction

end TerseMarkup.Expression
