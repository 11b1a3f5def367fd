import TerseMarkup.Proofs.Expression.Spans

/-!
# The pattern of a span

A span is what matches `<$`, blanks, the expression, blanks and `$>`, with as
many blanks as possible on both sides and as few characters in the expression
as possible, but at least one. A pattern can match a text in several ways,
which are tried in order of preference, and the first way is taken. For this
pattern the first way is the span that starts at the front of the text.
-/

namespace TerseMarkup

/-- A pattern for the front of a text. `most` is for as many characters of a
class as possible, `fewest` for at least one and as few as possible, and a
group takes note of what it matches. -/
inductive Pattern where
  | exactly (text : List Char)
  | most (accepts : Char → Bool)
  | fewest (accepts : Char → Bool)
  | group (inner : Pattern)
  | follow (first second : Pattern)

namespace Pattern

/-- One way in which a pattern matches the front of a text: what is matched,
what the groups match, in order, and what comes behind. -/
structure Way where
  taken : List Char
  groups : List (List Char)
  rest : List Char

/-- The splits of a text behind characters of a class, the longest stretch of
them first. -/
def longestFirst (accepts : Char → Bool) :
    List Char → List (List Char × List Char)
  | [] => [([], [])]
  | character :: rest =>
      (if accepts character then
        (longestFirst accepts rest).map fun (taken, later) =>
          (character :: taken, later)
      else []) ++ [([], character :: rest)]

/-- The splits of a text behind at least one character of a class, the
shortest stretch of them first. -/
def shortestFirst (accepts : Char → Bool) :
    List Char → List (List Char × List Char)
  | [] => []
  | character :: rest =>
      if accepts character then
        ([character], rest) ::
          (shortestFirst accepts rest).map fun (taken, later) =>
            (character :: taken, later)
      else []

/-- The ways in which a pattern matches the front of a text, in order of
preference. An earlier part of a pattern decides before a later one. -/
def ways : Pattern → List Char → List Way
  | exactly text, input =>
      if text.isPrefixOf input then [⟨text, [], input.drop text.length⟩]
      else []
  | most accepts, input =>
      (longestFirst accepts input).map fun (taken, rest) => ⟨taken, [], rest⟩
  | fewest accepts, input =>
      (shortestFirst accepts input).map fun (taken, rest) => ⟨taken, [], rest⟩
  | group inner, input =>
      (inner.ways input).map fun way =>
        { way with groups := way.taken :: way.groups }
  | follow first second, input =>
      (first.ways input).flatMap fun before =>
        (second.ways before.rest).map fun after =>
          ⟨before.taken ++ after.taken, before.groups ++ after.groups,
            after.rest⟩

def first? (pattern : Pattern) (text : List Char) : Option Way :=
  (pattern.ways text).head?

/-- What the groups of a pattern match at the front of a text, and what comes
behind the match. -/
def outcome? (pattern : Pattern) (text : List Char) :
    Option (List (List Char) × List Char) :=
  (pattern.first? text).map fun way => (way.groups, way.rest)

theorem outcome?_exactly (text rest : List Char) :
    (exactly text).outcome? (text ++ rest) = some ([], rest) := by
  have isPrefix : text.isPrefixOf (text ++ rest) = true :=
    List.isPrefixOf_iff_prefix.mpr (List.prefix_append text rest)
  simp [outcome?, first?, ways, isPrefix]

theorem outcome?_exactly_of_not_prefix {text input : List Char}
    (different : ¬ text <+: input) : (exactly text).outcome? input = none := by
  have isNotPrefix : ¬ text.isPrefixOf input = true :=
    fun isPrefix => different (List.isPrefixOf_iff_prefix.mp isPrefix)
  rw [outcome?, first?, ways, if_neg isNotPrefix]
  rfl

theorem outcome?_follow (first second : Pattern) (text : List Char) :
    (follow first second).outcome? text =
      (first.ways text).findSome? fun before =>
        (second.outcome? before.rest).map fun (groups, rest) =>
          (before.groups ++ groups, rest) := by
  simp only [outcome?, first?, ways, List.head?_flatMap, List.map_findSome?,
    List.head?_map]
  congr 1
  funext before
  simp [Function.comp_def]

/-! ## Repetition -/

section Repetition

variable (accepts : Char → Bool) (later : Pattern)
  {character : Char} (rest : List Char)

theorem outcome?_most_nil :
    (follow (most accepts) later).outcome? [] = later.outcome? [] := by
  simp [outcome?_follow, ways, longestFirst]

/-- A character that can be passed over is passed over if the pattern matches
then, and only otherwise left to what comes later. -/
theorem outcome?_most_accepted (accepted : accepts character = true) :
    (follow (most accepts) later).outcome? (character :: rest) =
      ((follow (most accepts) later).outcome? rest).or
        (later.outcome? (character :: rest)) := by
  simp [outcome?_follow, ways, longestFirst, accepted, List.findSome?_append,
    List.findSome?_map, Function.comp_def]

theorem outcome?_most_refused (refused : accepts character = false) :
    (follow (most accepts) later).outcome? (character :: rest) =
      later.outcome? (character :: rest) := by
  simp [outcome?_follow, ways, longestFirst, refused]

/-- A character is the whole group if the pattern matches behind it, and only
otherwise the first one of a longer group. -/
theorem outcome?_fewest_accepted (accepted : accepts character = true) :
    (follow (group (fewest accepts)) later).outcome? (character :: rest) =
      ((later.outcome? rest).map fun (groups, after) =>
        ([character] :: groups, after)).or
      (((follow (group (fewest accepts)) later).outcome? rest).map
        fun (groups, after) =>
          (groups.modifyHead (character :: ·), after)) := by
  simp only [outcome?_follow, ways, shortestFirst, accepted, if_pos,
    List.map_cons, List.map_map, List.findSome?_cons, List.findSome?_map,
    List.map_findSome?]
  cases later.outcome? rest with
  | some outcome => rfl
  | none => simp [Function.comp_def]

end Repetition

/-! ## What is matched -/

theorem append_of_mem_longestFirst {accepts : Char → Bool} {text : List Char}
    {split : List Char × List Char}
    (member : split ∈ longestFirst accepts text) :
    split.1 ++ split.2 = text := by
  induction text generalizing split with
  | nil =>
      rw [longestFirst, List.mem_singleton] at member
      rw [member, List.append_nil]
  | cons character rest inductionHypothesis =>
      rw [longestFirst, List.mem_append, List.mem_singleton] at member
      rcases member with longer | rfl
      · split at longer
        · obtain ⟨shorter, listed, rfl⟩ := List.mem_map.mp longer
          rw [List.cons_append, inductionHypothesis listed]
        · contradiction
      · rfl

theorem append_of_mem_shortestFirst {accepts : Char → Bool}
    {text : List Char} {split : List Char × List Char}
    (member : split ∈ shortestFirst accepts text) :
    split.1 ++ split.2 = text := by
  induction text generalizing split with
  | nil => contradiction
  | cons character rest inductionHypothesis =>
      rw [shortestFirst] at member
      split at member
      · rcases List.mem_cons.mp member with rfl | longer
        · rfl
        · obtain ⟨shorter, listed, rfl⟩ := List.mem_map.mp longer
          rw [List.cons_append, inductionHypothesis listed]
      · contradiction

theorem taken_append_rest (pattern : Pattern) {text : List Char} {way : Way}
    (member : way ∈ pattern.ways text) : way.taken ++ way.rest = text := by
  induction pattern generalizing text way with
  | exactly given =>
      rw [ways] at member
      split at member
      · rename_i isPrefix
        rw [List.mem_singleton.mp member]
        exact List.prefix_iff_eq_append.mp
          (List.isPrefixOf_iff_prefix.mp isPrefix)
      · contradiction
  | most accepts =>
      obtain ⟨split, listed, rfl⟩ := List.mem_map.mp member
      exact append_of_mem_longestFirst listed
  | fewest accepts =>
      obtain ⟨split, listed, rfl⟩ := List.mem_map.mp member
      exact append_of_mem_shortestFirst listed
  | group inner inductionHypothesis =>
      obtain ⟨innerWay, listed, rfl⟩ := List.mem_map.mp member
      have whole : innerWay.taken ++ innerWay.rest = text :=
        inductionHypothesis listed
      exact whole
  | follow first second firstHypothesis secondHypothesis =>
      rw [ways] at member
      obtain ⟨before, listed, continued⟩ := List.mem_flatMap.mp member
      obtain ⟨after, listedAfter, rfl⟩ := List.mem_map.mp continued
      rw [List.append_assoc, secondHypothesis listedAfter,
        firstHypothesis listed]

/-- The way in which a pattern matches is known from its outcome. -/
theorem first?_eq_some_iff (pattern : Pattern) {taken rest : List Char}
    {groups : List (List Char)} :
    pattern.first? (taken ++ rest) = some ⟨taken, groups, rest⟩ ↔
      pattern.outcome? (taken ++ rest) = some (groups, rest) := by
  constructor
  · intro found
    rw [outcome?, found]
    rfl
  · intro found
    obtain ⟨way, isFirst, same⟩ := Option.map_eq_some_iff.mp found
    obtain ⟨rfl, rfl⟩ := Prod.mk.inj same
    have whole : way.taken ++ way.rest = taken ++ way.rest :=
      taken_append_rest pattern (List.mem_of_mem_head? isFirst)
    rw [isFirst, ← List.append_cancel_right whole]

end Pattern

/-! ## The pattern of a span -/

namespace Expression

def closing : Pattern :=
  .follow (.most Text.isBlank) (.exactly closer)

def ending : Pattern :=
  .follow (.group (.fewest fun _ => true)) closing

def body : Pattern :=
  .follow (.most Text.isBlank) ending

/-- The pattern of a span, with the expression as its only group. -/
def pattern : Pattern :=
  .follow (.exactly opener) body

/-- All blanks are passed over before a `$>`, which starts with none. -/
theorem outcome?_closing (text : List Char) :
    closing.outcome? text =
      (Pattern.exactly closer).outcome? (Text.trimStart text) := by
  induction text with
  | nil => exact Pattern.outcome?_most_nil Text.isBlank (.exactly closer)
  | cons character rest inductionHypothesis =>
      by_cases blank : Text.isBlank character = true
      · have notCloser : ¬ closer <+: character :: rest := by
          rintro ⟨after, same⟩
          rw [← (List.cons.inj same).1] at blank
          exact absurd blank (by decide)
        have trimmed : Text.trimStart (character :: rest) =
            Text.trimStart rest :=
          List.dropWhile_cons_of_pos blank
        rw [closing, Pattern.outcome?_most_accepted _ _ _ blank, ← closing,
          inductionHypothesis,
          Pattern.outcome?_exactly_of_not_prefix notCloser, Option.or_none,
          trimmed]
      · have trimmed : Text.trimStart (character :: rest) =
            character :: rest :=
          List.dropWhile_cons_of_neg blank
        rw [closing,
          Pattern.outcome?_most_refused _ _ _ (Bool.eq_false_iff.mpr blank),
          trimmed]

theorem outcome?_ending_cons (first : Char) (others : List Char) :
    ending.outcome? (first :: others) =
      ((closing.outcome? others).map fun (groups, after) =>
        ([first] :: groups, after)).or
      ((ending.outcome? others).map fun (groups, after) =>
        (groups.modifyHead (first :: ·), after)) :=
  Pattern.outcome?_fewest_accepted (fun _ => true) closing others rfl

/-- The expression ends before the blanks that stand before the first `$>`
behind its first character. -/
theorem outcome?_ending (first : Char) {inside : List Char}
    (after : List Char) (shortest : ¬ closer <:+: inside) :
    ending.outcome? (first :: (inside ++ (closer ++ after))) =
      some ([first :: Text.trimEnd inside], after) := by
  induction inside generalizing first with
  | nil =>
      have closed : closing.outcome? (closer ++ after) = some ([], after) := by
        rw [outcome?_closing]
        exact Pattern.outcome?_exactly closer after
      rw [List.nil_append, outcome?_ending_cons, closed]
      rfl
  | cons character rest inductionHypothesis =>
      rw [outcome?_ending_cons]
      rcases allBlank_or_visible (character :: rest) with
        blank | ⟨blanks, solid, others, blank, visible, same⟩
      · have closed :
            closing.outcome? (character :: rest ++ (closer ++ after)) =
              some ([], after) := by
          rw [outcome?_closing, Text.trimStart_append blank]
          exact Pattern.outcome?_exactly closer after
        rw [closed, Text.trimEnd_of_allBlank blank]
        rfl
      · have unclosed :
            closing.outcome? (character :: rest ++ (closer ++ after)) =
              none := by
          rw [same, List.append_assoc, List.cons_append, outcome?_closing,
            Text.trimStart_append blank,
            Text.trimStart_of_start (by simpa using visible)]
          apply Pattern.outcome?_exactly_of_not_prefix
          intro starts
          apply shortest
          rw [same]
          exact (closer_prefix_append starts).isInfix.trans
            (List.suffix_append _ _).isInfix
        have notBlank : ¬ Text.AllBlank (character :: rest) := by
          intro allBlank
          have solidBlank := allBlank solid (by simp [same])
          rw [visible] at solidBlank
          contradiction
        have later : ¬ closer <:+: rest :=
          fun inRest => shortest (List.infix_cons_iff.mpr (Or.inr inRest))
        rw [unclosed, List.cons_append, inductionHypothesis character later,
          Text.trimEnd_cons_of_not_allBlank notBlank]
        rfl

theorem outcome?_closing_eq_none {text : List Char}
    (unclosed : ¬ closer <:+: text) : closing.outcome? text = none := by
  rw [outcome?_closing]
  apply Pattern.outcome?_exactly_of_not_prefix
  intro starts
  exact unclosed (starts.isInfix.trans (List.dropWhile_suffix _).isInfix)

theorem outcome?_ending_eq_none (first : Char) {others : List Char}
    (unclosed : ¬ closer <:+: others) :
    ending.outcome? (first :: others) = none := by
  induction others generalizing first with
  | nil =>
      rw [outcome?_ending_cons, outcome?_closing_eq_none unclosed]
      rfl
  | cons second rest inductionHypothesis =>
      have later : ¬ closer <:+: rest :=
        fun inRest => unclosed (List.infix_cons_iff.mpr (Or.inr inRest))
      rw [outcome?_ending_cons, outcome?_closing_eq_none unclosed,
        inductionHypothesis second later]
      rfl

theorem outcome?_body_of_visible {first : Char} (others : List Char)
    (visible : Text.isBlank first = false) :
    body.outcome? (first :: others) = ending.outcome? (first :: others) :=
  Pattern.outcome?_most_refused Text.isBlank ending others visible

theorem outcome?_body_of_blank {character : Char} (rest : List Char)
    (blank : Text.isBlank character = true) :
    body.outcome? (character :: rest) =
      (body.outcome? rest).or (ending.outcome? (character :: rest)) :=
  Pattern.outcome?_most_accepted Text.isBlank ending rest blank

theorem outcome?_body_append {blanks text : List Char}
    {outcome : List (List Char) × List Char} (blank : Text.AllBlank blanks)
    (matched : body.outcome? text = some outcome) :
    body.outcome? (blanks ++ text) = some outcome := by
  induction blanks with
  | nil => exact matched
  | cons character rest inductionHypothesis =>
      obtain ⟨blankFirst, blankRest⟩ := List.forall_mem_cons.mp blank
      rw [List.cons_append, outcome?_body_of_blank _ blankFirst,
        inductionHypothesis blankRest, Option.some_or]

theorem outcome?_body_eq_none {text : List Char}
    (unclosed : ¬ closer <:+: text) : body.outcome? text = none := by
  induction text with
  | nil => rfl
  | cons character rest inductionHypothesis =>
      have later : ¬ closer <:+: rest :=
        fun inRest => unclosed (List.infix_cons_iff.mpr (Or.inr inRest))
      by_cases blank : Text.isBlank character = true
      · rw [outcome?_body_of_blank _ blank, inductionHypothesis later,
          Option.none_or, outcome?_ending_eq_none character later]
      · rw [outcome?_body_of_visible _ (Bool.eq_false_iff.mpr blank),
          outcome?_ending_eq_none character later]

/-- Behind a `<$`, the pattern matches the span that starts there. -/
theorem outcome?_body_of_span {text expression after : List Char}
    (span : Span (opener ++ text) expression after) :
    body.outcome? text = some ([expression], after) := by
  generalize whole : opener ++ text = marked at span
  cases span with
  | @closed blanks inside _ first blank visible shortest =>
      rw [List.append_cancel_left whole]
      apply outcome?_body_append blank
      rw [outcome?_body_of_visible _ visible,
        outcome?_ending first after shortest,
        Text.trimEnd_cons_of_visible inside visible]
  | @blank blanks _ last blank final =>
      obtain ⟨blanksBlank, lastBlank⟩ := List.forall_mem_append.mp blank
      rw [List.append_cancel_left whole, List.append_assoc]
      apply outcome?_body_append blanksBlank
      -- The blank is passed over first, and given back as nothing else ends
      -- the span.
      have passedOver : body.outcome? (closer ++ after) = none := by
        rw [closer, List.cons_append,
          outcome?_body_of_visible _ (by decide)]
        exact outcome?_ending_eq_none '$' (not_closer_infix_tail final)
      have nothing : ¬ closer <:+: [] := by decide
      rw [List.singleton_append,
        outcome?_body_of_blank _ (lastBlank last List.mem_cons_self),
        passedOver, Option.none_or]
      exact outcome?_ending last after nothing

/-- Behind a `<$` that starts no span, the pattern does not match. -/
theorem outcome?_body_of_unread {text : List Char}
    (unread : spanAt? text = none) : body.outcome? text = none := by
  by_cases closes : closer <:+: text
  · rcases allBlank_or_visible text with
      blank | ⟨blanks, first, others, blank, visible, rfl⟩
    · rw [← List.append_nil text] at closes
      exact absurd (closer_infix_of_blanks blank closes) (by decide)
    · have unclosed : ¬ closer <:+: others := by
        intro inOthers
        obtain ⟨inside, after, rfl, shortest⟩ := exists_first_closer inOthers
        rw [spanAt?_of_closed blank visible shortest] at unread
        contradiction
      -- The only `$>` comes right behind the blanks, so that there are none.
      have visibleCloses := closer_infix_of_blanks blank closes
      obtain ⟨after, same⟩ :=
        (List.infix_cons_iff.mp visibleCloses).resolve_right unclosed
      rcases List.eq_nil_or_concat blanks with rfl | ⟨earlier, last, rfl⟩
      · rw [List.nil_append, outcome?_body_of_visible _ visible,
          outcome?_ending_eq_none first unclosed]
      · have final : ¬ closer <:+: after := by
          intro inAfter
          apply unclosed
          rw [← (List.cons.inj same).2]
          exact List.infix_cons_iff.mpr (Or.inr inAfter)
        rw [List.concat_eq_append] at blank unread
        rw [← same, spanAt?_of_blank blank final] at unread
        contradiction
  · exact outcome?_body_eq_none closes

theorem outcome?_pattern (text : List Char) :
    pattern.outcome? (opener ++ text) = body.outcome? text := by
  rw [pattern, Pattern.outcome?_follow]
  simp [Pattern.ways]

theorem outcome?_pattern_eq_none {text : List Char}
    (unmarked : ¬ opener <+: text) : pattern.outcome? text = none := by
  have isNotPrefix : ¬ opener.isPrefixOf text = true :=
    fun isPrefix => unmarked (List.isPrefixOf_iff_prefix.mp isPrefix)
  rw [pattern, Pattern.outcome?_follow, Pattern.ways, if_neg isNotPrefix]
  rfl

/-- The pattern matches exactly the spans. -/
theorem span_iff_first? {written expression after : List Char} :
    Span (written ++ after) expression after ↔
      pattern.first? (written ++ after) =
        some ⟨written, [expression], after⟩ := by
  rw [Pattern.first?_eq_some_iff]
  generalize written ++ after = text
  constructor
  · intro span
    obtain ⟨rest, rfl, _⟩ := span.exists_closer
    rw [outcome?_pattern, outcome?_body_of_span span]
  · intro matched
    have marked : opener <+: text := by
      by_contra unmarked
      rw [outcome?_pattern_eq_none unmarked] at matched
      contradiction
    obtain ⟨rest, rfl⟩ := marked
    rw [outcome?_pattern] at matched
    cases found : spanAt? rest with
    | none =>
        rw [outcome?_body_of_unread found] at matched
        contradiction
    | some read =>
        have span := spanAt?_eq_some_iff.mp found
        rw [outcome?_body_of_span span] at matched
        simp only [Option.some.injEq, Prod.mk.injEq, List.cons.injEq,
          and_true] at matched
        rw [← matched.1, ← matched.2]
        exact span

end Expression

end TerseMarkup
