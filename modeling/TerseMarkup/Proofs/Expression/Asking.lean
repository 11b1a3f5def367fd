import TerseMarkup.Proofs.Expression.Pieces

/-!
# What the host is asked

The expressions that a host is asked for are not empty and run up to the first
`$>` behind their first character. As a rule they are trimmed and have no `$>`
in them. The exceptions are the spans in which only blanks stand before the
first `$>`: such a span goes on to the next `$>`, or its expression is a blank.
-/

namespace TerseMarkup.Expression

/-- Only blanks stand between the `<$` of a span and the next `$>`. -/
def IsHollow (written : List Char) : Prop :=
  ∃ blanks rest, Text.AllBlank blanks ∧
    written = opener ++ (blanks ++ (closer ++ rest))

section Asking

variable {blanks inside after : List Char} {first : Char}

theorem isHollow_iff (blank : Text.AllBlank blanks)
    (visible : Text.isBlank first = false) :
    IsHollow (opener ++ (blanks ++ first :: (inside ++ closer))) ↔
      closer <+: first :: inside := by
  constructor
  · rintro ⟨others, rest, othersBlank, same⟩
    have trimmed : Text.trimStart (blanks ++ first :: (inside ++ closer)) =
        Text.trimStart (others ++ (closer ++ rest)) :=
      congrArg Text.trimStart (List.append_cancel_left same)
    rw [Text.trimStart_append blank, Text.trimStart_append othersBlank,
      Text.trimStart_of_start (by simpa using visible)] at trimmed
    have starts : closer <+: first :: (inside ++ (closer ++ [])) := by
      rw [List.append_nil, trimmed]
      exact ⟨rest, rfl⟩
    exact closer_prefix_append starts
  · rintro ⟨rest, same⟩
    refine ⟨blanks, rest ++ closer, blank, ?_⟩
    rw [← List.cons_append, ← same, List.append_assoc]

theorem closer_prefix_trimEnd :
    closer <+: first :: Text.trimEnd inside ↔ closer <+: first :: inside := by
  constructor
  · rintro ⟨rest, same⟩
    obtain ⟨ending, _, split⟩ := Text.exists_trimEnd inside
    refine ⟨rest ++ ending, ?_⟩
    rw [← List.append_assoc, same, List.cons_append, ← split]
  · rintro ⟨rest, same⟩
    obtain ⟨rfl, rfl⟩ := List.cons.inj same
    exact ⟨Text.trimEnd rest, congrArg ('$' :: ·)
      (Text.trimEnd_cons_of_visible rest (by decide)).symm⟩

theorem not_closer_infix_trimEnd (shortest : ¬ closer <:+: inside) :
    ¬ closer <:+: Text.trimEnd inside := by
  intro later
  obtain ⟨ending, _, split⟩ := Text.exists_trimEnd inside
  apply shortest
  rw [split]
  exact later.trans (List.prefix_append _ _).isInfix

/-- The only `$>` that an expression can have is one at its front. -/
theorem closer_infix_expression (shortest : ¬ closer <:+: inside) :
    closer <:+: first :: Text.trimEnd inside ↔ closer <+: first :: inside := by
  rw [List.infix_cons_iff, or_iff_left (not_closer_infix_trimEnd shortest),
    closer_prefix_trimEnd]

theorem isTrimmed_expression (visible : Text.isBlank first = false) :
    Text.IsTrimmed (first :: Text.trimEnd inside) := by
  have start : Text.trimStart (first :: inside) = first :: inside :=
    Text.trimStart_of_start (by simpa using visible)
  have trimmed := Text.isTrimmed_trim (first :: inside)
  rw [Text.trim, start, Text.trimEnd_cons_of_visible inside visible]
    at trimmed
  exact trimmed

end Asking

/-- An expression is not empty, and behind its first character it has no `$>`.
It is trimmed or a single blank. It is trimmed and without a `$>` exactly if
something else than blanks stands before the first `$>` of its span. -/
theorem Span.expression_form {written expression after : List Char}
    (span : Span (written ++ after) expression after) :
    expression ≠ [] ∧ ¬ closer <:+: expression.tail ∧
      (Text.IsTrimmed expression ∨
        ∃ blank, Text.isBlank blank = true ∧ expression = [blank]) ∧
      (Text.IsTrimmed expression ∧ ¬ closer <:+: expression ↔
        ¬ IsHollow written) := by
  generalize whole : written ++ after = text at span
  cases span with
  | @closed blanks inside _ first blank visible shortest =>
      have isWritten : written =
          opener ++ (blanks ++ first :: (inside ++ closer)) := by
        have regrouped : written ++ after =
            (opener ++ (blanks ++ first :: (inside ++ closer))) ++ after := by
          rw [whole]
          simp
        exact List.append_cancel_right regrouped
      have trimmed : Text.IsTrimmed (first :: Text.trimEnd inside) :=
        isTrimmed_expression visible
      rw [Text.trimEnd_cons_of_visible inside visible, isWritten,
        isHollow_iff blank visible, closer_infix_expression shortest]
      exact ⟨List.cons_ne_nil _ _, not_closer_infix_trimEnd shortest,
        Or.inl trimmed, and_iff_right trimmed⟩
  | @blank blanks _ last blank final =>
      have lastBlank : Text.isBlank last = true :=
        blank last (List.mem_append_right _ List.mem_cons_self)
      have hollow : IsHollow written := by
        refine ⟨blanks ++ [last], [], blank, ?_⟩
        have regrouped : written ++ after =
            (opener ++ (blanks ++ [last] ++ (closer ++ []))) ++ after := by
          rw [whole]
          simp
        exact List.append_cancel_right regrouped
      have untrimmed : ¬ Text.IsTrimmed [last] := by
        intro trimmed
        have visible := trimmed.start last rfl
        rw [lastBlank] at visible
        contradiction
      have nothing : ¬ closer <:+: [] := by decide
      refine ⟨List.cons_ne_nil _ _, nothing, Or.inr ⟨last, lastBlank, rfl⟩,
        ?_⟩
      exact iff_of_false (fun both => untrimmed both.1)
        (fun notHollow => notHollow hollow)

theorem Pieces.exists_span {text last : List Char} {pieces : List Piece}
    (cut : Pieces text pieces last) :
    ∀ piece ∈ pieces, ∃ after,
      Span (piece.written ++ after) piece.expression after := by
  induction cut with
  | last _ =>
      intro piece member
      contradiction
  | span first _ inductionHypothesis =>
      exact List.forall_mem_cons.mpr
        ⟨⟨_, first.span⟩, inductionHypothesis⟩

/-- The host is asked for the expressions of the pieces and for nothing else.
None of these is empty, none has a `$>` behind its first character, and each
is trimmed or a single blank. Those with a `$>` or with blanks at the ends are
the ones of spans in which only blanks stand before the first `$>`. -/
theorem asked_expressions (options : Options) (evaluator : Evaluator)
    (html : String) {pieces : List Piece} {last : List Char}
    (cut : Pieces html.toList pieces last) :
    (∀ other : Evaluator,
      (∀ piece ∈ pieces, piece.answer other = piece.answer evaluator) →
        substitute options other html = substitute options evaluator html) ∧
    ∀ piece ∈ pieces,
      piece.expression ≠ [] ∧ ¬ closer <:+: piece.expression.tail ∧
        (Text.IsTrimmed piece.expression ∨
          ∃ blank, Text.isBlank blank = true ∧ piece.expression = [blank]) ∧
        (Text.IsTrimmed piece.expression ∧ ¬ closer <:+: piece.expression ↔
          ¬ IsHollow piece.written) := by
  constructor
  · intro other agrees
    have sameTexts : pieces.flatMap (fun piece =>
          piece.before ++ (piece.answer other).shown options) =
        pieces.flatMap (fun piece =>
          piece.before ++ (piece.answer evaluator).shown options) := by
      apply List.flatMap_congr
      intro piece member
      rw [agrees piece member]
    have sameReports : pieces.filterMap (Piece.report? other) =
        pieces.filterMap (Piece.report? evaluator) := by
      apply List.filterMap_congr
      intro piece member
      rw [Piece.report?, agrees piece member, Piece.report?]
    rw [substitute, substitute, substituteChars_of_pieces options other cut,
      substituteChars_of_pieces options evaluator cut, sameTexts, sameReports]
  · intro piece member
    obtain ⟨after, span⟩ := cut.exists_span piece member
    exact span.expression_form

/-- A span with nothing in it, and another one behind it. -/
def hollowSpan : String :=
  "<$$> and <$ b $>"

/-- The first span takes in the second one, and the host is asked for all of
it. -/
theorem asked_expressions_hollow :
    ∃ piece, Pieces hollowSpan.toList [piece] [] ∧
      piece.expression = "$> and <$ b".toList ∧ IsHollow piece.written := by
  let piece : Piece := ⟨[], hollowSpan.toList, "$> and <$ b".toList⟩
  have span : Span (hollowSpan.toList ++ []) piece.expression [] := by
    have marked : hollowSpan.toList ++ [] =
        opener ++ "$> and <$ b $>".toList := by
      decide +kernel
    rw [marked]
    exact spanAt?_eq_some_iff.mp (by decide +kernel)
  have first : FirstSpan hollowSpan.toList piece [] :=
    ⟨(List.append_nil _).symm, span,
      fun start early => absurd early (Nat.not_lt_zero start)⟩
  have spanless : ∀ start, ¬ StartsSpan (([] : List Char).drop start) := by
    intro start
    rw [List.drop_nil]
    exact not_startsSpan_of_not_opener (by decide)
  have cut : Pieces hollowSpan.toList [piece] [] :=
    .span first (.last spanless)
  obtain ⟨_, form⟩ := asked_expressions {} .unavailable hollowSpan cut
  have closes : closer <:+: piece.expression := by decide +kernel
  refine ⟨piece, cut, rfl, ?_⟩
  by_contra solid
  obtain ⟨_, _, _, equivalent⟩ := form piece List.mem_cons_self
  exact (equivalent.mpr solid).2 closes

/-- With an expression for its own value, a span that has nothing in it shows
what it takes in, and one of a blank shows the blank. -/
theorem substitute_hollow :
    substitute {} (fun expression => .value expression) hollowSpan =
        ("$&gt; and &lt;$ b", []) ∧
      substitute {} (fun expression => .value expression) "<$ $>" =
        (" ", []) := by
  decide +kernel

end TerseMarkup.Expression
