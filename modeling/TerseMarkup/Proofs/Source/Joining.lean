import TerseMarkup.Proofs.Source.OnePass

/-!
# Cutting what was joined

Tokens are joined by combinators, with blanks around these, into a line.
Cutting the line gives the tokens back if the scan for separators finds none
inside of a token and is back outside of quotes and braces at the end of every
token but the last one.
-/

namespace TerseMarkup.Combinator

open Enclosure

/-! ## Stretches without a combinator -/

/-- No combinator in the text separates anything. -/
def isWhole (enclosure : Enclosure) (text : List Char) : Bool :=
  isFree sibling enclosure text && isFree nesting enclosure text

def extend (text : List Char) (scanned : Stretches × List Stretches) :
    Stretches × List Stretches :=
  ((text ++ scanned.1.1, scanned.1.2), scanned.2)

section Scanning

variable {enclosure : Enclosure} {text : List Char}

theorem isWhole_cons {character : Char} {rest : List Char} :
    isWhole enclosure (character :: rest) = true ↔
      ¬ enclosure.separates sibling character = true ∧
        ¬ enclosure.separates nesting character = true ∧
        isWhole (enclosure.step character) rest = true := by
  simp only [isWhole, Bool.and_eq_true, isFree_cons]
  rw [and_and_and_comm, and_assoc]

theorem isWhole_append {second : List Char} :
    isWhole enclosure (text ++ second) = true ↔
      isWhole enclosure text = true ∧
        isWhole (enclosure.run text) second = true := by
  simp only [isWhole, Bool.and_eq_true, isFree_append]
  exact and_and_and_comm

theorem isWhole_of_allBlank (blank : Text.AllBlank text) :
    isWhole enclosure text = true := by
  rw [isWhole, isFree_of_allBlank (by decide) blank,
    isFree_of_allBlank (by decide) blank]
  rfl

theorem scan_append_of_isWhole (rest : List Char)
    (whole : isWhole enclosure text = true) :
    scan enclosure (text ++ rest) =
      extend text (scan (enclosure.run text) rest) := by
  induction text generalizing enclosure with
  | nil => rfl
  | cons first others inductionHypothesis =>
      obtain ⟨noSibling, noNesting, othersWhole⟩ := isWhole_cons.mp whole
      rw [List.cons_append, scan_cons, if_neg noSibling, if_neg noNesting,
        inductionHypothesis othersWhole]
      rfl

/-- The first stretch goes up to a combinator where nothing is open, or to
the end. -/
theorem scan_first (enclosure : Enclosure) (text : List Char) :
    isWhole enclosure (scan enclosure text).1.1 = true ∧
      ((scan enclosure text).1.1 = text ∨
        ∃ operator rest,
          text = (scan enclosure text).1.1 ++ operator :: rest ∧
            enclosure.run (scan enclosure text).1.1 = outermost ∧
            (operator = sibling ∨ operator = nesting)) := by
  induction text generalizing enclosure with
  | nil => exact ⟨rfl, Or.inl rfl⟩
  | cons first others inductionHypothesis =>
      obtain ⟨laterWhole, later⟩ :=
        inductionHypothesis (enclosure.step first)
      rw [scan_cons]
      by_cases separatesChains : enclosure.separates sibling first = true
      · obtain ⟨atOutermost, isSibling, _⟩ :=
          (separates_iff _ _ _).mp separatesChains
        rw [if_pos separatesChains]
        exact ⟨rfl, Or.inr ⟨first, others, rfl, atOutermost,
          Or.inl isSibling⟩⟩
      by_cases separatesTokens : enclosure.separates nesting first = true
      · obtain ⟨atOutermost, isNesting, _⟩ :=
          (separates_iff _ _ _).mp separatesTokens
        rw [if_neg separatesChains, if_pos separatesTokens]
        exact ⟨rfl, Or.inr ⟨first, others, rfl, atOutermost,
          Or.inr isNesting⟩⟩
      · rw [if_neg separatesChains, if_neg separatesTokens]
        refine ⟨isWhole_cons.mpr
          ⟨separatesChains, separatesTokens, laterWhole⟩, ?_⟩
        rcases later with toEnd | ⟨operator, rest, split, closed, isOperator⟩
        · exact Or.inl (congrArg (first :: ·) toEnd)
        · exact Or.inr ⟨operator, rest, congrArg (first :: ·) split, closed,
            isOperator⟩

end Scanning

/-! ## The tokens around one combinator -/

theorem tokens_append_of_allBlank {before : List Char}
    (blank : Text.AllBlank before) (stretches : Stretches) :
    tokens (before ++ stretches.1, stretches.2) = tokens stretches := by
  rw [tokens, List.map_cons, Text.trim_append _ blank, ← List.map_cons,
    tokens]

theorem tokens_alone {first : Line} (nonempty : Text.trim first ≠ []) :
    tokens (first, []) = [Text.trim first] := by
  rw [tokens, List.map_cons, List.filter_cons_of_pos (by simpa using nonempty)]
  rfl

theorem tokens_cons {first next : Line} {others : List Line}
    (nonempty : Text.trim first ≠ []) :
    tokens (first, next :: others) =
      Text.trim first :: tokens (next, others) := by
  rw [tokens, List.map_cons, List.filter_cons_of_pos (by simpa using nonempty)]
  rfl

theorem allBlank_space : Text.AllBlank [' '] := by
  intro character member
  rw [List.mem_singleton.mp member]
  decide

/-- Blanks where nothing is open belong to the stretch behind them. -/
theorem scan_blank {gap : List Char} (blank : Text.AllBlank gap)
    (rest : List Char) :
    scan outermost (gap ++ rest) = extend gap (scan outermost rest) := by
  have whole : isWhole outermost gap = true := isWhole_of_allBlank blank
  have scanned := scan_append_of_isWhole rest whole
  rw [run_outermost_of_allBlank blank] at scanned
  exact scanned

theorem scan_nesting (rest : List Char) :
    scan outermost (nesting :: rest) =
      (([], (scan outermost rest).1.1 :: (scan outermost rest).1.2),
        (scan outermost rest).2) := by
  rw [scan_cons, if_neg (by decide), if_pos (by decide)]
  rfl

theorem scan_sibling (rest : List Char) :
    scan outermost (sibling :: rest) =
      (([], []), (scan outermost rest).1 :: (scan outermost rest).2) := by
  rw [scan_cons, if_pos (by decide)]
  rfl

/-- A token that stands alone in a text. -/
structure IsToken (token : Line) : Prop where
  nonempty : token ≠ []
  trimmed : Text.IsTrimmed token

section Tokens

variable {token : Line} {rest : List Char} (isToken : IsToken token)
  (whole : isWhole outermost token = true)

include isToken

theorem IsToken.trim_padded {gap : List Char} (blank : Text.AllBlank gap) :
    Text.trim (token ++ gap) = token := by
  rw [Text.trim_append_blank token blank,
    Text.trim_of_isTrimmed isToken.trimmed]

include whole

theorem rows_alone : rows (scan outermost token) = [[token]] := by
  have scanned : scan outermost token = ((token, []), []) := by
    have extended := scan_append_of_isWhole [] whole
    rw [List.append_nil] at extended
    rw [extended, scan, extend, List.append_nil]
  rw [scanned]
  simp [rows, tokens, Text.trim_of_isTrimmed isToken.trimmed,
    isToken.nonempty]

variable (closed : outermost.run token = outermost)
  {before after : List Char} (blankBefore : Text.AllBlank before)

include closed blankBefore

omit isToken in
theorem scan_token (operator : Char) :
    scan outermost (token ++ (before ++ operator :: rest)) =
      extend (token ++ before) (scan outermost (operator :: rest)) := by
  have padded : isWhole outermost (token ++ before) = true :=
    isWhole_append.mpr ⟨whole, isWhole_of_allBlank blankBefore⟩
  have back : outermost.run (token ++ before) = outermost := by
    rw [run_append, closed, run_outermost_of_allBlank blankBefore]
  have scanned := scan_append_of_isWhole (operator :: rest) padded
  rw [back, List.append_assoc] at scanned
  exact scanned

variable (blankAfter : Text.AllBlank after)

include blankAfter

theorem rows_nesting :
    rows (scan outermost (token ++ (before ++ nesting :: (after ++ rest)))) =
      (token :: tokens (scan outermost rest).1) ::
        (scan outermost rest).2.map tokens := by
  have trimmed := isToken.trim_padded blankBefore
  have nonempty : Text.trim (token ++ before) ≠ [] := by
    rw [trimmed]
    exact isToken.nonempty
  have later := tokens_append_of_allBlank blankAfter (scan outermost rest).1
  rw [scan_token whole closed blankBefore, scan_nesting,
    scan_blank blankAfter, rows, extend, extend, List.map_cons,
    List.append_nil, tokens_cons nonempty, trimmed, later]

theorem rows_sibling :
    rows (scan outermost (token ++ (before ++ sibling :: (after ++ rest)))) =
      [token] :: rows (scan outermost rest) := by
  have trimmed := isToken.trim_padded blankBefore
  have nonempty : Text.trim (token ++ before) ≠ [] := by
    rw [trimmed]
    exact isToken.nonempty
  have later := tokens_append_of_allBlank blankAfter (scan outermost rest).1
  rw [scan_token whole closed blankBefore, scan_sibling,
    scan_blank blankAfter, rows, extend, extend, List.map_cons,
    List.append_nil, tokens_alone nonempty, trimmed, List.map_cons, later]
  rfl

end Tokens

/-! ## Joined lines -/

/-- The tokens of every chain joined by `>`, and the chains by `+`. -/
def joined (chains : List (List Line)) : Line :=
  List.intercalate [' ', sibling, ' ']
    (chains.map (List.intercalate [' ', nesting, ' ']))

theorem joined_alone (token : Line) : joined [[token]] = token := by
  rw [joined, List.map_cons, List.map_nil, List.intercalate_singleton,
    List.intercalate_singleton]

theorem joined_nesting (token next : Line) (others : List Line)
    (chains : List (List Line)) :
    joined ((token :: next :: others) :: chains) =
      token ++ ' ' :: nesting :: ' ' :: joined ((next :: others) :: chains) := by
  cases chains with
  | nil => simp [joined, List.intercalate_singleton,
      List.intercalate_cons_cons]
  | cons chain later => simp [joined, List.intercalate_cons_cons]

theorem joined_sibling (token : Line) (chain : List Line)
    (chains : List (List Line)) :
    joined ([token] :: chain :: chains) =
      token ++ ' ' :: sibling :: ' ' :: joined (chain :: chains) := by
  simp [joined, List.intercalate_singleton, List.intercalate_cons_cons]

/-- Chains of tokens, none of them empty, made token by token from the last
one on. -/
inductive Joinable : List (List Line) → Prop
  | alone (token : Line) : Joinable [[token]]
  | nested (token next : Line) (others : List Line)
      (chains : List (List Line)) :
      Joinable ((next :: others) :: chains) →
      Joinable ((token :: next :: others) :: chains)
  | beside (token next : Line) (others : List Line)
      (chains : List (List Line)) :
      Joinable ((next :: others) :: chains) →
      Joinable ([token] :: (next :: others) :: chains)

theorem joinable_of_ne_nil {chains : List (List Line)}
    (nonempty : chains ≠ []) (filled : ∀ chain ∈ chains, chain ≠ []) :
    Joinable chains := by
  induction chains with
  | nil => exact absurd rfl nonempty
  | cons chain later inductionHypothesis =>
      have last : ∀ token, Joinable ([token] :: later) := by
        intro token
        cases later with
        | nil => exact Joinable.alone token
        | cons second chains =>
            have joinable := inductionHypothesis (List.cons_ne_nil _ _)
              fun other member => filled other (List.mem_cons_of_mem _ member)
            cases second with
            | nil => exact absurd rfl (filled [] (by simp))
            | cons next others =>
                exact Joinable.beside token next others chains joinable
      have chainFilled := filled chain List.mem_cons_self
      clear inductionHypothesis filled nonempty
      induction chain with
      | nil => exact absurd rfl chainFilled
      | cons token rest restJoinable =>
          cases rest with
          | nil => exact last token
          | cons next others =>
              exact Joinable.nested token next others later
                (restJoinable (List.cons_ne_nil _ _))

/-- A scan finds no combinator inside of any of the tokens, and nothing is
open at the end of a token that another one follows. -/
structure Separable (tokens : List Line) : Prop where
  whole : ∀ token ∈ tokens, isWhole outermost token = true
  closed : ∀ token ∈ tokens.dropLast, outermost.run token = outermost

theorem separable_alone {token : Line} :
    Separable [token] ↔ isWhole outermost token = true := by
  constructor
  · intro separable
    exact separable.whole token List.mem_cons_self
  · intro whole
    refine ⟨?_, ?_⟩
    · intro other member
      rw [List.mem_singleton.mp member]
      exact whole
    · intro other member
      exact absurd member List.not_mem_nil

theorem separable_cons {token next : Line} {others : List Line} :
    Separable (token :: next :: others) ↔
      isWhole outermost token = true ∧ outermost.run token = outermost ∧
        Separable (next :: others) := by
  constructor
  · rintro ⟨whole, closed⟩
    rw [List.dropLast_cons_of_ne_nil (List.cons_ne_nil next others)] at closed
    exact ⟨whole token List.mem_cons_self, closed token List.mem_cons_self,
      fun other member => whole other (List.mem_cons_of_mem token member),
      fun other member => closed other (List.mem_cons_of_mem token member)⟩
  · rintro ⟨tokenWhole, tokenClosed, whole, closed⟩
    refine ⟨?_, ?_⟩
    · intro other member
      rcases List.mem_cons.mp member with rfl | later
      · exact tokenWhole
      · exact whole other later
    · intro other member
      rw [List.dropLast_cons_of_ne_nil (List.cons_ne_nil next others)]
        at member
      rcases List.mem_cons.mp member with rfl | later
      · exact tokenClosed
      · exact closed other later

/-! ## Blanks around the combinators -/

/-- The line joins the tokens of every chain by `>` and the chains by `+`,
with any blanks around each of these. -/
inductive Spaced : List (List Line) → Line → Prop
  | nothing : Spaced [] []
  | alone (token : Line) : Spaced [[token]] token
  | nested {token next line : Line} {others : List Line}
      {chains : List (List Line)} {before after : List Char} :
      Text.AllBlank before → Text.AllBlank after →
      Spaced ((next :: others) :: chains) line →
      Spaced ((token :: next :: others) :: chains)
        (token ++ (before ++ nesting :: (after ++ line)))
  | beside {token next line : Line} {others : List Line}
      {chains : List (List Line)} {before after : List Char} :
      Text.AllBlank before → Text.AllBlank after →
      Spaced ((next :: others) :: chains) line →
      Spaced ([token] :: (next :: others) :: chains)
        (token ++ (before ++ sibling :: (after ++ line)))

theorem spaced_joined {chains : List (List Line)}
    (joinable : Joinable chains) : Spaced chains (joined chains) := by
  induction joinable with
  | alone token =>
      rw [joined_alone]
      exact Spaced.alone token
  | nested token next others chains _ inductionHypothesis =>
      rw [joined_nesting]
      exact Spaced.nested allBlank_space allBlank_space inductionHypothesis
  | beside token next others chains _ inductionHypothesis =>
      rw [joined_sibling]
      exact Spaced.beside allBlank_space allBlank_space inductionHypothesis

section Spacing

variable {chains : List (List Line)} {line : Line}

theorem rows_spaced (spaced : Spaced chains line) (nonempty : chains ≠ [])
    (areTokens : ∀ token ∈ chains.flatten, IsToken token)
    (separable : Separable chains.flatten) :
    rows (scan outermost line) = chains := by
  induction spaced with
  | nothing => exact absurd rfl nonempty
  | alone token =>
      exact rows_alone (areTokens token List.mem_cons_self)
        (separable_alone.mp separable)
  | @nested token next line others chains before after blankBefore blankAfter
      _ inductionHypothesis =>
      obtain ⟨whole, closed, later⟩ := separable_cons.mp separable
      have rest := inductionHypothesis (List.cons_ne_nil _ _)
        (fun other member =>
          areTokens other (List.mem_cons_of_mem token member)) later
      rw [rows, List.map_cons, List.cons.injEq] at rest
      rw [rows_nesting (areTokens token List.mem_cons_self) whole closed
        blankBefore blankAfter, rest.1, rest.2]
  | @beside token next line others chains before after blankBefore blankAfter
      _ inductionHypothesis =>
      obtain ⟨whole, closed, later⟩ := separable_cons.mp separable
      have rest := inductionHypothesis (List.cons_ne_nil _ _)
        (fun other member =>
          areTokens other (List.mem_cons_of_mem token member)) later
      rw [rows_sibling (areTokens token List.mem_cons_self) whole closed
        blankBefore blankAfter, rest]

theorem Spaced.ne_nil_of_mem (spaced : Spaced chains line) :
    ∀ chain ∈ chains, chain ≠ [] := by
  induction spaced with
  | nothing => simp
  | alone token => simp
  | nested _ _ _ inductionHypothesis => simpa using inductionHypothesis
  | beside _ _ _ inductionHypothesis => simpa using inductionHypothesis

/-- Cutting a joined line gives the chains that were joined. -/
theorem chains_spaced (spaced : Spaced chains line)
    (areTokens : ∀ token ∈ chains.flatten, IsToken token)
    (separable : Separable chains.flatten) :
    Combinator.chains line = chains := by
  by_cases empty : chains = []
  · subst empty
    cases spaced
    rfl
  · rw [chains_eq_rows, rows_spaced spaced empty areTokens separable,
      List.filter_eq_self]
    intro chain member
    exact decide_eq_true (spaced.ne_nil_of_mem chain member)

end Spacing

end TerseMarkup.Combinator
