import TerseMarkup.Proofs.Element.Boundary
import TerseMarkup.Proofs.Source.Joining

/-!
# Separating elements

The texts of elements are joined by combinators into a line. The tokens that
are cut off the line are elements again only if the elements are separable,
and then they are the elements that were joined.
-/

namespace TerseMarkup.Combinator

open Enclosure

theorem isToken_of_ends {first : Char} {rest : List Char}
    (nameChar : Token.isNameChar first = true)
    (endsWell : Element.EndsWell (first :: rest)) :
    IsToken (first :: rest) := by
  refine ⟨List.cons_ne_nil first rest, ?_, ?_⟩
  · intro character member
    rw [← Option.mem_some.mp member]
    exact Element.not_isBlank_of_isNameChar nameChar
  · intro character member
    exact Element.not_isBlank_of_isEnding
      (endsWell.isEnding_of_mem character member)

theorem isToken_of_read? {token : Line}
    (isElement : (Element.read? token).isSome = true) : IsToken token := by
  have endsWell := Element.endsWell_of_read? isElement
  obtain ⟨first, rest, rfl, nameChar⟩ := Element.exists_first isElement
  exact isToken_of_ends nameChar endsWell

theorem run_of_padded {token after : List Char}
    (endsWell : Element.EndsWell token) (blank : Text.AllBlank after)
    (closed : outermost.run (token ++ after) = outermost) :
    outermost.run token = outermost := by
  obtain ⟨initial, character, rfl, ending⟩ := endsWell
  have unescaped :
      (outermost.run (initial ++ [character])).quoting.escaped = false := by
    rw [run_append]
    apply Quoting.escaped_step
    rintro rfl
    exact absurd ending (by decide)
  have marked :
      (outermost.run (initial ++ [character])).quoting.IsMarked := by
    rw [quoting_run]
    exact Quoting.isMarked_outside.run _
  rw [run_append, run_of_allBlank unescaped marked blank] at closed
  exact closed

theorem isForeign_of_blank_append {after rest : List Char}
    (blank : Text.AllBlank after)
    (foreign : ∀ character ∈ rest.head?, Element.isForeign character = true) :
    ∀ character ∈ (after ++ rest).head?,
      Element.isForeign character = true := by
  intro character member
  cases after with
  | nil => exact foreign character member
  | cons first others =>
      rw [← Option.mem_some.mp member]
      simp [Element.isForeign, blank first List.mem_cons_self]

/-- The first stretch is up to a foreign character where nothing is open, or
up to the end. -/
theorem scan_first_isForeign (text : List Char) :
    ∃ rest,
      text = (scan outermost text).1.1 ++ rest ∧
        (∀ character ∈ rest.head?, Element.isForeign character = true) ∧
        (rest = [] ∨ outermost.run (scan outermost text).1.1 = outermost) := by
  obtain ⟨_, toEnd | ⟨operator, rest, split, closed, isOperator⟩⟩ :=
    scan_first outermost text
  · refine ⟨[], ?_, ?_, Or.inl rfl⟩
    · rw [toEnd, List.append_nil]
    · intro character member
      contradiction
  · refine ⟨operator :: rest, split, ?_, Or.inr closed⟩
    intro character member
    rw [← Option.mem_some.mp member]
    rcases isOperator with rfl | rfl
    · decide
    · decide

theorem trim_scan_mem {character : Char} {rest : List Char}
    (nameChar : Token.isNameChar character = true) :
    ∃ after,
      Text.AllBlank after ∧
        (scan outermost (character :: rest)).1.1 =
          Text.trim (scan outermost (character :: rest)).1.1 ++ after ∧
        Text.trim (scan outermost (character :: rest)).1.1 ∈
          tokens (scan outermost (character :: rest)).1 := by
  have notBlank := Element.not_isBlank_of_isNameChar nameChar
  have apart : ∀ operator, Token.isNameChar operator = false →
      ¬ outermost.separates operator character = true := by
    intro operator notNameChar separates
    obtain ⟨_, rfl, _⟩ := (separates_iff _ _ _).mp separates
    rw [nameChar] at notNameChar
    contradiction
  obtain ⟨others, starts⟩ : ∃ others,
      (scan outermost (character :: rest)).1.1 = character :: others := by
    rw [scan_cons, if_neg (apart sibling (by decide)),
      if_neg (apart nesting (by decide))]
    exact ⟨_, rfl⟩
  have trimmed :
      Text.trim (character :: others) = Text.trimEnd (character :: others) := by
    have unchanged :
        Text.trimStart (character :: others) = character :: others := by
      apply Text.trimStart_of_start
      intro first member
      rw [← Option.mem_some.mp member]
      exact notBlank
    rw [Text.trim, unchanged]
  obtain ⟨after, blank, split⟩ := Text.exists_trimEnd (character :: others)
  rw [starts]
  refine ⟨after, blank, ?_, ?_⟩
  · rw [trimmed]
    exact split
  · rw [tokens, List.mem_filter, starts]
    refine ⟨List.mem_cons_self, ?_⟩
    have nonempty : Text.trim (character :: others) ≠ [] := by
      rw [trimmed]
      intro empty
      rw [empty, List.nil_append] at split
      have isBlank := blank character (by rw [← split]; exact List.mem_cons_self)
      rw [notBlank] at isBlank
      contradiction
    simpa using nonempty

/-- If the first token that is cut off a text is an element, and an element
stands at the start of the text, then it is this element: the scan finds no
combinator inside of it, and nothing is open behind it if anything follows. -/
theorem first_isWhole {token tail : List Char}
    (isElement : (Element.read? token).isSome = true)
    (foreign : ∀ character ∈ tail.head?, Element.isForeign character = true)
    (readBack : ∀ text ∈ tokens (scan outermost (token ++ tail)).1,
      (Element.read? text).isSome = true) :
    isWhole outermost token = true ∧
      (Text.AllBlank tail ∨ outermost.run token = outermost) := by
  obtain ⟨character, others, starts, nameChar⟩ :=
    Element.exists_first isElement
  obtain ⟨after, blank, padded, member⟩ :
      ∃ after, Text.AllBlank after ∧
        (scan outermost (token ++ tail)).1.1 =
          Text.trim (scan outermost (token ++ tail)).1.1 ++ after ∧
        Text.trim (scan outermost (token ++ tail)).1.1 ∈
          tokens (scan outermost (token ++ tail)).1 := by
    rw [starts, List.cons_append]
    exact trim_scan_mem nameChar
  obtain ⟨rest, split, restForeign, endOrClosed⟩ :=
    scan_first_isForeign (token ++ tail)
  have whole := (scan_first outermost (token ++ tail)).1
  -- The element and the first token both stand at the start of the text, with
  -- nothing or something foreign behind them.
  rw [padded, List.append_assoc] at split
  have same : token = Text.trim (scan outermost (token ++ tail)).1.1 :=
    Element.eq_of_append_eq isElement (readBack _ member) foreign
      (isForeign_of_blank_append blank restForeign) split
  rw [← same] at padded split
  rw [padded] at whole endOrClosed
  refine ⟨(isWhole_append.mp whole).1, ?_⟩
  rcases endOrClosed with rfl | closed
  · rw [List.append_nil] at split
    rw [List.append_cancel_left split]
    exact Or.inl blank
  · exact Or.inr
      (run_of_padded (Element.endsWell_of_read? isElement) blank closed)

/-- What is cut off a line behind an element and a combinator is cut off the
rest of the line as well. -/
theorem separable_step {token rest : List Char} {operator : Char}
    (isOperator : operator = sibling ∨ operator = nesting)
    (isElement : (Element.read? token).isSome = true)
    (readBack : ∀ text ∈
        (rows (scan outermost
          (token ++ ' ' :: operator :: ' ' :: rest))).flatten,
      (Element.read? text).isSome = true) :
    isWhole outermost token = true ∧ outermost.run token = outermost ∧
      ∀ text ∈ (rows (scan outermost rest)).flatten,
        (Element.read? text).isSome = true := by
  have notBlank : Text.isBlank operator = false := by
    rcases isOperator with rfl | rfl
    · decide
    · decide
  have foreign : ∀ character ∈ (' ' :: operator :: ' ' :: rest).head?,
      Element.isForeign character = true := by
    intro character member
    rw [← Option.mem_some.mp member]
    decide
  obtain ⟨whole, blankOrClosed⟩ := first_isWhole isElement foreign
    fun text member =>
      readBack text (List.mem_flatten_of_mem List.mem_cons_self member)
  have closed : outermost.run token = outermost := by
    rcases blankOrClosed with blank | closed
    · rw [blank operator (by simp)] at notBlank
      contradiction
    · exact closed
  refine ⟨whole, closed, ?_⟩
  intro text member
  apply readBack
  change text ∈ (rows (scan outermost
    (token ++ ([' '] ++ operator :: ([' '] ++ rest))))).flatten
  have isToken := isToken_of_read? isElement
  rcases isOperator with rfl | rfl
  · rw [rows_sibling isToken whole closed allBlank_space allBlank_space]
    exact List.mem_cons_of_mem token member
  · rw [rows_nesting isToken whole closed allBlank_space allBlank_space]
    exact List.mem_cons_of_mem token member

/-- Cutting a joined line gives elements only if the elements that were joined
can be separated. -/
theorem separable_of_read? {chains : List (List Line)}
    (joinable : Joinable chains)
    (elements : ∀ token ∈ chains.flatten,
      (Element.read? token).isSome = true)
    (readBack : ∀ text ∈ (rows (scan outermost (joined chains))).flatten,
      (Element.read? text).isSome = true) :
    Separable chains.flatten := by
  induction joinable with
  | alone token =>
      have nothing : ∀ character ∈ ([] : List Char).head?,
          Element.isForeign character = true := by
        intro character member
        contradiction
      have firstRead : ∀ text ∈ tokens (scan outermost (token ++ [])).1,
          (Element.read? text).isSome = true := by
        intro text member
        rw [List.append_nil, ← joined_alone token] at member
        exact readBack text
          (List.mem_flatten_of_mem List.mem_cons_self member)
      exact separable_alone.mpr
        (first_isWhole (elements token List.mem_cons_self) nothing firstRead).1
  | nested token next others chains _ inductionHypothesis =>
      rw [joined_nesting] at readBack
      obtain ⟨whole, closed, later⟩ := separable_step (Or.inr rfl)
        (elements token List.mem_cons_self) readBack
      exact separable_cons.mpr ⟨whole, closed, inductionHypothesis
        (fun other member =>
          elements other (List.mem_cons_of_mem token member)) later⟩
  | beside token next others chains _ inductionHypothesis =>
      rw [joined_sibling] at readBack
      obtain ⟨whole, closed, later⟩ := separable_step (Or.inl rfl)
        (elements token List.mem_cons_self) readBack
      exact separable_cons.mpr ⟨whole, closed, inductionHypothesis
        (fun other member =>
          elements other (List.mem_cons_of_mem token member)) later⟩

end TerseMarkup.Combinator
