import TerseMarkup.Proofs.Source.Joining

/-!
# Splitting undoes joining

A token is neutral if a scan of it meets no combinator outside of quotes and
braces and ends where it started. Neutral tokens come out again of every line
that joins them, whatever blanks stand around the combinators. A part of a
line that was split is not split any further, at any separator: it holds none,
and taking blanks off its ends does not bring one out.
-/

namespace TerseMarkup.Combinator

open Enclosure

/-! ## Neutral tokens -/

/-- A token that no combinator around it changes. -/
structure IsNeutral (token : Line) : Prop extends IsToken token where
  whole : isWhole outermost token = true
  closed : outermost.run token = outermost

theorem isNeutral_iff {token : Line} :
    IsNeutral token ↔
      (token ≠ [] ∧ Text.trim token = token) ∧
        isWhole outermost token = true ∧
        outermost.run token = outermost := by
  constructor
  · rintro ⟨⟨nonempty, trimmed⟩, whole, closed⟩
    exact ⟨⟨nonempty, Text.trim_of_isTrimmed trimmed⟩, whole, closed⟩
  · rintro ⟨⟨nonempty, trimmed⟩, whole, closed⟩
    have isTrimmed := Text.isTrimmed_trim token
    rw [trimmed] at isTrimmed
    exact ⟨⟨nonempty, isTrimmed⟩, whole, closed⟩

instance (token : Line) : Decidable (IsNeutral token) :=
  decidable_of_iff _ isNeutral_iff.symm

theorem separable_of_isNeutral {tokens : List Line}
    (neutral : ∀ token ∈ tokens, IsNeutral token) : Separable tokens where
  whole := fun token member => (neutral token member).whole
  closed := fun token member =>
    (neutral token (List.dropLast_subset tokens member)).closed

/-! ## Parts of a line -/

section Parts

variable {delimiter : Char}

/-- The stretches between separators hold none themselves. -/
theorem isFree_cut (enclosure : Enclosure) (text : List Char) :
    isFree delimiter enclosure (cut delimiter enclosure text).1 = true ∧
      ∀ stretch ∈ (cut delimiter enclosure text).2,
        isFree delimiter outermost stretch = true := by
  induction text generalizing enclosure with
  | nil => exact ⟨rfl, fun _ member => absurd member List.not_mem_nil⟩
  | cons character rest inductionHypothesis =>
      obtain ⟨firstFree, othersFree⟩ :=
        inductionHypothesis (enclosure.step character)
      rw [cut_cons]
      by_cases separates : enclosure.separates delimiter character = true
      -- Behind a separator the scan stands as at the start of a line, so
      -- that the next stretch is free when it is scanned on its own.
      · rw [step_of_separates separates] at firstFree othersFree ⊢
        rw [if_pos separates]
        exact ⟨rfl, List.forall_mem_cons.mpr ⟨firstFree, othersFree⟩⟩
      · rw [if_neg separates]
        exact ⟨isFree_cons.mpr ⟨separates, firstFree⟩, othersFree⟩

/-- Blanks at the start of a text leave the scan where it is, so that the
trimmed text is scanned as it is in the whole. -/
theorem isFree_trim {text : List Char}
    (free : isFree delimiter outermost text = true) :
    isFree delimiter outermost (Text.trim text) = true := by
  obtain ⟨before, after, blankBefore, _, padded⟩ := Text.exists_trim text
  rw [padded, isFree_append, run_outermost_of_allBlank blankBefore,
    isFree_append] at free
  exact free.2.1

theorem split_of_isFree {part : Line} (isToken : IsToken part)
    (free : isFree delimiter outermost part = true) :
    split delimiter part = [part] := by
  have whole := cut_append_of_isFree [] free
  rw [List.append_nil, cut_nil, List.append_nil] at whole
  simp [split, whole, Text.trim_of_isTrimmed isToken.trimmed,
    isToken.nonempty]

theorem split_of_mem_split {line part : Line}
    (member : part ∈ split delimiter line) : split delimiter part = [part] := by
  have kept := List.mem_filter.mp member
  obtain ⟨stretch, isStretch, trimmed⟩ := List.mem_map.mp kept.1
  subst trimmed
  obtain ⟨firstFree, othersFree⟩ := @isFree_cut delimiter outermost line
  have free : ∀ other ∈
      (cut delimiter outermost line).1 :: (cut delimiter outermost line).2,
      isFree delimiter outermost other = true :=
    List.forall_mem_cons.mpr ⟨firstFree, othersFree⟩
  exact split_of_isFree
    ⟨of_decide_eq_true kept.2, Text.isTrimmed_trim stretch⟩
    (isFree_trim (free stretch isStretch))

end Parts

/-- Neutral tokens come out again of every line that joins them, and a part
that a line was split into is not split any further. -/
theorem splitting_undoes_joining :
    (∀ (joinedChains : List (List Line)) (line : Line),
        Spaced joinedChains line →
        (∀ chain ∈ joinedChains, ∀ token ∈ chain, IsNeutral token) →
        chains line = joinedChains) ∧
      ∀ (line : Line) (delimiter : Char), ∀ part ∈ split delimiter line,
        split delimiter part = [part] := by
  refine ⟨?_, fun line delimiter part member => split_of_mem_split member⟩
  intro joinedChains line spaced neutral
  have allNeutral : ∀ token ∈ joinedChains.flatten, IsNeutral token := by
    intro token member
    obtain ⟨chain, isChain, isToken⟩ := List.mem_flatten.mp member
    exact neutral chain isChain token isToken
  exact chains_spaced spaced
    (fun token member => (allNeutral token member).toIsToken)
    (separable_of_isNeutral allNeutral)

/-- Quotes, braces and a backslash keep a combinator inside of its token, and
a backslash is left alone where the blank behind it was taken off. -/
theorem splitting_undoes_joining_quoted :
    chains "ul \t> li[title='a > b']\x7b1 + 2\x7d+p\\+".toList =
        [["ul".toList, "li[title='a > b']\x7b1 + 2\x7d".toList],
          ["p\\+".toList]] ∧
      "a\\".toList ∈ split ' ' "a\\  b".toList ∧
      split ' ' "a\\".toList = ["a\\".toList] := by
  have blank : ∀ text : List Char,
      text.all Text.isBlank = true → Text.AllBlank text :=
    fun _ => List.all_eq_true.mp
  have shape : "ul \t> li[title='a > b']\x7b1 + 2\x7d+p\\+".toList =
      "ul".toList ++ ([' ', '\t'] ++ nesting :: ([' '] ++
        ("li[title='a > b']\x7b1 + 2\x7d".toList ++ ([] ++ sibling :: ([] ++
          "p\\+".toList))))) := by
    decide +kernel
  have spaced : Spaced
      [["ul".toList, "li[title='a > b']\x7b1 + 2\x7d".toList],
        ["p\\+".toList]]
      "ul \t> li[title='a > b']\x7b1 + 2\x7d+p\\+".toList := by
    rw [shape]
    exact Spaced.nested (blank _ (by decide)) (blank _ (by decide))
      (Spaced.beside (blank _ rfl) (blank _ rfl) (Spaced.alone _))
  obtain ⟨undone, stable⟩ := splitting_undoes_joining
  have part : "a\\".toList ∈ split ' ' "a\\  b".toList := by
    decide +kernel
  exact ⟨undone _ _ spaced (by decide +kernel), part, stable _ _ _ part⟩

end TerseMarkup.Combinator
