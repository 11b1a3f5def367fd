import TerseMarkup.Proofs.Text.Trimming
import TerseMarkup.Source.Combinator

/-!
# Chains and tokens in one pass

Cutting a line at `+` and then each part at `>` starts the scan for quotes and
braces again in every part. As a separator only stands where nothing is open,
one scan over the whole line finds the same tokens.
-/

namespace TerseMarkup

/-! ## Where a scan stands -/

namespace Quoting

theorem isOutside_iff (quoting : Quoting) :
    quoting.isOutside = true ↔ quoting = outside := by
  obtain ⟨mark, escaped⟩ := quoting
  cases mark <;> cases escaped <;> simp [isOutside, outside]

/-- Only marks open quotes. -/
def IsMarked (quoting : Quoting) : Prop :=
  ∀ mark ∈ quoting.mark, isMark mark = true

theorem IsMarked.step {quoting : Quoting} (marked : quoting.IsMarked)
    (character : Char) : (quoting.step character).IsMarked := by
  unfold Quoting.step
  split
  · exact marked
  split
  · exact marked
  split
  · split
    · rename_i isMark
      intro mark member
      rw [← Option.mem_some.mp member]
      exact isMark
    · exact marked
  · split
    · intro mark member
      contradiction
    · exact marked

theorem IsMarked.run {quoting : Quoting} (marked : quoting.IsMarked)
    (text : List Char) : (quoting.run text).IsMarked := by
  induction text generalizing quoting with
  | nil => exact marked
  | cons character rest inductionHypothesis =>
      exact inductionHypothesis (marked.step character)

theorem isMarked_outside : outside.IsMarked := by
  intro mark member
  contradiction

theorem escaped_step {quoting : Quoting} {character : Char}
    (notBackslash : character ≠ '\\') :
    (quoting.step character).escaped = false := by
  rw [step, if_neg notBackslash]
  split
  · rfl
  · rename_i unescaped
    split <;> split <;> simpa using unescaped

end Quoting

namespace Enclosure

@[simp] theorem run_nil (enclosure : Enclosure) :
    enclosure.run [] = enclosure := rfl

@[simp] theorem run_cons
    (enclosure : Enclosure) (character : Char) (text : List Char) :
    enclosure.run (character :: text) =
      (enclosure.step character).run text := rfl

theorem run_append (enclosure : Enclosure) (first second : List Char) :
    enclosure.run (first ++ second) = (enclosure.run first).run second := by
  simp [run]

/-- Something separates only where nothing is open. -/
theorem separates_iff (enclosure : Enclosure) (delimiter character : Char) :
    enclosure.separates delimiter character = true ↔
      enclosure = outermost ∧ character = delimiter ∧
        isReserved character = false := by
  obtain ⟨quoting, depth⟩ := enclosure
  simp only [separates, Bool.and_eq_true, Quoting.isOutside_iff, beq_iff_eq,
    Bool.not_eq_true', outermost, Enclosure.mk.injEq, Quoting.outside,
    and_assoc]

theorem quoting_run (enclosure : Enclosure) (text : List Char) :
    (enclosure.run text).quoting = enclosure.quoting.run text := by
  induction text generalizing enclosure with
  | nil => rfl
  | cons character rest inductionHypothesis =>
      exact inductionHypothesis (enclosure.step character)

/-- A character without a meaning of its own leaves the scan where it is. -/
theorem step_of_not_isReserved {enclosure : Enclosure} {character : Char}
    (unescaped : enclosure.quoting.escaped = false)
    (marked : enclosure.quoting.IsMarked)
    (plain : isReserved character = false) :
    enclosure.step character = enclosure := by
  simp only [isReserved, Bool.or_eq_false_iff, beq_eq_false_iff_ne]
    at plain
  obtain ⟨⟨⟨notBackslash, notMark⟩, notOpening⟩, notClosing⟩ := plain
  have sameQuoting :
      enclosure.quoting.step character = enclosure.quoting := by
    simp only [Quoting.step, unescaped, if_neg Bool.false_ne_true,
      if_neg notBackslash, notMark]
    cases opened : enclosure.quoting.mark with
    | none => rfl
    | some mark =>
        have other : character ≠ mark := by
          rintro rfl
          rw [marked character opened] at notMark
          contradiction
        exact if_neg other
  simp only [step, sameQuoting, if_neg notOpening, if_neg notClosing,
    ite_self]

theorem step_outermost {character : Char}
    (plain : isReserved character = false) :
    outermost.step character = outermost :=
  step_of_not_isReserved rfl Quoting.isMarked_outside plain

theorem not_isReserved_of_isBlank {character : Char}
    (blank : Text.isBlank character = true) :
    isReserved character = false := by
  by_contra reserved
  simp only [isReserved, Quoting.isMark, Bool.not_eq_false, Bool.or_eq_true,
    beq_iff_eq] at reserved
  rcases reserved with ((rfl | rfl | rfl) | rfl) | rfl
  · exact absurd blank (by decide)
  · exact absurd blank (by decide)
  · exact absurd blank (by decide)
  · exact absurd blank (by decide)
  · exact absurd blank (by decide)

theorem run_of_allBlank {enclosure : Enclosure} {text : List Char}
    (unescaped : enclosure.quoting.escaped = false)
    (marked : enclosure.quoting.IsMarked) (blank : Text.AllBlank text) :
    enclosure.run text = enclosure := by
  induction text with
  | nil => rfl
  | cons character rest inductionHypothesis =>
      have first := blank character List.mem_cons_self
      rw [run_cons, step_of_not_isReserved unescaped marked
        (not_isReserved_of_isBlank first)]
      exact inductionHypothesis fun other member =>
        blank other (List.mem_cons_of_mem character member)

theorem run_outermost_of_allBlank {text : List Char}
    (blank : Text.AllBlank text) : outermost.run text = outermost :=
  run_of_allBlank rfl Quoting.isMarked_outside blank

end Enclosure

namespace Combinator

open Enclosure

/-! ## Stretches without a separator -/

/-- Nothing in the text separates, where a scan of it starts at
`enclosure`. -/
def isFree (delimiter : Char) (enclosure : Enclosure) : List Char → Bool
  | [] => true
  | character :: rest =>
      !enclosure.separates delimiter character &&
        isFree delimiter (enclosure.step character) rest

section Cutting

variable {delimiter : Char} {enclosure : Enclosure}

theorem isFree_cons {character : Char} {rest : List Char} :
    isFree delimiter enclosure (character :: rest) = true ↔
      ¬ enclosure.separates delimiter character = true ∧
        isFree delimiter (enclosure.step character) rest = true := by
  rw [isFree, Bool.and_eq_true, Bool.not_eq_true', Bool.not_eq_true]

theorem isFree_append {first second : List Char} :
    isFree delimiter enclosure (first ++ second) = true ↔
      isFree delimiter enclosure first = true ∧
        isFree delimiter (enclosure.run first) second = true := by
  induction first generalizing enclosure with
  | nil => simp [isFree]
  | cons character others inductionHypothesis =>
      rw [List.cons_append, isFree_cons, inductionHypothesis, isFree_cons,
        run_cons, and_assoc]

theorem cut_append_of_isFree {text : List Char} (rest : List Char)
    (free : isFree delimiter enclosure text = true) :
    cut delimiter enclosure (text ++ rest) =
      (text ++ (cut delimiter (enclosure.run text) rest).1,
        (cut delimiter (enclosure.run text) rest).2) := by
  induction text generalizing enclosure with
  | nil => rfl
  | cons character others inductionHypothesis =>
      obtain ⟨inside, othersFree⟩ := isFree_cons.mp free
      rw [List.cons_append, cut_cons, if_neg inside,
        inductionHypothesis othersFree]
      rfl

theorem isFree_of_allBlank {text : List Char}
    (notBlank : Text.isBlank delimiter = false)
    (blank : Text.AllBlank text) :
    isFree delimiter enclosure text = true := by
  induction text generalizing enclosure with
  | nil => rfl
  | cons character rest inductionHypothesis =>
      rw [isFree_cons]
      constructor
      · intro separates
        obtain ⟨_, rfl, _⟩ := (separates_iff _ _ _).mp separates
        rw [blank character List.mem_cons_self] at notBlank
        contradiction
      · exact inductionHypothesis fun other member =>
          blank other (List.mem_cons_of_mem character member)

/-- Blanks at the end of a text only make its last stretch longer. -/
theorem trimEnd_cut_append {after : List Char} (text : List Char)
    (notBlank : Text.isBlank delimiter = false)
    (blank : Text.AllBlank after) :
    Text.trimEnd (cut delimiter enclosure (text ++ after)).1 =
        Text.trimEnd (cut delimiter enclosure text).1 ∧
      (cut delimiter enclosure (text ++ after)).2.map Text.trimEnd =
        (cut delimiter enclosure text).2.map Text.trimEnd := by
  induction text generalizing enclosure with
  | nil =>
      have free : isFree delimiter enclosure after = true :=
        isFree_of_allBlank notBlank blank
      have whole := cut_append_of_isFree [] free
      have nothing : Text.trimEnd ([] ++ after) = Text.trimEnd [] :=
        Text.trimEnd_append blank
      rw [cut_nil, List.append_nil] at whole
      rw [List.nil_append, whole]
      exact ⟨nothing, rfl⟩
  | cons character rest inductionHypothesis =>
      obtain ⟨sameFirst, sameOthers⟩ :=
        @inductionHypothesis (enclosure.step character)
      rw [List.cons_append, cut_cons, cut_cons]
      by_cases separates : enclosure.separates delimiter character = true
      · rw [if_pos separates, if_pos separates]
        refine ⟨rfl, ?_⟩
        rw [List.map_cons, List.map_cons, sameFirst, sameOthers]
      · rw [if_neg separates, if_neg separates]
        refine ⟨?_, sameOthers⟩
        dsimp only
        rw [Text.trimEnd_cons, sameFirst, ← Text.trimEnd_cons]

/-- Blanks around a line make no difference to its parts. -/
theorem split_trim (notBlank : Text.isBlank delimiter = false) (line : Line) :
    split delimiter (Text.trim line) = split delimiter line := by
  obtain ⟨before, after, blankBefore, blankAfter, padded⟩ :=
    Text.exists_trim line
  obtain ⟨sameFirst, sameOthers⟩ :=
    @trimEnd_cut_append delimiter outermost after (Text.trim line) notBlank
      blankAfter
  have free : isFree delimiter outermost before = true :=
    isFree_of_allBlank notBlank blankBefore
  have padding := cut_append_of_isFree (Text.trim line ++ after) free
  rw [run_outermost_of_allBlank blankBefore, ← padded] at padding
  have trimmedFirst :
      Text.trim (cut delimiter outermost line).1 =
        Text.trim (cut delimiter outermost (Text.trim line)).1 := by
    rw [padding, Text.trim_append _ blankBefore,
      Text.trim_eq_trimStart_trimEnd, sameFirst,
      ← Text.trim_eq_trimStart_trimEnd]
  have trimmedOthers :
      (cut delimiter outermost line).2.map Text.trim =
        (cut delimiter outermost (Text.trim line)).2.map Text.trim := by
    have twice : ∀ parts : List Line,
        parts.map Text.trim =
          (parts.map Text.trimEnd).map Text.trimStart := by
      intro parts
      rw [List.map_map]
      exact List.map_congr_left fun part _ =>
        Text.trim_eq_trimStart_trimEnd part
    rw [padding, twice, twice, sameOthers]
  simp only [split, List.map_cons, trimmedFirst, trimmedOthers]

end Cutting

/-! ## One pass -/

abbrev Stretches := List Char × List (List Char)

/-- The stretches of all chains of a text, found in one pass: those of the
first chain and those of the others. -/
def scan (enclosure : Enclosure) : List Char → Stretches × List Stretches
  | [] => (([], []), [])
  | character :: rest =>
      let ((first, others), chains) := scan (enclosure.step character) rest
      if enclosure.separates sibling character then
        (([], []), (first, others) :: chains)
      else if enclosure.separates nesting character then
        (([], first :: others), chains)
      else ((character :: first, others), chains)

/-- The tokens of a chain: its stretches without blanks around them and
without empty ones. -/
def tokens (stretches : Stretches) : List Line :=
  ((stretches.1 :: stretches.2).map Text.trim).filter (· ≠ [])

def rows (scanned : Stretches × List Stretches) : List (List Line) :=
  (scanned.1 :: scanned.2).map tokens

theorem scan_cons (enclosure : Enclosure) (character : Char)
    (rest : List Char) :
    scan enclosure (character :: rest) =
      if enclosure.separates sibling character then
        (([], []), (scan (enclosure.step character) rest).1 ::
          (scan (enclosure.step character) rest).2)
      else if enclosure.separates nesting character then
        (([], (scan (enclosure.step character) rest).1.1 ::
          (scan (enclosure.step character) rest).1.2),
          (scan (enclosure.step character) rest).2)
      else
        ((character :: (scan (enclosure.step character) rest).1.1,
          (scan (enclosure.step character) rest).1.2),
          (scan (enclosure.step character) rest).2) := rfl

theorem step_of_separates {enclosure : Enclosure}
    {delimiter character : Char}
    (separates : enclosure.separates delimiter character = true) :
    enclosure.step character = outermost := by
  obtain ⟨rfl, _, plain⟩ := (separates_iff _ _ _).mp separates
  exact step_outermost plain

/-- Cutting at `+` and then at `>` gives the stretches of the one pass. -/
theorem scan_eq_cut (enclosure : Enclosure) (text : List Char) :
    scan enclosure text =
      (cut nesting enclosure (cut sibling enclosure text).1,
        (cut sibling enclosure text).2.map (cut nesting outermost)) := by
  induction text generalizing enclosure with
  | nil => rfl
  | cons character rest inductionHypothesis =>
      rw [scan_cons, inductionHypothesis, cut_cons]
      by_cases separatesChains :
          enclosure.separates sibling character = true
      · rw [if_pos separatesChains, if_pos separatesChains,
          step_of_separates separatesChains]
        rfl
      · rw [if_neg separatesChains, if_neg separatesChains]
        dsimp only
        rw [cut_cons]
        by_cases separatesTokens :
            enclosure.separates nesting character = true
        · rw [if_pos separatesTokens, if_pos separatesTokens]
        · rw [if_neg separatesTokens, if_neg separatesTokens]

/-- The chains of a line are found in one pass. -/
theorem chains_eq_rows (line : Line) :
    chains line = (rows (scan outermost line)).filter (· ≠ []) := by
  -- A part that is blank is dropped before it is cut further. In one pass it
  -- gives a row without tokens, which is dropped in the end.
  have trimmed : ∀ parts : List Line,
      (((parts.map Text.trim).filter (· ≠ [])).map (split nesting)).filter
          (· ≠ []) =
        (parts.map (split nesting)).filter (· ≠ []) := by
    intro parts
    induction parts with
    | nil => rfl
    | cons part rest inductionHypothesis =>
        have samePart : split nesting (Text.trim part) = split nesting part :=
          split_trim (by decide) part
        rw [List.map_cons, List.map_cons]
        by_cases empty : Text.trim part = []
        · have nothing : split nesting part = [] := by
            rw [← samePart, empty]
            rfl
          rw [List.filter_cons_of_neg (by simp [empty]), nothing,
            List.filter_cons_of_neg (by simp), inductionHypothesis]
        · rw [List.filter_cons_of_pos (by simpa using empty), List.map_cons,
            samePart, List.filter_cons, List.filter_cons,
            inductionHypothesis]
  have rowsOfParts :
      rows (scan outermost line) =
        ((cut sibling outermost line).1 ::
          (cut sibling outermost line).2).map (split nesting) := by
    rw [scan_eq_cut]
    simp only [rows, List.map_cons, List.map_map]
    rfl
  rw [rowsOfParts, ← trimmed]
  rfl

end Combinator

end TerseMarkup
