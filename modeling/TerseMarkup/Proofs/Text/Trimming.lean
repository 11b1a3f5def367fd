import Mathlib.Data.List.TakeWhile
import TerseMarkup.Text.Blank

/-!
# Trimming

A text is blanks, the trimmed text and blanks again, and blanks around a text
make no difference to its trimmed form. A text that neither starts nor ends
with a blank is its own trimmed form.
-/

namespace TerseMarkup.Text

def AllBlank (text : List Char) : Prop :=
  ∀ character ∈ text, isBlank character = true

structure IsTrimmed (text : List Char) : Prop where
  start : ∀ character ∈ text.head?, isBlank character = false
  stop : ∀ character ∈ text.getLast?, isBlank character = false

theorem trimStart_append {before text : List Char} (blank : AllBlank before) :
    trimStart (before ++ text) = trimStart text :=
  List.dropWhile_append_of_pos blank

theorem trimStart_of_start {text : List Char}
    (start : ∀ character ∈ text.head?, isBlank character = false) :
    trimStart text = text := by
  cases text with
  | nil => rfl
  | cons character rest =>
      exact List.dropWhile_cons_of_neg (by simp [start character rfl])

theorem trimEnd_append {text after : List Char} (blank : AllBlank after) :
    trimEnd (text ++ after) = trimEnd text := by
  have reversed : ∀ character ∈ after.reverse, isBlank character = true := by
    intro character member
    exact blank character (List.mem_reverse.mp member)
  rw [trimEnd, List.reverse_append, List.dropWhile_append_of_pos reversed,
    trimEnd]

theorem trimEnd_of_allBlank {text : List Char} (blank : AllBlank text) :
    trimEnd text = [] := by
  have nothing : trimEnd ([] ++ text) = trimEnd [] := trimEnd_append blank
  exact nothing

theorem trimEnd_of_stop {text : List Char}
    (stop : ∀ character ∈ text.getLast?, isBlank character = false) :
    trimEnd text = text := by
  have reversed : text.reverse.dropWhile isBlank = text.reverse := by
    apply trimStart_of_start
    rw [List.head?_reverse]
    exact stop
  rw [trimEnd, reversed, List.reverse_reverse]

theorem exists_trimStart (text : List Char) :
    ∃ before, AllBlank before ∧ text = before ++ trimStart text :=
  ⟨text.takeWhile isBlank, fun _ member => List.mem_takeWhile_imp member,
    List.takeWhile_append_dropWhile.symm⟩

theorem exists_trimEnd (text : List Char) :
    ∃ after, AllBlank after ∧ text = trimEnd text ++ after := by
  obtain ⟨before, blank, split⟩ := exists_trimStart text.reverse
  refine ⟨before.reverse, ?_, ?_⟩
  · intro character member
    exact blank character (List.mem_reverse.mp member)
  · have whole := congrArg List.reverse split
    rw [List.reverse_reverse, List.reverse_append] at whole
    exact whole

/-- A text is its trimmed form with blanks around it. -/
theorem exists_trim (text : List Char) :
    ∃ before after,
      AllBlank before ∧ AllBlank after ∧
        text = before ++ (trim text ++ after) := by
  obtain ⟨before, blankBefore, startSplit⟩ := exists_trimStart text
  obtain ⟨after, blankAfter, endSplit⟩ := exists_trimEnd (trimStart text)
  refine ⟨before, after, blankBefore, blankAfter, ?_⟩
  rw [trim, ← endSplit, ← startSplit]

theorem start_trimStart (text : List Char) :
    ∀ character ∈ (trimStart text).head?, isBlank character = false := by
  intro character member
  have stopped := List.head?_dropWhile_not isBlank text
  have first : (text.dropWhile isBlank).head? = some character := member
  rw [first] at stopped
  simpa using stopped

theorem stop_trimEnd (text : List Char) :
    ∀ character ∈ (trimEnd text).getLast?, isBlank character = false := by
  intro character member
  have first : (text.reverse.dropWhile isBlank).head? = some character := by
    rw [← List.getLast?_reverse]
    exact member
  exact start_trimStart text.reverse character first

theorem isTrimmed_trim (text : List Char) : IsTrimmed (trim text) where
  start := by
    intro character member
    obtain ⟨after, _, split⟩ := exists_trimEnd (trimStart text)
    have first : (trimStart text).head? = some character := by
      have trimmed : (trimEnd (trimStart text)).head? = some character :=
        member
      rw [split, List.head?_append, trimmed]
      rfl
    exact start_trimStart text character first
  stop := stop_trimEnd (trimStart text)

theorem trim_of_isTrimmed {text : List Char} (trimmed : IsTrimmed text) :
    trim text = text := by
  rw [trim, trimStart_of_start trimmed.start, trimEnd_of_stop trimmed.stop]

@[simp] theorem trim_trim (text : List Char) : trim (trim text) = trim text :=
  trim_of_isTrimmed (isTrimmed_trim text)

/-- Blanks around a text that is trimmed are what trimming removes. -/
theorem trim_of_padded {before text after : List Char}
    (blankBefore : AllBlank before) (blankAfter : AllBlank after)
    (trimmed : IsTrimmed text) :
    trim (before ++ (text ++ after)) = text := by
  by_cases empty : text = []
  · subst empty
    have whole : AllBlank (before ++ after) := by
      intro character member
      rcases List.mem_append.mp member with inBefore | inAfter
      · exact blankBefore character inBefore
      · exact blankAfter character inAfter
    have nothing : trimStart (before ++ after ++ []) = trimStart [] :=
      trimStart_append whole
    rw [List.append_nil] at nothing
    rw [trim, List.nil_append, nothing]
    rfl
  · have start : ∀ character ∈ (text ++ after).head?,
        isBlank character = false := by
      cases text with
      | nil => exact absurd rfl empty
      | cons first rest => exact trimmed.start
    rw [trim, trimStart_append blankBefore, trimStart_of_start start,
      trimEnd_append blankAfter, trimEnd_of_stop trimmed.stop]

theorem trim_append {before : List Char} (text : List Char)
    (blank : AllBlank before) : trim (before ++ text) = trim text := by
  rw [trim, trimStart_append blank, trim]

/-- It makes no difference which end is trimmed first. -/
theorem trim_eq_trimStart_trimEnd (text : List Char) :
    trim text = trimStart (trimEnd text) := by
  obtain ⟨before, after, blankBefore, blankAfter, split⟩ := exists_trim text
  have trimmed := isTrimmed_trim text
  have endTrimmed : trimEnd text = trimEnd (before ++ trim text) := calc
    trimEnd text = trimEnd (before ++ (trim text ++ after)) :=
      congrArg trimEnd split
    _ = trimEnd ((before ++ trim text) ++ after) := by
      rw [List.append_assoc]
    _ = trimEnd (before ++ trim text) := trimEnd_append blankAfter
  rw [endTrimmed]
  by_cases empty : trim text = []
  · rw [empty, List.append_nil, trimEnd_of_allBlank blankBefore]
    rfl
  · have stop : ∀ character ∈ (before ++ trim text).getLast?,
        isBlank character = false := by
      intro character member
      rw [List.getLast?_append] at member
      cases found : (trim text).getLast? with
      | none => exact absurd (List.getLast?_eq_none_iff.mp found) empty
      | some last =>
          rw [found] at member
          exact trimmed.stop character (found.trans member)
    rw [trimEnd_of_stop stop, trimStart_append blankBefore,
      trimStart_of_start trimmed.start]

theorem trimEnd_cons (character : Char) (text : List Char) :
    trimEnd (character :: text) = trimEnd (character :: trimEnd text) := by
  obtain ⟨after, blank, split⟩ := exists_trimEnd text
  calc
    trimEnd (character :: text) =
        trimEnd ((character :: trimEnd text) ++ after) := by
      rw [List.cons_append, ← split]
    _ = trimEnd (character :: trimEnd text) := trimEnd_append blank

/-- A character stays if it is not blank or if something stays behind it. -/
theorem trimEnd_cons_of_not_allBlank {character : Char} {text : List Char}
    (visible : ¬ AllBlank (character :: text)) :
    trimEnd (character :: text) = character :: trimEnd text := by
  rw [trimEnd_cons]
  apply trimEnd_of_stop
  intro last member
  cases shape : trimEnd text with
  | nil =>
      obtain ⟨after, blank, split⟩ := exists_trimEnd text
      rw [shape, List.nil_append] at split
      have isLast : character = last := by simpa [shape] using member
      rw [← isLast, ← Bool.not_eq_true]
      intro blankFirst
      apply visible
      rw [split]
      exact List.forall_mem_cons.mpr ⟨blankFirst, blank⟩
  | cons first kept =>
      rw [shape, List.getLast?_cons_cons, ← shape] at member
      exact stop_trimEnd text last member

theorem trimEnd_cons_of_visible {character : Char} (text : List Char)
    (visible : isBlank character = false) :
    trimEnd (character :: text) = character :: trimEnd text := by
  apply trimEnd_cons_of_not_allBlank
  intro blank
  rw [blank character List.mem_cons_self] at visible
  contradiction

theorem trim_append_blank (text : List Char) {after : List Char}
    (blank : AllBlank after) : trim (text ++ after) = trim text := by
  rw [trim_eq_trimStart_trimEnd, trimEnd_append blank,
    ← trim_eq_trimStart_trimEnd]

theorem IsTrimmed.append {first second : List Char} (gap : List Char)
    (firstTrimmed : IsTrimmed first) (secondTrimmed : IsTrimmed second)
    (firstVisible : first ≠ []) (secondVisible : second ≠ []) :
    IsTrimmed (first ++ (gap ++ second)) where
  start := by
    cases first with
    | nil => exact absurd rfl firstVisible
    | cons character rest => exact firstTrimmed.start
  stop := by
    intro character member
    cases last : second.getLast? with
    | none => exact absurd (List.getLast?_eq_none_iff.mp last) secondVisible
    | some final =>
        rw [List.getLast?_append, List.getLast?_append, last] at member
        exact secondTrimmed.stop character (last.trans member)

theorem trim_space_append {first second : List Char}
    (firstVisible : trim first ≠ []) (secondVisible : trim second ≠ []) :
    ∃ gap, gap ≠ [] ∧ AllBlank gap ∧
      trim (first ++ ' ' :: second) = trim first ++ (gap ++ trim second) := by
  obtain ⟨before, after, blankBefore, blankAfter, split⟩ := exists_trim first
  obtain ⟨start, ending, blankStart, blankEnding, laterSplit⟩ :=
    exists_trim second
  have blankGap : AllBlank (after ++ ' ' :: start) := by
    intro character member
    rcases List.mem_append.mp member with inAfter | inStart
    · exact blankAfter character inAfter
    · rcases List.mem_cons.mp inStart with rfl | inStart
      · decide
      · exact blankStart character inStart
  have whole : first ++ ' ' :: second =
      before ++
        ((trim first ++ ((after ++ ' ' :: start) ++ trim second)) ++
          ending) := calc
    first ++ ' ' :: second =
        (before ++ (trim first ++ after)) ++
          ' ' :: (start ++ (trim second ++ ending)) := by
      rw [← split, ← laterSplit]
    _ = _ := by simp only [List.append_assoc, List.cons_append]
  refine ⟨after ++ ' ' :: start, by simp, blankGap, ?_⟩
  rw [whole]
  exact trim_of_padded blankBefore blankEnding
    ((isTrimmed_trim first).append _ (isTrimmed_trim second) firstVisible
      secondVisible)

/-- A text that does not start with a blank keeps its first character. -/
theorem exists_trim_cons {character : Char} (rest : List Char)
    (visible : isBlank character = false) :
    ∃ kept, trim (character :: rest) = character :: kept := by
  have start : trimStart (character :: rest) = character :: rest :=
    List.dropWhile_cons_of_neg (by simp [visible])
  obtain ⟨after, blank, split⟩ := exists_trimEnd (character :: rest)
  rw [trim, start]
  cases shape : trimEnd (character :: rest) with
  | nil =>
      rw [shape, List.nil_append] at split
      have blankFirst := blank character (by
        rw [← split]
        exact List.mem_cons_self)
      rw [visible] at blankFirst
      contradiction
  | cons first kept =>
      rw [shape, List.cons_append] at split
      rw [(List.cons.inj split).1]
      exact ⟨kept, rfl⟩

end TerseMarkup.Text
