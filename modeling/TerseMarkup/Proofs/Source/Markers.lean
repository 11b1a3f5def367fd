import Mathlib.Data.Nat.Find
import TerseMarkup.Proofs.Source.Calls
import TerseMarkup.Proofs.Source.OnePass
import TerseMarkup.Proofs.Source.TrailingComment

/-!
# Where the comment of a line starts

What escapes and quotes a character is said here by places in the line, without
a scan. The scan for comments stops at the first place of a marker, so that it
keeps the longest start of the line that has none. Neither blanks around a line
nor a comment that is gone already make a difference to what is kept.
-/

namespace TerseMarkup

namespace Line

/-- A backslash that is not escaped itself stands before the place. -/
def IsEscaped (text : Line) : Nat → Prop
  | 0 => False
  | place + 1 => text[place]? = some '\\' ∧ ¬ text.IsEscaped place

/-- The place is inside of a quote: an unescaped mark that stands outside of
quotes opens it, and no unescaped mark of the same kind comes in between. -/
def IsQuotedBy (text : Line) (place : Nat) (mark : Char) : Prop :=
  (mark = '"' ∨ mark = '\'') ∧
    ∃ opening, ∃ _ : opening < place,
      text[opening]? = some mark ∧ ¬ text.IsEscaped opening ∧
        (∀ other, ¬ text.IsQuotedBy opening other) ∧
        ∀ between, opening < between → between < place →
          text[between]? = some mark → text.IsEscaped between
termination_by place

/-- A comment starts at the place: a `#` that is neither escaped nor quoted
and that comes first in the line or right after a blank. -/
structure IsMarker (text : Line) (place : Nat) : Prop where
  hash : text[place]? = some '#'
  unescaped : ¬ text.IsEscaped place
  unquoted : ∀ mark, ¬ text.IsQuotedBy place mark
  separate :
    place = 0 ∨ ∃ blank ∈ text[place - 1]?, Text.isBlank blank = true

/-! ## Places and the scan for quotes -/

theorem isQuotedBy_succ {text : Line} {place : Nat} {mark : Char} :
    text.IsQuotedBy (place + 1) mark ↔
      text.IsQuotedBy place mark ∧
          (text[place]? = some mark → text.IsEscaped place) ∨
        (mark = '"' ∨ mark = '\'') ∧ text[place]? = some mark ∧
          ¬ text.IsEscaped place ∧ ∀ other, ¬ text.IsQuotedBy place other := by
  constructor
  · intro quoted
    rw [IsQuotedBy] at quoted
    obtain ⟨isMark, opening, before, found, unescaped, outside, unclosed⟩ :=
      quoted
    by_cases last : opening = place
    · subst last
      exact Or.inr ⟨isMark, found, unescaped, outside⟩
    · have earlier : opening < place := by omega
      refine Or.inl ⟨?_, unclosed place earlier (Nat.lt_succ_self place)⟩
      rw [IsQuotedBy]
      refine ⟨isMark, opening, earlier, found, unescaped, outside, ?_⟩
      intro between after inside
      exact unclosed between after (Nat.lt_succ_of_lt inside)
  · rintro (⟨quoted, unclosedHere⟩ | ⟨isMark, found, unescaped, outside⟩)
    · rw [IsQuotedBy] at quoted
      obtain ⟨isMark, opening, before, found, unescaped, outside, unclosed⟩ :=
        quoted
      rw [IsQuotedBy]
      refine ⟨isMark, opening, Nat.lt_succ_of_lt before, found, unescaped,
        outside, ?_⟩
      intro between after inside sameMark
      by_cases last : between = place
      · rw [last] at sameMark ⊢
        exact unclosedHere sameMark
      · exact unclosed between after (by omega) sameMark
    · rw [IsQuotedBy]
      refine ⟨isMark, place, Nat.lt_succ_self place, found, unescaped,
        outside, ?_⟩
      intro between after inside
      omega

end Line

namespace Quoting

theorem escaped_step_iff (quoting : Quoting) (character : Char) :
    (quoting.step character).escaped = true ↔
      character = '\\' ∧ ¬ quoting.escaped = true := by
  by_cases escaped : quoting.escaped = true
  · simp [step, escaped]
  · by_cases backslash : character = '\\'
    · simp [step, escaped, backslash]
    · simp [escaped_step backslash, backslash]

theorem mark_eq_none_iff {quoting : Quoting} {isOpen : Char → Prop}
    (opened : ∀ mark, quoting.mark = some mark ↔ isOpen mark) :
    quoting.mark = none ↔ ∀ mark, ¬ isOpen mark := by
  rw [Option.eq_none_iff_forall_ne_some]
  exact forall_congr' fun mark => not_congr (opened mark)

/-- A quote stays open up to an unescaped mark of its kind, and an unescaped
mark outside of quotes opens one. -/
theorem mark_step_iff {quoting : Quoting} (marked : quoting.IsMarked)
    (character mark : Char) :
    (quoting.step character).mark = some mark ↔
      quoting.mark = some mark ∧
          (character = mark → quoting.escaped = true) ∨
        isMark mark = true ∧ character = mark ∧ ¬ quoting.escaped = true ∧
          quoting.mark = none := by
  obtain ⟨opened, escaped⟩ := quoting
  cases escaped with
  | true => simp [step]
  | false =>
      cases opened with
      | none => grind [step, isMark]
      | some other =>
          -- The open mark is no backslash, which leaves every quote as it is.
          have otherMark : isMark other = true := marked other rfl
          grind [step, isMark]

end Quoting

namespace Line

theorem run_take_succ {text : Line} {place : Nat} {character : Char}
    (found : text[place]? = some character) :
    Quoting.outside.run (text.take (place + 1)) =
      (Quoting.outside.run (text.take place)).step character := by
  rw [List.take_add_one, found, Quoting.run_append]
  rfl

theorem escaped_run_take {text : Line} {place : Nat}
    (inside : place ≤ text.length) :
    (Quoting.outside.run (text.take place)).escaped = true ↔
      text.IsEscaped place := by
  induction place with
  | zero => simp [IsEscaped, Quoting.outside]
  | succ place inductionHypothesis =>
      have found : text[place]? = some text[place] :=
        List.getElem?_eq_getElem inside
      rw [run_take_succ found, Quoting.escaped_step_iff, IsEscaped,
        inductionHypothesis (Nat.le_of_succ_le inside), found,
        Option.some.injEq]

theorem mark_run_take {text : Line} {place : Nat}
    (inside : place ≤ text.length) (mark : Char) :
    (Quoting.outside.run (text.take place)).mark = some mark ↔
      text.IsQuotedBy place mark := by
  induction place generalizing mark with
  | zero =>
      rw [IsQuotedBy]
      simp [Quoting.outside]
  | succ place inductionHypothesis =>
      have found : text[place]? = some text[place] :=
        List.getElem?_eq_getElem inside
      have placeInside := Nat.le_of_succ_le inside
      have marked := Quoting.isMarked_outside.run (text.take place)
      have unquoted :=
        Quoting.mark_eq_none_iff (inductionHypothesis placeInside)
      rw [run_take_succ found, Quoting.mark_step_iff marked, isQuotedBy_succ,
        inductionHypothesis placeInside, escaped_run_take placeInside,
        unquoted, found, Option.some.injEq]
      simp [Quoting.isMark]

theorem isOutside_run_take {text : Line} {place : Nat}
    (inside : place ≤ text.length) :
    (Quoting.outside.run (text.take place)).isOutside = true ↔
      ¬ text.IsEscaped place ∧ ∀ mark, ¬ text.IsQuotedBy place mark := by
  rw [Quoting.isOutside, Bool.and_eq_true, Option.isNone_iff_eq_none,
    Quoting.mark_eq_none_iff (mark_run_take inside), Bool.not_eq_true',
    ← Bool.not_eq_true, escaped_run_take inside, and_comm]

/-! ## Places and the scan for comments -/

/-- Whether the place is the start of the line or comes right after a
blank. -/
def followsBlank (text : Line) (place : Nat) : Bool :=
  (text.take place).getLast?.all Text.isBlank

theorem followsBlank_succ {text : Line} {place : Nat} {character : Char}
    (found : text[place]? = some character) :
    text.followsBlank (place + 1) = Text.isBlank character := by
  rw [followsBlank, List.take_add_one, found]
  simp

theorem followsBlank_iff {text : Line} {place : Nat}
    (inside : place ≤ text.length) :
    text.followsBlank place = true ↔
      place = 0 ∨ ∃ blank ∈ text[place - 1]?, Text.isBlank blank = true := by
  cases place with
  | zero => simp [followsBlank]
  | succ previous =>
      have found : text[previous]? = some text[previous] :=
        List.getElem?_eq_getElem inside
      rw [followsBlank_succ found, Nat.add_sub_cancel, found]
      simp

theorem isMarker_iff {text : Line} {place : Nat} {character : Char}
    (found : text[place]? = some character) :
    text.IsMarker place ↔
      character = '#' ∧ text.followsBlank place = true ∧
        (Quoting.outside.run (text.take place)).isOutside = true := by
  have inside : place ≤ text.length :=
    Nat.le_of_lt (List.getElem?_eq_some_iff.mp found).1
  rw [followsBlank_iff inside, isOutside_run_take inside]
  constructor
  · rintro ⟨hash, unescaped, unquoted, separate⟩
    exact ⟨Option.some.inj (found.symm.trans hash), separate, unescaped,
      unquoted⟩
  · rintro ⟨rfl, separate, unescaped, unquoted⟩
    exact ⟨found, unescaped, unquoted, separate⟩

/-- What the scan for comments keeps of the line from a place on. -/
def keepFrom (text : Line) (place : Nat) : List Char :=
  Comment.keep (Quoting.outside.run (text.take place))
    (text.followsBlank place) (text.drop place)

theorem keepFrom_of_isMarker {text : Line} {place : Nat}
    (marker : text.IsMarker place) : text.keepFrom place = [] := by
  obtain ⟨inside, isHash⟩ := List.getElem?_eq_some_iff.mp marker.hash
  have starts := (isMarker_iff marker.hash).mp marker
  rw [keepFrom, List.drop_eq_getElem_cons inside, Comment.keep, isHash,
    if_pos starts]

theorem keepFrom_of_not_isMarker {text : Line} {place : Nat}
    {character : Char} (found : text[place]? = some character)
    (unmarked : ¬ text.IsMarker place) :
    text.keepFrom place = character :: text.keepFrom (place + 1) := by
  obtain ⟨inside, isCharacter⟩ := List.getElem?_eq_some_iff.mp found
  rw [isMarker_iff found] at unmarked
  rw [keepFrom, List.drop_eq_getElem_cons inside, isCharacter, Comment.keep,
    if_neg unmarked, keepFrom, run_take_succ found, followsBlank_succ found]

/-- The scan keeps the places up to the first marker. -/
theorem keep_eq_take_append {text : Line} {place : Nat}
    (inside : place ≤ text.length)
    (unmarked : ∀ earlier < place, ¬ text.IsMarker earlier) :
    Comment.keep .outside true text =
      text.take place ++ text.keepFrom place := by
  induction place with
  | zero => rfl
  | succ place inductionHypothesis =>
      have found : text[place]? = some text[place] :=
        List.getElem?_eq_getElem inside
      have earlierUnmarked : ∀ earlier < place, ¬ text.IsMarker earlier :=
        fun earlier before => unmarked earlier (Nat.lt_succ_of_lt before)
      rw [inductionHypothesis (Nat.le_of_succ_le inside) earlierUnmarked,
        keepFrom_of_not_isMarker found (unmarked place (Nat.lt_succ_self place)),
        List.take_add_one, found, List.append_assoc]
      rfl

theorem exists_first_marker (text : Line) :
    ∃ place ≤ text.length,
      (∀ earlier < place, ¬ text.IsMarker earlier) ∧
        (place = text.length ∨ text.IsMarker place) := by
  classical
  by_cases marked : ∃ place, text.IsMarker place
  · have first := Nat.find_spec marked
    have inside := (List.getElem?_eq_some_iff.mp first.hash).1
    exact ⟨Nat.find marked, Nat.le_of_lt inside,
      fun earlier before => Nat.find_min marked before, Or.inr first⟩
  · exact ⟨text.length, Nat.le_refl _,
      fun earlier _ => not_exists.mp marked earlier, Or.inl rfl⟩

theorem keep_eq_take {text : Line} {place : Nat}
    (inside : place ≤ text.length)
    (unmarked : ∀ earlier < place, ¬ text.IsMarker earlier)
    (ends : place = text.length ∨ text.IsMarker place) :
    Comment.keep .outside true text = text.take place := by
  have nothing : text.keepFrom place = [] := by
    rcases ends with rfl | marker
    · rw [keepFrom, List.drop_length, Comment.keep_nil]
    · exact keepFrom_of_isMarker marker
  rw [keep_eq_take_append inside unmarked, nothing, List.append_nil]

end Line

/-! ## Stripping twice -/

namespace Comment

open Text

theorem keep_blank_append {before : List Char} (text : List Char)
    (blank : AllBlank before) :
    keep .outside true (before ++ text) = before ++ keep .outside true text := by
  induction before with
  | nil => rfl
  | cons character rest inductionHypothesis =>
      obtain ⟨isBlankFirst, restBlank⟩ := List.forall_mem_cons.mp blank
      have notHash := ne_hash_of_isBlank isBlankFirst
      rw [List.cons_append, keep_cons_of_ne _ notHash,
        step_of_isBlank isBlankFirst rfl, isBlankFirst,
        inductionHypothesis restBlank, List.cons_append]

theorem keep_of_allBlank {quoting : Quoting} {afterBlank : Bool}
    {text : List Char} (blank : AllBlank text) :
    keep quoting afterBlank text = text := by
  induction text generalizing quoting afterBlank with
  | nil => rfl
  | cons character rest inductionHypothesis =>
      obtain ⟨isBlankFirst, restBlank⟩ := List.forall_mem_cons.mp blank
      have notHash := ne_hash_of_isBlank isBlankFirst
      rw [keep_cons_of_ne _ notHash, inductionHypothesis restBlank]

theorem keep_keep (quoting : Quoting) (afterBlank : Bool) (text : List Char) :
    keep quoting afterBlank (keep quoting afterBlank text) =
      keep quoting afterBlank text := by
  induction text generalizing quoting afterBlank with
  | nil => rfl
  | cons character rest inductionHypothesis =>
      by_cases marker :
          character = '#' ∧ afterBlank = true ∧ quoting.isOutside = true
      · rw [keep, if_pos marker, keep_nil]
      · rw [keep, if_neg marker, keep, if_neg marker, inductionHypothesis]

theorem strip_trim (line : Line) : strip (trim line) = strip line := by
  obtain ⟨before, after, blankBefore, blankAfter, split⟩ := exists_trim line
  have behind : trim (keep .outside true (trim line ++ after)) =
      trim (keep .outside true (trim line)) := by
    rcases keep_append .outside true (trim line) after with
      ended | ⟨whole, blank, later⟩
    · rw [ended]
    · rw [later, keep_of_allBlank blankAfter, trim_append_blank _ blankAfter,
        whole]
  calc
    strip (trim line) = trim (keep .outside true (trim line ++ after)) :=
      behind.symm
    _ = trim (before ++ keep .outside true (trim line ++ after)) :=
      (trim_append _ blankBefore).symm
    _ = trim (keep .outside true (before ++ (trim line ++ after))) := by
      rw [keep_blank_append _ blankBefore]
    _ = strip line := by
      rw [← split]
      rfl

theorem strip_strip (line : Line) : strip (strip line) = strip line := calc
  strip (strip line) = strip (keep .outside true line) := strip_trim _
  _ = strip line := by rw [strip, keep_keep, strip]

/-- Stripping a line leaves the longest start of it without a marker, without
the blanks around it. It never starts like a comment, and stripping what was
stripped or trimmed before makes no difference. -/
theorem strip_before_first_marker (line : Line) :
    (∃ kept, kept <+: line ∧
      (∀ place < kept.length, ¬ line.IsMarker place) ∧
      (∀ other, other <+: line →
        (∀ place < other.length, ¬ line.IsMarker place) → other <+: kept) ∧
      strip line = trim kept) ∧
    (strip line).head? ≠ some '#' ∧
    strip (strip line) = strip line ∧
    strip (trim line) = strip line := by
  refine ⟨?_, ?_, strip_strip line, strip_trim line⟩
  · obtain ⟨place, inside, unmarked, ends⟩ := line.exists_first_marker
    have length : (line.take place).length = place :=
      List.length_take_of_le inside
    refine ⟨line.take place, List.take_prefix place line, ?_, ?_, ?_⟩
    · rw [length]
      exact unmarked
    · intro other starts otherUnmarked
      apply List.prefix_of_prefix_length_le starts (List.take_prefix place line)
      rw [length]
      by_contra longer
      have before : place < other.length := Nat.lt_of_not_le longer
      rcases ends with atEnd | marker
      · rw [atEnd] at longer
        exact longer starts.length_le
      · exact otherUnmarked place before marker
    · rw [strip, Line.keep_eq_take inside unmarked ends]
  · rw [← strip_trim]
    exact line.head?_significant

example :
    strip "  a[x=\" #\"] \\# b\\ # c # d".toList =
      "a[x=\" #\"] \\# b\\".toList := by
  decide

end Comment

end TerseMarkup
