import TerseMarkup.Html.Escape
import TerseMarkup.Proofs.Element.Form

/-!
# The tags of a text

A text is cut at its angle brackets into segments. It is well nested if every
segment is an opening or a closing tag, and every closing tag closes the tag
that was opened last and is not yet closed.
-/

namespace TerseMarkup.Html

/-- A text without angle brackets. -/
def IsPlain (text : List Char) : Prop :=
  ∀ character ∈ text, character ≠ '<' ∧ character ≠ '>'

instance (text : List Char) : Decidable (IsPlain text) :=
  List.decidableBAll (fun character => character ≠ '<' ∧ character ≠ '>') text

theorem isPlain_append {first second : List Char} :
    IsPlain (first ++ second) ↔ IsPlain first ∧ IsPlain second :=
  List.forall_mem_append

theorem isPlain_cons {character : Char} {rest : List Char} :
    IsPlain (character :: rest) ↔
      (character ≠ '<' ∧ character ≠ '>') ∧ IsPlain rest :=
  List.forall_mem_cons

/-- A text is plain if its characters pass a test that the brackets fail. -/
theorem isPlain_of_forall {test : Char → Bool} {text : List Char}
    (opening : test '<' = false) (closing : test '>' = false)
    (passes : ∀ character ∈ text, test character = true) : IsPlain text := by
  intro character member
  have passed := passes character member
  refine ⟨?_, ?_⟩
  · rintro rfl
    rw [opening] at passed
    contradiction
  · rintro rfl
    rw [closing] at passed
    contradiction

theorem isPlain_of_isNameText {text : List Char} (isName : IsNameText text) :
    IsPlain text :=
  isPlain_of_forall (by decide) (by decide) isName.2

/-! ## Signs of markup -/

def isMarkupSign (character : Char) : Bool :=
  ['<', '>', '"', '\''].contains character

def markupSigns (text : List Char) : List Char :=
  text.filter isMarkupSign

theorem markupSigns_append (first second : List Char) :
    markupSigns (first ++ second) = markupSigns first ++ markupSigns second :=
  List.filter_append first second

theorem markupSigns_flatMap {α : Type} (items : List α)
    (text : α → List Char) :
    markupSigns (items.flatMap text) =
      items.flatMap fun item => markupSigns (text item) :=
  List.filter_flatMap

theorem markupSigns_escapeChar (character : Char) :
    markupSigns (escapeChar character) = [] := by
  unfold escapeChar
  split
  · rfl
  · rfl
  · rfl
  · rfl
  · rfl
  · rename_i notOpening notClosing notQuote notApostrophe
    have plain : isMarkupSign character = false := by
      simp only [isMarkupSign, List.contains_eq_mem, List.mem_cons,
        List.not_mem_nil, or_false, decide_eq_false_iff_not, not_or]
      exact ⟨notOpening, notClosing, notQuote, notApostrophe⟩
    rw [markupSigns, List.filter_singleton, plain]
    rfl

theorem markupSigns_escapeChars (text : List Char) :
    markupSigns (escapeChars text) = [] := by
  rw [escapeChars, markupSigns_flatMap, List.flatMap_eq_nil_iff]
  intro character _
  exact markupSigns_escapeChar character

theorem isPlain_of_markupSigns {text : List Char}
    (signless : markupSigns text = []) : IsPlain text := by
  intro character member
  have notSign := List.filter_eq_nil_iff.mp signless character member
  constructor
  · rintro rfl
    exact notSign rfl
  · rintro rfl
    exact notSign rfl

/-! ## Segments -/

/-- The segments of a text, `inside` being the one that has been started and
not ended. A `>` that ends none is a segment of its own. -/
def segmentsFrom : Option (List Char) → List Char → List (List Char)
  | none, [] => []
  | some inside, [] => [inside]
  | none, character :: rest =>
      if character = '<' then segmentsFrom (some ['<']) rest
      else if character = '>' then ['>'] :: segmentsFrom none rest
      else segmentsFrom none rest
  | some inside, character :: rest =>
      if character = '>' then (inside ++ ['>']) :: segmentsFrom none rest
      else segmentsFrom (some (inside ++ [character])) rest

/-- The stretches of a text from a `<` to the next `>`, with both, in order.
A bracket that has no other one is in a segment that is no tag. -/
def segments (text : List Char) : List (List Char) :=
  segmentsFrom none text

theorem segments_plain_append {text : List Char} (plain : IsPlain text)
    (rest : List Char) : segments (text ++ rest) = segments rest := by
  induction text with
  | nil => rfl
  | cons character later inductionHypothesis =>
      obtain ⟨⟨notOpening, notClosing⟩, laterPlain⟩ := isPlain_cons.mp plain
      have skipped : segments (character :: (later ++ rest)) =
          segments (later ++ rest) := by
        rw [segments, segmentsFrom, if_neg notOpening, if_neg notClosing]
        rfl
      rw [List.cons_append, skipped, inductionHypothesis laterPlain]

theorem segmentsFrom_plain_append {text : List Char} (plain : IsPlain text)
    (inside rest : List Char) :
    segmentsFrom (some inside) (text ++ '>' :: rest) =
      (inside ++ text ++ ['>']) :: segments rest := by
  induction text generalizing inside with
  | nil => rw [List.nil_append, segmentsFrom, if_pos rfl, List.append_nil,
      segments]
  | cons character later inductionHypothesis =>
      obtain ⟨⟨_, notClosing⟩, laterPlain⟩ := isPlain_cons.mp plain
      rw [List.cons_append, segmentsFrom, if_neg notClosing,
        inductionHypothesis laterPlain, List.append_assoc inside,
        List.singleton_append]

/-! ## Tags -/

/-- What can stand in a tag behind its name: nothing, or a blank and
attributes. -/
structure IsTagRest (text : List Char) : Prop where
  plain : IsPlain text
  apart : text = [] ∨ text.head? = some ' '

inductive Tag where
  | opening (name rest : List Char) (isName : IsNameText name)
      (isRest : IsTagRest rest)
  | closing (name : List Char) (isName : IsNameText name)

namespace Tag

def inside : Tag → List Char
  | opening name rest _ _ => name ++ rest
  | closing name _ => '/' :: name

def written (tag : Tag) : List Char :=
  '<' :: (tag.inside ++ ['>'])

/-- The names of the open tags after a tag, the one opened last first. There
are none if the tag closes something else. -/
def step (opened : List (List Char)) : Tag → Option (List (List Char))
  | opening name _ _ _ => some (name :: opened)
  | closing name _ =>
      match opened with
      | [] => none
      | last :: outer => if last = name then some outer else none

theorem isPlain_inside (tag : Tag) : IsPlain tag.inside := by
  cases tag with
  | opening name rest isName isRest =>
      exact isPlain_append.mpr ⟨isPlain_of_isNameText isName, isRest.plain⟩
  | closing name isName =>
      exact isPlain_cons.mpr ⟨by decide, isPlain_of_isNameText isName⟩

theorem segments_written_append (tag : Tag) (rest : List Char) :
    segments (tag.written ++ rest) = tag.written :: segments rest := by
  have started : segments (tag.written ++ rest) =
      segmentsFrom (some ['<']) (tag.inside ++ '>' :: rest) := by
    simp [written, segments, segmentsFrom]
  rw [started, segmentsFrom_plain_append tag.isPlain_inside]
  rfl

end Tag

/-- All segments of the text are tags, and they are balanced. -/
def WellNested (text : List Char) : Prop :=
  ∃ tags : List Tag,
    segments text = tags.map Tag.written ∧ tags.foldlM Tag.step [] = some []

/-! ## Texts that can be put inside of others -/

/-- Whatever comes after it and whichever tags are open around it, the text
adds balanced tags. -/
def Nests (text : List Char) : Prop :=
  ∃ tags : List Tag,
    (∀ rest, segments (text ++ rest) =
      tags.map Tag.written ++ segments rest) ∧
    ∀ opened, tags.foldlM Tag.step opened = some opened

namespace Nests

theorem of_isPlain {text : List Char} (plain : IsPlain text) : Nests text := by
  refine ⟨[], ?_, ?_⟩
  · intro rest
    exact segments_plain_append plain rest
  · intro opened
    rfl

theorem append {first second : List Char}
    (firstNests : Nests first) (secondNests : Nests second) :
    Nests (first ++ second) := by
  obtain ⟨firstTags, firstSegments, firstBalanced⟩ := firstNests
  obtain ⟨secondTags, secondSegments, secondBalanced⟩ := secondNests
  refine ⟨firstTags ++ secondTags, ?_, ?_⟩
  · intro rest
    rw [List.append_assoc, firstSegments, secondSegments, List.map_append,
      List.append_assoc]
  · intro opened
    rw [List.foldlM_append, firstBalanced]
    exact secondBalanced opened

theorem element {name rest inner : List Char}
    (isName : IsNameText name) (isRest : IsTagRest rest)
    (innerNests : Nests inner) :
    Nests ((Tag.opening name rest isName isRest).written ++ inner ++
      (Tag.closing name isName).written) := by
  obtain ⟨tags, innerSegments, balanced⟩ := innerNests
  refine ⟨.opening name rest isName isRest :: (tags ++ [.closing name isName]),
    ?_, ?_⟩
  · intro after
    rw [List.append_assoc, List.append_assoc, Tag.segments_written_append,
      innerSegments, Tag.segments_written_append, List.map_cons,
      List.map_append, List.cons_append, List.append_assoc]
    rfl
  · intro opened
    have opens : (Tag.opening name rest isName isRest).step opened =
        some (name :: opened) := rfl
    have closes : (Tag.closing name isName).step (name :: opened) =
        some opened := if_pos rfl
    rw [List.foldlM_cons, opens, Option.bind_eq_bind, Option.bind_some,
      List.foldlM_append, balanced, Option.bind_eq_bind, Option.bind_some,
      List.foldlM_cons, closes]
    rfl

theorem wellNested {text : List Char} (nests : Nests text) :
    WellNested text := by
  obtain ⟨tags, textSegments, balanced⟩ := nests
  refine ⟨tags, ?_, balanced []⟩
  have whole := textSegments []
  have noSegments : segments [] = [] := rfl
  rwa [List.append_nil, noSegments, List.append_nil] at whole

end Nests

end TerseMarkup.Html
