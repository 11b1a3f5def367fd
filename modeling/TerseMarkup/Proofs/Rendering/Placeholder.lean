import TerseMarkup.Proofs.Html.Writing
import TerseMarkup.Proofs.Rendering.Yields

/-!
# No placeholder is left

The placeholder `&index;` stands for the number of a copy. Every piece of HTML
is a text in which the placeholders were filled in, an escaped text, a name or
a sign of a tag, so that no piece has one. None comes about where two pieces
meet either: a piece that may end in the middle of a placeholder is followed
by a sign that no placeholder has.
-/

namespace TerseMarkup

/-- The sign for the number of a copy. -/
def placeholder : List Char := "&index;".toList

def IsFilled (text : List Char) : Prop :=
  ¬ placeholder <:+: text

/-- No placeholder stands in the text, nor does it start one that a text
behind it would end. -/
def StaysFilled (text : List Char) : Prop :=
  ∀ later, IsFilled later → IsFilled (text ++ later)

/-! ## Texts without placeholder -/

theorem isFilled_nil : IsFilled [] := by
  intro inside
  have empty : placeholder = [] := List.infix_nil.mp inside
  exact absurd empty (by decide)

theorem isFilled_cons {character : Char} {rest : List Char} :
    IsFilled (character :: rest) ↔
      ¬ placeholder <+: character :: rest ∧ IsFilled rest := by
  unfold IsFilled
  rw [List.infix_cons_iff, not_or]

/-- Two texts meet without making a placeholder if the second one starts with
another sign. -/
theorem IsFilled.append {first second : List Char}
    (firstFilled : IsFilled first) (secondFilled : IsFilled second)
    (apart : ∀ sign ∈ second.head?, sign ∉ placeholder) :
    IsFilled (first ++ second) := by
  intro inside
  rcases List.infix_append_iff.mp inside with
    inFirst | inSecond | ⟨start, stop, whole, ending, starting⟩
  · exact firstFilled inFirst
  · exact secondFilled inSecond
  · cases stop with
    | nil =>
        rw [List.append_nil] at whole
        rw [← whole] at ending
        exact firstFilled ending.isInfix
    | cons sign others =>
        have isHead : sign ∈ second.head? := by
          obtain ⟨more, rfl⟩ := starting
          rfl
        have inPlaceholder : sign ∈ placeholder := by
          rw [whole]
          exact List.mem_append_right start List.mem_cons_self
        exact apart sign isHead inPlaceholder

theorem staysFilled_nil : StaysFilled [] := by
  intro later laterFilled
  exact laterFilled

theorem StaysFilled.append {first second : List Char}
    (firstStays : StaysFilled first) (secondStays : StaysFilled second) :
    StaysFilled (first ++ second) := by
  intro later laterFilled
  rw [List.append_assoc]
  exact firstStays _ (secondStays later laterFilled)

theorem StaysFilled.isFilled {text : List Char} (stays : StaysFilled text) :
    IsFilled text := by
  have filled := stays [] isFilled_nil
  rwa [List.append_nil] at filled

theorem staysFilled_cons {character : Char} {rest : List Char}
    (notStart : ∀ later, ¬ placeholder <+: character :: (rest ++ later))
    (stays : StaysFilled rest) : StaysFilled (character :: rest) := by
  intro later laterFilled
  rw [List.cons_append, isFilled_cons]
  exact ⟨notStart later, stays later laterFilled⟩

/-- A placeholder starts with an ampersand. -/
theorem staysFilled_of_not_mem {text : List Char} (noAmpersand : '&' ∉ text) :
    StaysFilled text := by
  induction text with
  | nil => exact staysFilled_nil
  | cons character rest inductionHypothesis =>
      have restNone := List.not_mem_of_not_mem_cons noAmpersand
      refine staysFilled_cons ?_ (inductionHypothesis restNone)
      intro later starts
      exact List.ne_of_not_mem_cons noAmpersand
        (List.cons_prefix_cons.mp starts).1

/-- A text that may end in the middle of a placeholder, and a sign that does
not go on with it. -/
theorem IsFilled.staysFilled_append {first second : List Char}
    (firstFilled : IsFilled first) (secondStays : StaysFilled second)
    (apart : ∃ sign ∈ second.head?, sign ∉ placeholder) :
    StaysFilled (first ++ second) := by
  intro later laterFilled
  obtain ⟨sign, isHead, foreign⟩ := apart
  rw [List.append_assoc]
  refine firstFilled.append (secondStays later laterFilled) ?_
  intro other otherHead
  obtain ⟨rest, rfl⟩ := List.head?_eq_some_iff.mp isHead
  rw [← Option.some.inj otherHead]
  exact foreign

/-! ## Filled and escaped texts -/

theorem prefix_of_prefix_fillIndex {index : Nat} {word text : List Char}
    (noDigits : word.any Char.isDigit = false)
    (starts : word <+: fillIndex index text) : word <+: text := by
  fun_induction fillIndex index text generalizing word with
  | case1 rest _ =>
      cases word with
      | nil => exact List.nil_prefix
      | cons sign others =>
          -- The number has a digit, and no sign of the word is one.
          have someDigits : Nat.toDigits 10 index ≠ [] := Nat.toDigits_ne_nil
          obtain ⟨digit, digits, number⟩ :=
            List.exists_cons_of_ne_nil someDigits
          have isDigit : digit.isDigit = true :=
            Nat.isDigit_of_mem_toDigits (by decide) (by decide)
              (number ▸ List.mem_cons_self)
          rw [number, List.cons_append, List.cons_prefix_cons] at starts
          rw [List.any_cons, starts.1, isDigit] at noDigits
          contradiction
  | case2 character rest _ inductionHypothesis =>
      rcases List.prefix_cons_iff.mp starts with rfl | ⟨others, rfl, later⟩
      · exact List.nil_prefix
      · rw [List.any_cons, Bool.or_eq_false_iff] at noDigits
        exact List.cons_prefix_cons.mpr
          ⟨rfl, inductionHypothesis noDigits.2 later⟩
  | case3 => exact starts

theorem staysFilled_toDigits (index : Nat) :
    StaysFilled (Nat.toDigits 10 index) := by
  apply staysFilled_of_not_mem
  intro member
  have isDigit := Nat.isDigit_of_mem_toDigits (by decide) (by decide) member
  exact absurd isDigit (by decide)

theorem isFilled_fillIndex (index : Nat) (text : List Char) :
    IsFilled (fillIndex index text) := by
  fun_induction fillIndex index text with
  | case1 rest inductionHypothesis =>
      exact staysFilled_toDigits index _ inductionHypothesis
  | case2 character rest notPlaceholder inductionHypothesis =>
      refine isFilled_cons.mpr ⟨?_, inductionHypothesis⟩
      intro starts
      obtain ⟨isAmpersand, later⟩ := List.cons_prefix_cons.mp starts
      obtain ⟨more, written⟩ := prefix_of_prefix_fillIndex rfl later
      exact notPlaceholder more isAmpersand.symm written.symm
  | case3 => exact isFilled_nil

theorem fillIndex_cons_of_unmarked (index : Nat) {character : Char}
    {rest : List Char} (notStart : ¬ placeholder <+: character :: rest) :
    fillIndex index (character :: rest) =
      character :: fillIndex index rest := by
  rw [fillIndex]
  rintro more rfl rfl
  exact notStart ⟨more, rfl⟩

theorem fillIndex_of_isFilled (index : Nat) {text : List Char}
    (filled : IsFilled text) : fillIndex index text = text := by
  induction text with
  | nil => rfl
  | cons character rest inductionHypothesis =>
      obtain ⟨notStart, restFilled⟩ := isFilled_cons.mp filled
      rw [fillIndex_cons_of_unmarked index notStart,
        inductionHypothesis restFilled]

theorem fillIndex_of_not_mem (index : Nat) {text : List Char}
    (noAmpersand : '&' ∉ text) : fillIndex index text = text :=
  fillIndex_of_isFilled index (staysFilled_of_not_mem noAmpersand).isFilled

theorem isFilled_withIndex (index : Nat) (text : String) :
    IsFilled (withIndex index text).toList := by
  rw [withIndex, String.toList_ofList]
  exact isFilled_fillIndex index text.toList

theorem not_mem_withIndex (index : Nat) {text : String}
    (noAmpersand : '&' ∉ text.toList) :
    '&' ∉ (withIndex index text).toList := by
  rw [withIndex, String.toList_ofList, fillIndex_of_not_mem index noAmpersand]
  exact noAmpersand

namespace Html

/-- The reference for a character starts otherwise than a placeholder. -/
theorem staysFilled_escapeChar (character : Char) :
    StaysFilled (escapeChar character) := by
  have reference : ∀ {second : Char} {rest : List Char},
      second ≠ 'i' → '&' ∉ second :: rest →
        StaysFilled ('&' :: second :: rest) := by
    intro second rest differs noAmpersand
    refine staysFilled_cons ?_ (staysFilled_of_not_mem noAmpersand)
    intro later starts
    have behind := (List.cons_prefix_cons.mp starts).2
    exact differs (List.cons_prefix_cons.mp behind).1.symm
  unfold escapeChar
  split
  · exact reference (by decide) (by decide)
  · exact reference (by decide) (by decide)
  · exact reference (by decide) (by decide)
  · exact reference (by decide) (by decide)
  · exact reference (by decide) (by decide)
  · rename_i notAmpersand _ _ _ _
    apply staysFilled_of_not_mem
    rw [List.mem_singleton]
    exact Ne.symm notAmpersand

theorem staysFilled_escapeChars (text : List Char) :
    StaysFilled (escapeChars text) := by
  induction text with
  | nil => exact staysFilled_nil
  | cons character rest inductionHypothesis =>
      exact (staysFilled_escapeChar character).append inductionHypothesis

theorem staysFilled_escape (text : String) :
    StaysFilled (escape text).toList := by
  rw [toList_escape]
  exact staysFilled_escapeChars text.toList

end Html

theorem IsNameText.not_mem_ampersand {text : List Char}
    (isName : IsNameText text) : '&' ∉ text := by
  intro member
  exact absurd (isName.2 '&' member) (by decide)

/-! ## Attributes -/

/-- A text that can stand behind any other one without placeholder. -/
structure IsFilledPart (text : List Char) : Prop where
  filled : IsFilled text
  apart : ∀ sign ∈ text.head?, sign ∉ placeholder

theorem isFilledPart_nil : IsFilledPart [] :=
  ⟨isFilled_nil, fun _ member => nomatch member⟩

theorem isFilledPart_blank {text : List Char} (filled : IsFilled text) :
    IsFilledPart (' ' :: text) where
  filled := by
    have blank : StaysFilled [' '] := staysFilled_of_not_mem (by decide)
    exact blank text filled
  apart := by
    intro sign isHead
    rw [← Option.some.inj isHead]
    decide

theorem IsFilledPart.append {first second : List Char}
    (firstPart : IsFilledPart first) (secondPart : IsFilledPart second) :
    IsFilledPart (first ++ second) where
  filled := firstPart.filled.append secondPart.filled secondPart.apart
  apart := by
    cases first with
    | nil => exact secondPart.apart
    | cons sign rest => exact firstPart.apart

theorem isFilledPart_quoted (name : String) {value : String}
    (nameNone : '&' ∉ name.toList) (valueNone : '&' ∉ value.toList) :
    IsFilledPart (" " ++ name ++ "=\"" ++ value ++ "\"").toList := by
  have noAmpersand : '&' ∉ (name ++ "=\"" ++ value ++ "\"").toList := by
    simp [nameNone, valueNone]
  have part := isFilledPart_blank (staysFilled_of_not_mem noAmpersand).isFilled
  simpa using part

theorem isFilledPart_attributeText
    {attributes : String} {id : Option String} {classes : List String}
    (filled : IsFilled attributes.toList)
    (idNone : ∀ name ∈ id, '&' ∉ name.toList)
    (classesNone : ∀ kind ∈ classes, '&' ∉ kind.toList) :
    IsFilledPart (attributeText attributes id classes).toList := by
  unfold attributeText
  dsimp only
  rw [String.toList_append, String.toList_append]
  refine .append (.append ?given ?identity) ?kinds
  case given =>
    split
    · exact isFilledPart_nil
    · rw [String.toList_append]
      exact isFilledPart_blank filled
  case identity =>
    cases id with
    | none => exact isFilledPart_nil
    | some name =>
        dsimp only
        split
        · exact isFilledPart_nil
        · exact isFilledPart_quoted "id" (by decide) (idNone name rfl)
  case kinds =>
    have joinedNone : '&' ∉ (" ".intercalate classes).toList := by
      intro member
      refine forall_mem_intercalate (· ≠ '&') ?_ ?_ '&' member rfl
      · exact List.forall_mem_singleton.mpr (by decide)
      · rintro kind listed character inKind rfl
        exact classesNone kind listed inKind
    split
    · exact isFilledPart_nil
    · exact isFilledPart_quoted "class" (by decide) joinedNone

namespace Element

variable {element : Element} (named : element.IsNamed)

include named

theorem not_mem_ampersand_id (index : Nat) :
    ∀ name ∈ element.id.map (withIndex index), '&' ∉ name.toList := by
  intro name given
  obtain ⟨original, known, rfl⟩ := Option.map_eq_some_iff.mp given
  exact not_mem_withIndex index (named.id original known).not_mem_ampersand

theorem isFilled_attributesAt (index : Nat) :
    IsFilled (element.attributesAt index).toList := by
  refine (isFilledPart_attributeText (isFilled_withIndex index _)
    (not_mem_ampersand_id named index) ?_).filled
  intro kind given
  obtain ⟨original, known, rfl⟩ := List.mem_map.mp given
  exact not_mem_withIndex index
    (named.classes original known).not_mem_ampersand

/-- The classes of a block's head are not filled in, and need not be. -/
theorem isFilled_headAttributes : IsFilled element.headAttributes.toList := by
  refine (isFilledPart_attributeText (isFilled_withIndex 1 _)
    (not_mem_ampersand_id named 1) ?_).filled
  intro kind known
  exact (named.classes kind known).not_mem_ampersand

end Element

/-! ## Fragments -/

namespace Fragment

inductive AllFilled : Fragment → Prop
  | element {tag attributes content : String} {children : List Fragment}
      (isName : IsNameText tag.toList)
      (attributesFilled : IsFilled attributes.toList)
      (contentFilled : IsFilled content.toList)
      (inside : All AllFilled children) :
      AllFilled (element tag attributes content children)
  | block {tag attributes : String} {body : List Fragment}
      (isName : IsNameText tag.toList)
      (attributesFilled : IsFilled attributes.toList)
      (inside : All AllFilled body) :
      AllFilled (block tag attributes body)
  | text {words : String} (stays : StaysFilled words.toList) :
      AllFilled (text words)
  | markup {written : String} (stays : StaysFilled written.toList) :
      AllFilled (markup written)

theorem allFilled_invariant : Invariant Element.IsNamed AllFilled where
  text := fun words => .text (Html.staysFilled_escape words)
  markup := fun words => .markup (Html.staysFilled_escape words)
  element := by
    intro element index children named childrenFilled
    exact .element named.tag (Element.isFilled_attributesAt named index)
      (isFilled_withIndex index _) childrenFilled
  block := by
    intro head body named bodyFilled
    exact .block named.tag (Element.isFilled_headAttributes named) bodyFilled
  insert := by
    intro tag attributes content children inserted outerFilled insertedFilled
    cases outerFilled with
    | element isName attributesFilled contentFilled inside =>
        exact .element isName attributesFilled contentFilled
          (all_append.mpr ⟨inside, insertedFilled⟩)

theorem staysFilled_htmlAll {fragments : List Fragment}
    (stay : ∀ fragment ∈ fragments, StaysFilled fragment.html.toList) :
    StaysFilled (htmlAll fragments).toList := by
  induction fragments with
  | nil =>
      rw [htmlAll_nil]
      exact staysFilled_nil
  | cons fragment rest inductionHypothesis =>
      obtain ⟨first, others⟩ := List.forall_mem_cons.mp stay
      rw [htmlAll_cons, String.toList_append]
      exact first.append (inductionHypothesis others)

/-- An opening tag and what stands behind it. -/
theorem staysFilled_opened {tag attributes : String} {rest : List Char}
    (isName : IsNameText tag.toList)
    (attributesFilled : IsFilled attributes.toList)
    (restStays : StaysFilled rest) :
    StaysFilled ('<' :: (tag.toList ++ (attributes.toList ++ '>' :: rest))) := by
  have ending : StaysFilled ['>'] := staysFilled_of_not_mem (by decide)
  have signed : StaysFilled ('>' :: rest) := ending.append restStays
  have attributed : StaysFilled (attributes.toList ++ '>' :: rest) :=
    attributesFilled.staysFilled_append signed ⟨'>', rfl, by decide⟩
  have tagStays : StaysFilled ('<' :: tag.toList) := by
    apply staysFilled_of_not_mem
    simp [isName.not_mem_ampersand]
  exact tagStays.append attributed

theorem staysFilled_closing {tag : String} (isName : IsNameText tag.toList) :
    StaysFilled ('<' :: '/' :: (tag.toList ++ ['>', '\n'])) := by
  apply staysFilled_of_not_mem
  simp [isName.not_mem_ampersand]

theorem AllFilled.staysFilled_html {fragment : Fragment}
    (filled : fragment.AllFilled) : StaysFilled fragment.html.toList := by
  induction filled with
  | @element tag attributes content children isName attributesFilled
      contentFilled _ childrenStay =>
      have closing := staysFilled_closing isName
      -- Behind the content stands a line feed or the closing tag.
      have inner : StaysFilled (content.toList ++
          ((if children = [] then "" else "\n" ++ htmlAll children).toList ++
            '<' :: '/' :: (tag.toList ++ ['>', '\n']))) := by
        split
        · exact contentFilled.staysFilled_append closing ⟨'<', rfl, by decide⟩
        · have feed : StaysFilled ['\n'] := staysFilled_of_not_mem (by decide)
          have behind := (feed.append (staysFilled_htmlAll childrenStay)).append
            closing
          rw [String.toList_append]
          exact contentFilled.staysFilled_append behind ⟨'\n', rfl, by decide⟩
      have whole := staysFilled_opened isName attributesFilled inner
      rw [html_element]
      simpa using whole
  | @block tag attributes body isName attributesFilled _ bodyStay =>
      have feed : StaysFilled ['\n'] := staysFilled_of_not_mem (by decide)
      have inner := (feed.append (staysFilled_htmlAll bodyStay)).append
        (staysFilled_closing isName)
      have whole := staysFilled_opened isName attributesFilled inner
      rw [html_block]
      simpa using whole
  | text stays =>
      rw [html_text, String.toList_append]
      exact stays.append (staysFilled_of_not_mem (by decide))
  | markup stays =>
      rw [html_markup]
      exact stays

end Fragment

/-- No placeholder stands in the HTML of a source, under all options, if no
block of it is copied as it is. -/
theorem Document.render_without_placeholder (options : Options)
    (source : String)
    (noVerbatim :
      ∀ node ∈ Node.preorderAll (Document.parse options source).document,
        node.isVerbatim = false) :
    ¬ "&index;".toList <:+:
      (Document.render options
        (Document.parse options source).document).1.toList := by
  have suited :
      ∀ node ∈ Node.preorderAll (Document.parse options source).document,
        node.Suits Element.IsNamed := by
    intro node member
    refine ⟨noVerbatim node member,
      Document.isRawMarkup_of_mem_parse options source node member, ?_⟩
    intro element written _
    exact Document.isNamed_of_mem_parse options source node member element
      written
  have filled :=
    Fragment.allFilled_invariant.render_nodes options _ suited
      (.full options.maxElements)
  have stays := Fragment.staysFilled_htmlAll fun fragment member =>
    (filled fragment member).staysFilled_html
  exact stays.isFilled

/-- Placeholders in every place, and texts that end in the middle of one. -/
theorem Document.render_without_placeholder_split :
    let options : Options := {}
    let source :=
      "ul[t=&index;]#a.b\\\x7b\nli[&index]\x7b&in&index;dex;\x7d*2 > " ++
        "p\x7b&index\x7d > ; + raw\x7b&index;\x7d\nraw\\\x7b\n&index;\n\\\x7d\n\\\x7d"
    (Document.render options (Document.parse options source).document).1 =
        "<ul t=1 id=\"a\" class=\"b\">\n<li &index>&in1dex;\n" ++
          "<p>&index\n;\n</p>\n</li>\n<li &index>&in2dex;\n" ++
          "<p>&index\n;\n</p>\n1\n</li>\n&amp;index;\n</ul>\n" ∧
      ¬ "&index;".toList <:+:
        (Document.render options
          (Document.parse options source).document).1.toList := by
  intro options source
  refine ⟨by decide +kernel, ?_⟩
  exact Document.render_without_placeholder options source (by decide +kernel)

end TerseMarkup
