import TerseMarkup.Proofs.Document.OneLine
import TerseMarkup.Proofs.Document.WellFormed
import TerseMarkup.Proofs.Element.Boundary
import TerseMarkup.Proofs.Rendering.ChainText

/-!
# Elements that are written out

An element can be written out with all its parts. The line is read as the
element that was written, whatever quotes, braces or combinators are in its
attributes and its content, as long as nothing in them starts a comment. It
is rendered as the copies of the element.
-/

namespace TerseMarkup

theorem decimalValue_toDigits (number : Nat) :
    decimalValue (Nat.toDigits 10 number) = number := by
  rw [← Element.valueOfDigits_eq_decimalValue, Element.valueOfDigits]
  exact Nat.ofDigitChars_eq_foldl.symm.trans Nat.ofDigitChars_ten_toDigits

theorem isNameChar_of_isTagChar {character : Char}
    (tagChar : isTagChar character = true) :
    Token.isNameChar character = true := by
  change (character.isUpper || character.isLower || character.isDigit ||
    character == '_' || character == '-') = true
  simp only [isTagChar, Bool.or_eq_true] at tagChar ⊢
  rcases tagChar with ((lower | digit) | underscore) | dash
  · exact Or.inl (Or.inl (Or.inl (Or.inr lower)))
  · exact Or.inl (Or.inl (Or.inr digit))
  · exact Or.inl (Or.inr underscore)
  · exact Or.inr dash

theorem toLower_of_isTagChar {character : Char}
    (tagChar : isTagChar character = true) : character.toLower = character :=
  Token.forall_isNameChar
    (fun character => isTagChar character = true →
      character.toLower = character)
    (by decide) (isNameChar_of_isTagChar tagChar) tagChar

namespace Element

/-- The element as it is written with all its parts. -/
def written (element : Element) : String :=
  element.tag ++
    (if element.attributes = "" then ""
      else "[" ++ element.attributes ++ "]") ++
    element.id.elim "" ("#" ++ ·) ++
    String.join (element.classes.map ("." ++ ·)) ++
    "\x7b" ++ element.content ++ "\x7d*" ++ toString element.count

def qualifiers (element : Element) : List Qualifier :=
  element.id.toList.map (fun id => .id id.toList) ++
    element.classes.map (fun kind => .style kind.toList)

theorem flatMap_text_qualifiers (element : Element) :
    element.qualifiers.flatMap Qualifier.text =
      (element.id.elim "" ("#" ++ ·)).toList ++
        (String.join (element.classes.map ("." ++ ·))).toList := by
  have classTexts :
      (element.classes.map fun kind =>
          Qualifier.style kind.toList).flatMap Qualifier.text =
        (String.join (element.classes.map ("." ++ ·))).toList := by
    simp only [String.toList_join, List.flatMap_map, String.toList_append]
    rfl
  rw [qualifiers, List.flatMap_append, classTexts]
  cases element.id with
  | none => rfl
  | some id => simp [Qualifier.text]

theorem filterMap_id?_qualifiers (element : Element) :
    element.qualifiers.filterMap Qualifier.id? =
      element.id.toList.map String.toList := by
  have noId : (element.classes.map fun kind =>
      Qualifier.style kind.toList).filterMap Qualifier.id? = [] := by
    simp [List.filterMap_map, Function.comp_def, Qualifier.id?]
  rw [qualifiers, List.filterMap_append, noId, List.append_nil]
  cases element.id with
  | none => rfl
  | some id => rfl

theorem filterMap_style?_qualifiers (element : Element) :
    element.qualifiers.filterMap Qualifier.style? =
      element.classes.map String.toList := by
  have noClass : (element.id.toList.map fun id =>
      Qualifier.id id.toList).filterMap Qualifier.style? = [] := by
    simp [List.filterMap_map, Function.comp_def, Qualifier.style?]
  rw [qualifiers, List.filterMap_append, noClass, List.nil_append,
    List.filterMap_map]
  exact congrFun List.filterMap_eq_map element.classes

namespace IsWellFormed

variable {element : Element} (wellFormed : element.IsWellFormed)
  (countable : element.count ≤ largestCount)

def form : Form where
  tag := element.tag.toList
  attributes :=
    if element.attributes = "" then none else some element.attributes.toList
  qualifiers := element.qualifiers
  content := some element.content.toList
  digits := some (Nat.toDigits 10 element.count)
  tag_isName := ⟨wellFormed.tag_nonempty, fun character member =>
    isNameChar_of_isTagChar (wellFormed.tag character member)⟩
  attributes_closed := by
    intro inner given
    by_cases empty : element.attributes = ""
    · rw [if_pos empty] at given
      contradiction
    · rw [if_neg empty] at given
      rw [← Option.some.inj given]
      exact ⟨fun nothing => empty (String.toList_eq_nil_iff.mp nothing),
        wellFormed.attributes⟩
  qualifiers_isName := by
    intro qualifier member
    rcases List.mem_append.mp member with isId | isClass
    · obtain ⟨id, given, rfl⟩ := List.mem_map.mp isId
      exact wellFormed.id id (Option.mem_toList.mp given)
    · obtain ⟨kind, given, rfl⟩ := List.mem_map.mp isClass
      exact wellFormed.classes kind given
  one_id := by
    rw [filterMap_id?_qualifiers, List.length_map]
    exact Option.length_toList_le
  content_closed := by
    intro inner given
    rw [← Option.some.inj given]
    exact wellFormed.content
  digits_count := by
    intro digits given
    rw [← Option.some.inj given, decimalValue_toDigits]
    refine ⟨?_, ?_, wellFormed.count, countable⟩
    · exact List.ne_nil_of_length_pos Nat.length_toDigits_pos
    · intro digit member
      exact Nat.isDigit_of_mem_toDigits (by decide) (by decide) member

theorem text_form :
    (wellFormed.form countable).text = element.written.toList := by
  have attributes :
      (if element.attributes = "" then none
        else some element.attributes.toList).elim []
          (fun inner => '[' :: (inner ++ [']'])) =
        (if element.attributes = "" then ""
          else "[" ++ element.attributes ++ "]").toList := by
    by_cases empty : element.attributes = ""
    · rw [if_pos empty, if_pos empty]
      rfl
    · rw [if_neg empty, if_neg empty]
      simp
  simp only [Form.text, form, attributes, flatMap_text_qualifiers, written,
    String.toList_append, Nat.toString_eq_ofList_toDigits,
    String.toList_ofList, Option.elim_some, List.append_assoc]
  simp

theorem element_form : (wellFormed.form countable).element = element := by
  have tag : element.tag.toList.map Char.toLower = element.tag.toList := by
    rw [List.map_congr_left fun character member =>
      toLower_of_isTagChar (wellFormed.tag character member), List.map_id']
  have attributes :
      String.ofList ((if element.attributes = "" then none
        else some element.attributes.toList).getD []) =
        element.attributes := by
    by_cases empty : element.attributes = ""
    · rw [if_pos empty, empty]
      rfl
    · rw [if_neg empty, Option.getD_some, String.ofList_toList]
  have id : (element.qualifiers.findSome? Qualifier.id?).map String.ofList =
      element.id := by
    rw [← List.head?_filterMap, filterMap_id?_qualifiers]
    cases element.id with
    | none => rfl
    | some id => exact congrArg some String.ofList_toList
  have classes : (element.qualifiers.filterMap Qualifier.style?).map
      String.ofList = element.classes := by
    rw [filterMap_style?_qualifiers, List.map_map]
    simp [Function.comp_def]
  simp only [Form.element, form, tag, attributes, id, classes,
    Option.getD_some, Option.elim_some, String.ofList_toList,
    decimalValue_toDigits]

include countable in
theorem read?_written (wellFormed : element.IsWellFormed) :
    read? element.written.toList = some element := by
  rw [← wellFormed.text_form countable, Form.read?_text,
    wellFormed.element_form countable]

end IsWellFormed

theorem copyText_of_childless {element : Element}
    (notRaw : element.tag ≠ rawTag) (index : Nat) :
    element.copyText "" index =
      "<" ++ element.tag ++ element.attributesAt index ++ ">" ++
        element.contentAt index ++ "</" ++ element.tag ++ ">\n" := by
  have markup : element.isRaw = false := beq_eq_false_iff_ne.mpr notRaw
  rw [copyText, markup, if_neg Bool.false_ne_true, if_pos rfl,
    String.append_empty]

end Element

namespace Document

theorem parse_written_eq (options : Options) {element : Element}
    (wellFormed : element.IsWellFormed)
    (countable : element.count ≤ Element.largestCount)
    (oneLine : '\n' ∉ element.written.toList)
    (uncommented :
      Comment.strip element.written.toList = element.written.toList) :
    Document.parse options element.written =
      { document := [.inline 1 element], diagnostics := [] } := by
  have read := wellFormed.read?_written countable
  have isElement :
      (Element.read? element.written.toList).isSome = true := by
    rw [read]
    rfl
  obtain ⟨first, rest, starts, nameChar⟩ := Element.exists_first isElement
  have plain : Line.IsPlain element.written.toList :=
    { oneLine := oneLine
      visible := by
        rw [starts]
        exact List.cons_ne_nil first rest
      uncommented := uncommented }
  have notClosing : element.written.toList ≠ closingLine := by
    rw [starts]
    exact cons_ne_closingLine rest nameChar
  have made : Node.ofLine ⟨1, element.written.toList⟩ =
      (.inline 1 element, []) := by
    rw [Node.ofLine, read]
  have parsed := plain.parse_eq options
    (Element.readOpener?_of_endsWell (Element.endsWell_of_read? isElement))
    notClosing
  rw [String.ofList_toList, made] at parsed
  exact parsed

theorem render_inline {options : Options} (line : Nat) {element : Element}
    (allowed : element.count ≤ options.maxRepeat)
    (affordable : element.count ≤ options.maxElements) :
    Document.render options [.inline line element] =
      (String.join
        ((List.range' 1 element.count).map (element.copyText "")), []) := by
  have copies : element.allowedCopies options = element.count :=
    Nat.min_eq_left allowed
  have enough : Document.demand options [.inline line element] ≤
      options.maxElements := by
    rw [Document.demand, Node.demandAll, Node.demandAll, Node.demand,
      Element.demand, copies, Fragment.sizeAll, Nat.mul_one, Nat.add_zero]
    exact affordable
  have copyTexts (index : Nat) :
      Fragment.htmlAll (element.copyAt [] index) =
        element.copyText "" index :=
    element.htmlAll_copyAt index fun _ inside => absurd inside List.not_mem_nil
  rw [Document.render_of_le enough, Node.expansionAll, Node.expansionAll,
    Node.expansion, Element.expansion, copies, List.append_nil,
    Fragment.htmlAll_flatMap, Node.countReportsAll, Node.countReportsAll,
    Node.countReports, Element.countReports, if_pos allowed, List.append_nil]
  simp only [copyTexts]

/-- A well-formed element that is written on a line of its own is read as the
element and rendered as its copies, one after the other, each with its own
index. Nothing is reported. -/
theorem render_written (options : Options) (element : Element)
    (wellFormed : element.IsWellFormed)
    (notRaw : element.tag ≠ Element.rawTag)
    (oneLine : '\n' ∉ element.written.toList)
    (countable : element.count ≤ Element.largestCount)
    (repeatable :
      element.count ≤ min options.maxRepeat options.maxElements)
    (uncommented :
      Comment.strip element.written.toList = element.written.toList) :
    Document.parse options element.written =
        { document := [.inline 1 element], diagnostics := [] } ∧
      (Document.parse options element.written).document.render options =
        (String.join ((List.range' 1 element.count).map fun index =>
          "<" ++ element.tag ++
            attributeText (withIndex index element.attributes)
              (element.id.map (withIndex index))
              (element.classes.map (withIndex index)) ++ ">" ++
            withIndex index element.content ++
            "</" ++ element.tag ++ ">\n"), []) := by
  obtain ⟨allowed, affordable⟩ := Nat.le_min.mp repeatable
  have parsed :=
    parse_written_eq options wellFormed countable oneLine uncommented
  refine ⟨parsed, ?_⟩
  rw [parsed, render_inline 1 allowed affordable,
    List.map_congr_left fun index _ =>
      Element.copyText_of_childless notRaw index]
  rfl

/-- Quoted signs of a comment, combinators and an opening brace are only text
in the attributes and the content. -/
theorem render_written_quoted :
    let element : Element :=
      { tag := "x-1", attributes := "title='a # b' href=\"#&index;\"",
        id := some "Id_2", classes := ["c", "D"],
        content := "2 > 1 + '# &index;' \\\x7b", count := 2 }
    element.written =
        "x-1[title='a # b' href=\"#&index;\"]#Id_2.c.D" ++
          "\x7b2 > 1 + '# &index;' \\\x7b\x7d*2" ∧
      (Document.parse {} element.written).document.render {} =
        ("<x-1 title='a # b' href=\"#1\" id=\"Id_2\" class=\"c D\">" ++
            "2 > 1 + '# 1' \\\x7b</x-1>\n" ++
          "<x-1 title='a # b' href=\"#2\" id=\"Id_2\" class=\"c D\">" ++
            "2 > 1 + '# 2' \\\x7b</x-1>\n", []) := by
  intro element
  have idIsName : IsNameText "Id_2".toList :=
    ⟨by decide, List.all_eq_true.mp (by decide)⟩
  have classesAreNames : ∀ kind ∈ ["c", "D"], IsNameText kind.toList :=
    List.forall_mem_cons.mpr
      ⟨⟨by decide, List.all_eq_true.mp (by decide)⟩,
        List.forall_mem_singleton.mpr
          ⟨by decide, List.all_eq_true.mp (by decide)⟩⟩
  have wellFormed : element.IsWellFormed :=
    { tag_nonempty := by decide
      tag := List.all_eq_true.mp (by decide)
      attributes := by decide +kernel
      id := by
        intro id given
        rw [← Option.some.inj given]
        exact idIsName
      classes := classesAreNames
      content := by decide +kernel
      count := by decide }
  have copies := (render_written {} element wellFormed (by decide)
    (by decide +kernel) (by decide) (by decide) (by decide +kernel)).2
  refine ⟨by decide +kernel, copies.trans ?_⟩
  decide +kernel

end Document

end TerseMarkup
