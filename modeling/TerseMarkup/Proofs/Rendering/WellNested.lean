import TerseMarkup.Proofs.Html.Tags
import TerseMarkup.Proofs.Html.Writing
import TerseMarkup.Proofs.Rendering.Yields

/-!
# Rendered HTML is well nested

Elements and blocks are written with an opening and a closing tag of the same
name. If their attributes and contents have no angle brackets, the HTML of a
document is well nested, wherever the budget or the limit on repeat counts
cuts it off: what has been rendered is a tree at every step.
-/

namespace TerseMarkup

/-! ## Texts without angle brackets -/

namespace Html

theorem isPlain_escape (text : String) : IsPlain (escape text).toList := by
  rw [toList_escape]
  exact isPlain_of_markupSigns (markupSigns_escapeChars text.toList)

theorem isPlain_fillIndex (index : Nat) {text : List Char}
    (plain : IsPlain text) : IsPlain (fillIndex index text) := by
  intro sign member
  rcases mem_or_isDigit_of_mem_fillIndex member with inText | isDigit
  · exact plain sign inText
  · constructor
    · rintro rfl
      exact absurd isDigit (by decide)
    · rintro rfl
      exact absurd isDigit (by decide)

theorem isPlain_withIndex (index : Nat) {text : String}
    (plain : IsPlain text.toList) :
    IsPlain (withIndex index text).toList := by
  rw [withIndex, String.toList_ofList]
  exact isPlain_fillIndex index plain

theorem isPlain_intercalate {separator : String} {texts : List String}
    (separatorPlain : IsPlain separator.toList)
    (plain : ∀ text ∈ texts, IsPlain text.toList) :
    IsPlain (separator.intercalate texts).toList :=
  forall_mem_intercalate _ separatorPlain plain

theorem IsTagRest.append {first second : List Char}
    (firstRest : IsTagRest first) (secondRest : IsTagRest second) :
    IsTagRest (first ++ second) where
  plain := isPlain_append.mpr ⟨firstRest.plain, secondRest.plain⟩
  apart := by
    rcases firstRest.apart with rfl | blank
    · exact secondRest.apart
    · right
      rw [List.head?_append, blank]
      rfl

theorem isTagRest_nil : IsTagRest [] :=
  ⟨by decide, .inl rfl⟩

theorem isTagRest_blank {text : List Char} (plain : IsPlain text) :
    IsTagRest (' ' :: text) :=
  ⟨isPlain_cons.mpr ⟨by decide, plain⟩, .inr rfl⟩

/-- A quoted value behind a blank and a name. -/
theorem isTagRest_quoted {start value : String}
    (blank : start.toList.head? = some ' ') (startPlain : IsPlain start.toList)
    (plain : IsPlain value.toList) :
    IsTagRest (start ++ value ++ "\"").toList where
  plain := by
    rw [String.toList_append, String.toList_append, isPlain_append,
      isPlain_append]
    exact ⟨⟨startPlain, plain⟩, by decide⟩
  apart := by
    right
    rw [String.toList_append, String.toList_append, List.head?_append,
      List.head?_append, blank]
    rfl

end Html

theorem isTagRest_attributeText
    {attributes : String} {id : Option String} {classes : List String}
    (attributesPlain : Html.IsPlain attributes.toList)
    (idPlain : ∀ name ∈ id, Html.IsPlain name.toList)
    (classesPlain : ∀ kind ∈ classes, Html.IsPlain kind.toList) :
    Html.IsTagRest (attributeText attributes id classes).toList := by
  unfold attributeText
  dsimp only
  rw [String.toList_append, String.toList_append]
  refine .append (.append ?given ?identity) ?kinds
  case given =>
    split
    · exact Html.isTagRest_nil
    · rw [String.toList_append]
      exact Html.isTagRest_blank attributesPlain
  case identity =>
    cases id with
    | none => exact Html.isTagRest_nil
    | some name =>
        dsimp only
        split
        · exact Html.isTagRest_nil
        · exact Html.isTagRest_quoted (by decide) (by decide)
            (idPlain name rfl)
  case kinds =>
    split
    · exact Html.isTagRest_nil
    · exact Html.isTagRest_quoted (by decide) (by decide)
        (Html.isPlain_intercalate (by decide) classesPlain)

/-! ## Fragments -/

namespace Fragment

/-- Names in all tags, and no other angle brackets. -/
inductive IsClean : Fragment → Prop
  | element {tag attributes content : String} {children : List Fragment}
      (isName : IsNameText tag.toList)
      (isRest : Html.IsTagRest attributes.toList)
      (plain : Html.IsPlain content.toList)
      (inside : ∀ child ∈ children, child.IsClean) :
      IsClean (element tag attributes content children)
  | block {tag attributes : String} {body : List Fragment}
      (isName : IsNameText tag.toList)
      (isRest : Html.IsTagRest attributes.toList)
      (inside : ∀ child ∈ body, child.IsClean) :
      IsClean (block tag attributes body)
  | text {words : String} (plain : Html.IsPlain words.toList) :
      IsClean (text words)
  | markup {written : String} (plain : Html.IsPlain written.toList) :
      IsClean (markup written)

theorem nests_htmlAll {fragments : List Fragment}
    (nests : ∀ fragment ∈ fragments, Html.Nests fragment.html.toList) :
    Html.Nests (htmlAll fragments).toList := by
  induction fragments with
  | nil =>
      rw [htmlAll_nil]
      exact .of_isPlain (by decide)
  | cons fragment rest inductionHypothesis =>
      obtain ⟨first, others⟩ := List.forall_mem_cons.mp nests
      rw [htmlAll_cons, String.toList_append]
      exact first.append (inductionHypothesis others)

/-- A text between the tags of an element, with a line feed after it. -/
theorem nests_between {tag attributes inner : String}
    (isName : IsNameText tag.toList)
    (isRest : Html.IsTagRest attributes.toList)
    (innerNests : Html.Nests inner.toList) :
    Html.Nests
      ("<" ++ tag ++ attributes ++ ">" ++ inner ++ "</" ++ tag ++
        ">\n").toList := by
  have element := Html.Nests.element isName isRest innerNests
  have lineFeed : Html.Nests ['\n'] := .of_isPlain (by decide)
  have whole := element.append lineFeed
  simpa [Html.Tag.written, Html.Tag.inside] using whole

/-- Every clean fragment is a tree of tags. -/
theorem IsClean.nests_html {fragment : Fragment} (clean : fragment.IsClean) :
    Html.Nests fragment.html.toList := by
  induction clean with
  | @element tag attributes content children isName isRest plain _
      childrenNest =>
      have contentNests : Html.Nests content.toList := .of_isPlain plain
      have inner : Html.Nests (content ++
          (if children = [] then "" else "\n" ++ htmlAll children)).toList := by
        rw [String.toList_append]
        refine contentNests.append ?_
        split
        · exact .of_isPlain (by decide)
        · rw [String.toList_append]
          exact (Html.Nests.of_isPlain (by decide)).append
            (nests_htmlAll childrenNest)
      have between := nests_between isName isRest inner
      rw [html_element]
      simpa only [String.append_assoc] using between
  | @block tag attributes body isName isRest _ bodyNests =>
      have inner : Html.Nests ("\n" ++ htmlAll body).toList := by
        rw [String.toList_append]
        exact (Html.Nests.of_isPlain (by decide)).append
          (nests_htmlAll bodyNests)
      have between := nests_between isName isRest inner
      have feed : ">\n" = ">" ++ "\n" := rfl
      rw [html_block, feed]
      rw [feed] at between
      simpa only [String.append_assoc] using between
  | text plain =>
      rw [html_text, String.toList_append]
      exact .of_isPlain (Html.isPlain_append.mpr ⟨plain, by decide⟩)
  | markup plain =>
      rw [html_markup]
      exact .of_isPlain plain

end Fragment

/-! ## Elements -/

namespace Element

/-- The element can be written: its names are names, and there are no angle
brackets in its attributes and its content. -/
structure IsClean (element : Element) : Prop where
  named : element.IsNamed
  attributes : Html.IsPlain element.attributes.toList
  content : Html.IsPlain element.content.toList

variable {element : Element}

theorem IsClean.isPlain_id (clean : element.IsClean) (index : Nat) :
    ∀ name ∈ element.id.map (withIndex index),
      Html.IsPlain name.toList := by
  intro name given
  obtain ⟨original, known, rfl⟩ := Option.map_eq_some_iff.mp given
  exact Html.isPlain_withIndex index
    (Html.isPlain_of_isNameText (clean.named.id original known))

theorem IsClean.isTagRest_attributesAt (clean : element.IsClean)
    (index : Nat) : Html.IsTagRest (element.attributesAt index).toList := by
  apply isTagRest_attributeText
    (Html.isPlain_withIndex index clean.attributes) (clean.isPlain_id index)
  intro kind given
  obtain ⟨original, known, rfl⟩ := List.mem_map.mp given
  exact Html.isPlain_withIndex index
    (Html.isPlain_of_isNameText (clean.named.classes original known))

theorem IsClean.isTagRest_headAttributes (clean : element.IsClean) :
    Html.IsTagRest element.headAttributes.toList := by
  apply isTagRest_attributeText
    (Html.isPlain_withIndex 1 clean.attributes) (clean.isPlain_id 1)
  intro kind known
  exact Html.isPlain_of_isNameText (clean.named.classes kind known)

end Element

/-- Elements without angle brackets keep the fragments clean. -/
theorem Fragment.isClean_invariant :
    Fragment.Invariant Element.IsClean Fragment.IsClean where
  text := fun words => .text (Html.isPlain_escape words)
  markup := fun words => .markup (Html.isPlain_escape words)
  element := by
    intro element index children clean childrenClean
    exact .element clean.named.tag (clean.isTagRest_attributesAt index)
      (Html.isPlain_withIndex index clean.content) childrenClean
  block := by
    intro head body clean bodyClean
    exact .block clean.named.tag clean.isTagRest_headAttributes bodyClean
  insert := by
    intro tag attributes content children inserted outerClean insertedClean
    cases outerClean with
    | element isName isRest plain inside =>
        exact .element isName isRest plain
          (Fragment.all_append.mpr ⟨inside, insertedClean⟩)

/-! ## Documents -/

namespace Node

/-- The node is no copied text, and what it writes as tags is clean. -/
abbrev IsClean (node : Node) : Prop :=
  node.Suits Element.IsClean

theorem renderAll_yields (options : Options) (nodes : List Node)
    (clean : ∀ inner ∈ preorderAll nodes, inner.IsClean) :
    (Node.renderAll options nodes).Yields (Fragment.All Fragment.IsClean) :=
  Fragment.isClean_invariant.render_nodes options nodes clean

end Node

/-- The HTML of a source is well nested, under all options, if no block of it
is copied as it is and there are no angle brackets in the attributes and the
contents of its elements. Raw elements and raw blocks may have some, and so
may tokens that are no elements. -/
theorem Document.wellNested_render (options : Options) (source : String)
    (noVerbatim :
      ∀ node ∈ Node.preorderAll (Document.parse options source).document,
        node.isVerbatim = false)
    (plain :
      ∀ node ∈ Node.preorderAll (Document.parse options source).document,
        ∀ element ∈ node.elements, element.isRaw = false →
          Html.IsPlain element.attributes.toList ∧
            Html.IsPlain element.content.toList) :
    Html.WellNested
      (Document.render options
        (Document.parse options source).document).1.toList := by
  have clean :
      ∀ node ∈ Node.preorderAll (Document.parse options source).document,
        node.IsClean := by
    intro node member
    refine ⟨noVerbatim node member,
      Document.isRawMarkup_of_mem_parse options source node member, ?_⟩
    intro element written notRaw
    obtain ⟨attributesPlain, contentPlain⟩ :=
      plain node member element written notRaw
    exact
      ⟨Document.isNamed_of_mem_parse options source node member element
        written, attributesPlain, contentPlain⟩
  have fragmentsClean :=
    Node.renderAll_yields options _ clean (.full options.maxElements)
  apply Html.Nests.wellNested
  apply Fragment.nests_htmlAll
  intro fragment member
  exact (fragmentsClean fragment member).nests_html

/-- Both limits cut the rendering off, one of them between two copies of an
element inside of a block. -/
theorem Document.wellNested_render_cut :
    let options : Options := { maxElements := 11, maxRepeat := 2 }
    let source :=
      "ul#a.b\\\x7b\nli\x7b&index;\x7d*5 > <u > b + raw\x7b<i>\x7d + em*2" ++
        "\nraw[<]\\\x7b\n<p>\n\\\x7d\n\\\x7d\nh1"
    (Document.render options (Document.parse options source).document).1 =
        "<ul id=\"a\" class=\"b\">\n<li>1\n&lt;u\n<b></b>\n</li>\n" ++
          "<li>2\n&lt;u\n<b></b>\n&lt;i&gt;\n<em></em>\n</li>\n</ul>\n" ∧
      Html.WellNested
        (Document.render options
          (Document.parse options source).document).1.toList := by
  intro options source
  refine ⟨by decide +kernel, ?_⟩
  exact Document.wellNested_render options source (by decide +kernel)
    (by decide +kernel)

end TerseMarkup
