import TerseMarkup.Html.Fragment

/-!
# How fragments are written

Fragments are written at the end of a text that is there already. What is
added does not depend on that text, so that the HTML of fragments is the HTML
of each of them, one after the other.
-/

namespace TerseMarkup

/-- The characters of joined texts are those of the texts and of what stands
between them. -/
theorem forall_mem_intercalate (holds : Char → Prop)
    {separator : String} {texts : List String}
    (between : ∀ character ∈ separator.toList, holds character)
    (inside : ∀ text ∈ texts, ∀ character ∈ text.toList, holds character) :
    ∀ character ∈ (separator.intercalate texts).toList, holds character := by
  induction texts with
  | nil =>
      intro character member
      rw [String.intercalate_nil] at member
      contradiction
  | cons first rest inductionHypothesis =>
      obtain ⟨firstHolds, restHolds⟩ := List.forall_mem_cons.mp inside
      cases rest with
      | nil =>
          rw [String.intercalate_singleton]
          exact firstHolds
      | cons second others =>
          rw [String.intercalate_cons_cons, String.toList_append,
            String.toList_append, List.forall_mem_append,
            List.forall_mem_append]
          exact ⟨⟨firstHolds, between⟩, inductionHypothesis restHolds⟩

namespace Fragment

mutual

theorem appendTo_eq : ∀ (fragment : Fragment) (out : String),
    fragment.appendTo out = out ++ fragment.html
  | .element tag attributes content children, out => by
      simp only [html, appendTo]
      split
      · simp only [String.append_assoc, String.empty_append]
      · rw [appendAllTo_eq children, appendAllTo_eq children]
        simp only [String.append_assoc, String.empty_append]
  | .block tag attributes body, out => by
      simp only [html, appendTo]
      rw [appendAllTo_eq body, appendAllTo_eq body]
      simp only [String.append_assoc, String.empty_append]
  | .passage tag attributes inside, out => by
      simp only [html, appendTo, String.append_assoc, String.empty_append]
  | .text words, out => by
      simp only [html, appendTo, String.append_assoc, String.empty_append]
  | .markup written, out => by
      simp only [html, appendTo, String.empty_append]

theorem appendAllTo_eq : ∀ (fragments : List Fragment) (out : String),
    appendAllTo out fragments = out ++ htmlAll fragments
  | [], out => by
      simp only [htmlAll, appendAllTo, String.append_empty]
  | fragment :: rest, out => by
      simp only [htmlAll, appendAllTo]
      rw [appendAllTo_eq rest, appendTo_eq fragment out,
        appendAllTo_eq rest (fragment.appendTo ""), String.append_assoc]
      rfl

end

@[simp] theorem htmlAll_nil : htmlAll [] = "" := by
  simp only [htmlAll, appendAllTo]

@[simp] theorem htmlAll_cons (fragment : Fragment) (rest : List Fragment) :
    htmlAll (fragment :: rest) = fragment.html ++ htmlAll rest := by
  rw [htmlAll, appendAllTo, appendAllTo_eq]
  rfl

@[simp] theorem htmlAll_append (first second : List Fragment) :
    htmlAll (first ++ second) = htmlAll first ++ htmlAll second := by
  induction first with
  | nil => simp
  | cons fragment rest inductionHypothesis =>
      simp only [List.cons_append, htmlAll_cons, inductionHypothesis,
        String.append_assoc]

theorem htmlAll_flatMap {α : Type} (items : List α)
    (fragments : α → List Fragment) :
    htmlAll (items.flatMap fragments) =
      String.join (items.map fun item => htmlAll (fragments item)) := by
  induction items with
  | nil => simp
  | cons item rest inductionHypothesis =>
      simp only [List.flatMap_cons, htmlAll_append, inductionHypothesis,
        List.map_cons, String.join_cons]

theorem html_element
    (tag attributes content : String) (children : List Fragment) :
    (element tag attributes content children).html =
      "<" ++ tag ++ attributes ++ ">" ++ content ++
        (if children = [] then "" else "\n" ++ htmlAll children) ++
        "</" ++ tag ++ ">\n" := by
  simp only [html, appendTo, String.empty_append]
  cases children with
  | nil => simp
  | cons first rest =>
      simp only [List.isEmpty_cons, reduceCtorEq, if_false,
        Bool.false_eq_true]
      rw [appendAllTo_eq]
      simp only [String.append_assoc]

theorem html_block (tag attributes : String) (body : List Fragment) :
    (block tag attributes body).html =
      "<" ++ tag ++ attributes ++ ">\n" ++ htmlAll body ++
        "</" ++ tag ++ ">\n" := by
  simp only [html, appendTo, String.empty_append]
  rw [appendAllTo_eq]

@[simp] theorem html_text (words : String) :
    (text words).html = words ++ "\n" := by
  simp only [html, appendTo, String.empty_append]

@[simp] theorem html_markup (written : String) :
    (markup written).html = written := by
  simp only [html, appendTo, String.empty_append]

end Fragment

end TerseMarkup
