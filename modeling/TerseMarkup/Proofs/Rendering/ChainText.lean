import TerseMarkup.Proofs.Html.Writing
import TerseMarkup.Proofs.Rendering.Spending

/-!
# The text of a chain

Chains are rendered from the inside out, as trees that are copied into each
other. The text that comes of it has a plain description from the outside in:
every copy of an element is its tags around the text of the rest of the chain.
The two agree because no fragment of a chain is written as nothing, so that
there is nothing inside of an element exactly if its text is empty.
-/

namespace TerseMarkup

/-- The text of the copy of an element with the given index, around the text
of what is inside. -/
def Element.copyText
    (element : Element) (inside : String) (index : Nat) : String :=
  let content := element.contentAt index
  if element.isRaw then
    (if content = "" then "" else Html.escape content ++ "\n") ++ inside
  else
    "<" ++ element.tag ++ element.attributesAt index ++ ">" ++ content ++
      (if inside = "" then "" else "\n" ++ inside) ++
      "</" ++ element.tag ++ ">\n"

def Chain.text (options : Options) : Chain → String
  | [] => ""
  | .literal text :: rest =>
      Html.escape text ++ "\n" ++ Chain.text options rest
  | .element element :: rest =>
      String.join <|
        (List.range' 1 (min element.count options.maxRepeat)).map
          (element.copyText (Chain.text options rest))

/-! ## Nothing is written as nothing -/

namespace Fragment

theorem html_element_ne_empty
    (tag attributes content : String) (children : List Fragment) :
    (element tag attributes content children).html ≠ "" := by
  rw [html_element]
  simp

theorem html_text_ne_empty (words : String) : (text words).html ≠ "" := by
  rw [html_text]
  simp

theorem htmlAll_eq_empty_iff
    {fragments : List Fragment}
    (visible : ∀ fragment ∈ fragments, fragment.html ≠ "") :
    htmlAll fragments = "" ↔ fragments = [] := by
  cases fragments with
  | nil => simp
  | cons fragment rest =>
      have first : fragment.html ≠ "" := visible fragment List.mem_cons_self
      simp [first]

end Fragment

theorem Chain.html_ne_empty_of_mem_expansion
    {options : Options} {chain : Chain} {fragment : Fragment}
    (member : fragment ∈ chain.expansion options) :
    fragment.html ≠ "" :=
  Chain.forall_mem_expansion (fun made => made.html ≠ "")
    Fragment.html_text_ne_empty Fragment.html_element_ne_empty
    options chain fragment member

/-! ## Copies and chains as text -/

theorem Element.htmlAll_copyAt
    (element : Element) {children : List Fragment} (index : Nat)
    (visible : ∀ child ∈ children, child.html ≠ "") :
    Fragment.htmlAll (element.copyAt children index) =
      element.copyText (Fragment.htmlAll children) index := by
  unfold copyAt copyText
  dsimp only
  split
  · split
    · rw [String.empty_append]
    · rw [Fragment.htmlAll_cons, Fragment.html_text]
  · rw [Fragment.htmlAll_cons, Fragment.htmlAll_nil, String.append_empty,
      Fragment.html_element]
    simp only [Fragment.htmlAll_eq_empty_iff visible]

theorem Chain.htmlAll_expansion (options : Options) (chain : Chain) :
    Fragment.htmlAll (chain.expansion options) = chain.text options := by
  induction chain with
  | nil => exact Fragment.htmlAll_nil
  | cons link rest inductionHypothesis =>
      cases link with
      | literal text =>
          rw [Chain.expansion, Fragment.htmlAll_cons, Fragment.html_text,
            inductionHypothesis, Chain.text]
      | element element =>
          have copies (index : Nat) :
              Fragment.htmlAll
                  (element.copyAt (expansion options rest) index) =
                element.copyText (Chain.text options rest) index := by
            rw [element.htmlAll_copyAt index fun _ inside =>
              Chain.html_ne_empty_of_mem_expansion inside,
              inductionHypothesis]
          rw [Chain.expansion, Element.expansion, Fragment.htmlAll_flatMap,
            Chain.text]
          simp only [copies]
          rfl

/-- Rendering a chain on any budget that it does not exhaust gives the text of
the chain: repeats multiply, every copy has an index of its own that does not
reach the links inside, and a literal leaves the rest of the chain at its own
level. -/
theorem Chain.htmlAll_render
    (options : Options) (line : Nat) (chain : Chain) (budget : Budget)
    (unexhausted :
      (Chain.render options line chain budget).budget.exhausted = false) :
    Fragment.htmlAll (Chain.render options line chain budget).value =
      chain.text options := by
  rw [(Chain.render_asks options line chain).eq_of_unexhausted unexhausted]
  exact Chain.htmlAll_expansion options chain

theorem Chain.htmlAll_render_repeated :
    let chain : Chain :=
      [.element { tag := "ul", count := 2 },
        .element { tag := "raw", content := "<&index;>" },
        .literal "a & b",
        .element { tag := "li", content := "&index;", count := 2 }]
    (Chain.render {} 1 chain (.full 20)).budget.exhausted = false ∧
      Fragment.htmlAll (Chain.render {} 1 chain (.full 20)).value =
        "<ul>\n&lt;1&gt;\na &amp; b\n<li>1</li>\n<li>2</li>\n</ul>\n" ++
          "<ul>\n&lt;1&gt;\na &amp; b\n<li>1</li>\n<li>2</li>\n</ul>\n" :=
  ⟨by decide, (Chain.htmlAll_render _ _ _ _ (by decide)).trans
    (by decide +kernel)⟩

end TerseMarkup
