import TerseMarkup.Proofs.Document.Elements
import TerseMarkup.Rendering.Document

/-!
# What rendering yields

Rendering makes fragments in a few ways: escaped texts, copies of elements
and blocks around other fragments, and fragments put inside of an element
that is there already. What every one of them keeps holds of all fragments of
a document, wherever the budget cuts the rendering off.
-/

namespace TerseMarkup

/-! ## Steps -/

namespace Render

variable {α β : Type}

/-- Whatever the budget is, the step comes to something of the given kind. -/
def Yields (holds : α → Prop) (step : Render α) : Prop :=
  ∀ budget : Budget, holds (step budget).value

protected theorem Yields.pure {holds : α → Prop} {value : α}
    (given : holds value) : Yields holds (pure value) := by
  intro budget
  exact given

protected theorem Yields.bind {firstHolds : α → Prop} {holds : β → Prop}
    {first : Render α} {second : α → Render β}
    (firstYields : first.Yields firstHolds)
    (secondYields : ∀ value, firstHolds value → (second value).Yields holds) :
    (first >>= second).Yields holds := by
  intro budget
  exact secondYields _ (firstYields budget) _

/-- A step of which nothing is known. -/
theorem yields_true (step : Render α) : step.Yields fun _ => True := by
  intro budget
  trivial

end Render

/-- Filling in the number of a copy adds digits only. -/
theorem mem_or_isDigit_of_mem_fillIndex {index : Nat} {text : List Char}
    {sign : Char} (member : sign ∈ fillIndex index text) :
    sign ∈ text ∨ sign.isDigit = true := by
  fun_induction fillIndex index text with
  | case1 rest inductionHypothesis =>
      rcases List.mem_append.mp member with inNumber | later
      · exact .inr
          (Nat.isDigit_of_mem_toDigits (by decide) (by decide) inNumber)
      · refine (inductionHypothesis later).imp_left ?_
        exact List.mem_append_right "&index;".toList
  | case2 character rest _ inductionHypothesis =>
      rcases List.mem_cons.mp member with rfl | later
      · exact .inl List.mem_cons_self
      · exact (inductionHypothesis later).imp_left (List.mem_cons_of_mem _)
  | case3 => exact .inl member

/-! ## Invariants of fragments -/

def Fragment.All (holds : Fragment → Prop) (fragments : List Fragment) : Prop :=
  ∀ fragment ∈ fragments, holds fragment

/-- Every way of making fragments keeps `holds`, if the elements are ones that
suit. -/
structure Fragment.Invariant
    (suits : Element → Prop) (holds : Fragment → Prop) : Prop where
  text : ∀ words : String, holds (.text (Html.escape words))
  markup : ∀ words : String, holds (.markup (Html.escape words))
  element : ∀ (element : Element) (index : Nat) (children : List Fragment),
    suits element → All holds children →
    holds
      (.element element.tag (element.attributesAt index)
        (element.contentAt index) children)
  block : ∀ (head : Element) (body : List Fragment),
    suits head → All holds body →
    holds (.block head.tag head.headAttributes body)
  insert : ∀ (tag attributes content : String)
      (children inserted : List Fragment),
    holds (.element tag attributes content children) → All holds inserted →
    holds (.element tag attributes content (children ++ inserted))

/-- The node is not copied as it is, and the elements that it writes as tags
suit. -/
structure Node.Suits (suits : Element → Prop) (node : Node) : Prop where
  notVerbatim : node.isVerbatim = false
  notRawMarkup : node.isRawMarkup = false
  elements : ∀ element ∈ node.elements, element.isRaw = false → suits element

namespace Fragment

variable {holds : Fragment → Prop}

theorem all_nil : All holds [] := by
  intro fragment member
  contradiction

theorem all_cons {fragment : Fragment} {rest : List Fragment} :
    All holds (fragment :: rest) ↔ holds fragment ∧ All holds rest :=
  List.forall_mem_cons

theorem all_append {first second : List Fragment} :
    All holds (first ++ second) ↔ All holds first ∧ All holds second :=
  List.forall_mem_append

namespace Invariant

variable {suits : Element → Prop} (invariant : Invariant suits holds)

include invariant

theorem insertLast {outer inserted : List Fragment}
    (outerHolds : All holds outer) (insertedHolds : All holds inserted) :
    All holds (Fragment.insertLast outer inserted) := by
  unfold Fragment.insertLast
  split
  · rename_i tag attributes content children isLast
    obtain ⟨before, rfl⟩ := List.getLast?_eq_some_iff.mp isLast
    obtain ⟨beforeHolds, lastHolds⟩ := all_append.mp outerHolds
    have filled :=
      invariant.insert tag attributes content children inserted
        (all_cons.mp lastHolds).1 insertedHolds
    rw [List.dropLast_concat, all_append]
    exact ⟨beforeHolds, all_cons.mpr ⟨filled, all_nil⟩⟩
  · exact all_append.mpr ⟨outerHolds, insertedHolds⟩

/-! ## Elements and chains -/

theorem copyAt {element : Element} {children : List Fragment}
    (suited : element.isRaw = false → suits element)
    (childrenHold : All holds children) (index : Nat) :
    All holds (element.copyAt children index) := by
  unfold Element.copyAt
  dsimp only
  split
  · split
    · exact childrenHold
    · exact all_cons.mpr ⟨invariant.text _, childrenHold⟩
  · rename_i notRaw
    have written := suited (by simpa using notRaw)
    have copied :=
      invariant.element element index children written childrenHold
    exact all_cons.mpr ⟨copied, all_nil⟩

theorem render_element (options : Options) (line : Nat) {element : Element}
    {children : List Fragment}
    (suited : element.isRaw = false → suits element)
    (childrenHold : All holds children) :
    (element.render options line children).Yields (All holds) := by
  refine (Render.yields_true _).bind ?_
  intro count _
  refine (Render.yields_true _).bind ?_
  intro paid _
  apply Render.Yields.pure
  intro fragment member
  obtain ⟨index, _, copied⟩ := List.mem_flatMap.mp member
  exact invariant.copyAt suited childrenHold index fragment copied

theorem render_chain (options : Options) (line : Nat) {chain : Chain}
    (suited : ∀ element ∈ chain.filterMap Link.element?,
      element.isRaw = false → suits element) :
    (Chain.render options line chain).Yields (All holds) := by
  induction chain with
  | nil => exact Render.Yields.pure all_nil
  | cons link rest inductionHypothesis =>
      cases link with
      | literal text =>
          refine (Render.yields_true _).bind ?_
          intro paid _
          refine (inductionHypothesis suited).bind ?_
          intro after afterHolds
          apply Render.Yields.pure
          split
          · exact all_cons.mpr ⟨invariant.text text, afterHolds⟩
          · exact afterHolds
      | element element =>
          obtain ⟨elementSuited, restSuited⟩ := List.forall_mem_cons.mp suited
          refine (inductionHypothesis restSuited).bind ?_
          intro children childrenHold
          exact invariant.render_element options line elementSuited
            childrenHold

theorem render_chains (options : Options) (line : Nat) {chains : List Chain}
    (suited : ∀ chain ∈ chains, ∀ element ∈ chain.filterMap Link.element?,
      element.isRaw = false → suits element) :
    (Chain.renderAll options line chains).Yields (All holds) := by
  induction chains with
  | nil => exact Render.Yields.pure all_nil
  | cons chain rest inductionHypothesis =>
      obtain ⟨chainSuited, restSuited⟩ := List.forall_mem_cons.mp suited
      refine (invariant.render_chain options line chainSuited).bind ?_
      intro first firstHolds
      refine (inductionHypothesis restSuited).bind ?_
      intro others othersHold
      exact Render.Yields.pure (all_append.mpr ⟨firstHolds, othersHold⟩)

theorem render_siblings (options : Options) (line : Nat) {parent : Chain}
    {others : List Chain}
    (suited : ∀ chain ∈ parent :: others,
      ∀ element ∈ chain.filterMap Link.element?,
        element.isRaw = false → suits element) :
    (Chain.renderSiblings options line parent others).Yields (All holds) := by
  obtain ⟨parentSuited, othersSuited⟩ := List.forall_mem_cons.mp suited
  refine (invariant.render_chain options line parentSuited).bind ?_
  intro outer outerHolds
  refine (invariant.render_chains options line othersSuited).bind ?_
  intro inserted insertedHolds
  apply Render.Yields.pure
  split
  · exact invariant.insertLast outerHolds insertedHolds
  · exact all_append.mpr ⟨outerHolds, insertedHolds⟩

end Invariant

end Fragment

/-! ## Documents -/

theorem Node.Suits.chains {suits : Element → Prop} {node : Node}
    (suited : node.Suits suits) :
    ∀ chain ∈ node.chains, ∀ element ∈ chain.filterMap Link.element?,
      element.isRaw = false → suits element := by
  intro chain member element inChain
  cases node with
  | nesting line only =>
      rw [List.mem_singleton.mp member] at inChain
      exact suited.elements element inChain
  | siblings line parent others =>
      obtain ⟨link, linked, isElement⟩ := List.mem_filterMap.mp inChain
      have inChains : link ∈ (parent :: others).flatten :=
        List.mem_flatten.mpr ⟨chain, member, linked⟩
      exact suited.elements element
        (List.mem_filterMap.mpr ⟨link, inChains, isElement⟩)
  | _ => contradiction

namespace Fragment.Invariant

variable {suits : Element → Prop} {holds : Fragment → Prop}

mutual

theorem render_node (invariant : Invariant suits holds) (options : Options) :
    ∀ node : Node, (∀ inner ∈ node.preorder, inner.Suits suits) →
      (Node.render options node).Yields (All holds)
  | .passage line head form text, suited => by
      have outer := suited _ (Node.self_mem_preorder _)
      refine (Render.yields_true _).bind ?_
      intro paid _
      apply Render.Yields.pure
      split
      · cases form with
        | raw => exact all_cons.mpr ⟨invariant.markup text, all_nil⟩
        | verbatim =>
            exact absurd outer.notVerbatim (by simp [Node.isVerbatim])
      · exact all_nil
  | .markup line head body, suited => by
      rw [Node.preorder, List.forall_mem_cons] at suited
      obtain ⟨outer, inner⟩ := suited
      have headSuits : suits head :=
        outer.elements head List.mem_cons_self outer.notRawMarkup
      refine (Render.yields_true _).bind ?_
      intro paid _
      split
      · refine (invariant.render_nodes options body inner).bind ?_
        intro fragments fragmentsHold
        apply Render.Yields.pure
        have enclosed := invariant.block head fragments headSuits fragmentsHold
        exact all_cons.mpr ⟨enclosed, all_nil⟩
      · exact Render.Yields.pure all_nil
  | .inline line element, suited => by
      have outer := suited _ (Node.self_mem_preorder _)
      exact invariant.render_element options line
        (outer.elements element List.mem_cons_self) all_nil
  | .nesting line chain, suited => by
      have outer := suited _ (Node.self_mem_preorder _)
      exact invariant.render_chain options line
        (outer.chains chain List.mem_cons_self)
  | .siblings line parent others, suited => by
      have outer := suited _ (Node.self_mem_preorder _)
      exact invariant.render_siblings options line outer.chains

theorem render_nodes (invariant : Invariant suits holds) (options : Options) :
    ∀ nodes : List Node,
      (∀ inner ∈ Node.preorderAll nodes, inner.Suits suits) →
      (Node.renderAll options nodes).Yields (All holds)
  | [], _ => Render.Yields.pure all_nil
  | node :: rest, suited => by
      rw [Node.preorderAll, List.forall_mem_append] at suited
      obtain ⟨nodeSuited, restSuited⟩ := suited
      refine (invariant.render_node options node nodeSuited).bind ?_
      intro first firstHolds
      refine (invariant.render_nodes options rest restSuited).bind ?_
      intro others othersHold
      exact Render.Yields.pure (all_append.mpr ⟨firstHolds, othersHold⟩)

end

end Fragment.Invariant

end TerseMarkup
