import TerseMarkup.Proofs.Document.JoinedLine
import TerseMarkup.Proofs.Element.Naming

/-!
# The elements of a document

Every node of a document comes from a block or from a line, so that what holds
of those holds of all nodes. The elements of the nodes have names for tags,
ids and classes, and a block with a document inside of it is not raw.
-/

namespace TerseMarkup

namespace Node

/-- The elements that a node is made of: the head of a block or the elements
of a line, but not those inside of a block. -/
def elements : Node → List Element
  | passage _ head _ _ => [head]
  | markup _ head _ => [head]
  | inline _ element => [element]
  | nesting _ chain => chain.filterMap Link.element?
  | siblings _ parent others =>
      (parent :: others).flatten.filterMap Link.element?

def isVerbatim : Node → Bool
  | passage _ _ .verbatim _ => true
  | _ => false

end Node

/-! ## All nodes -/

/-- Whatever holds of the nodes that blocks and lines are read as holds of all
nodes of a document, at every depth. -/
theorem Cursor.forall_mem_invariant (options : Options) (holds : Node → Prop)
    (ofLine : ∀ line : SignificantLine, holds (Node.ofLine line).1)
    (ofBlock : ∀ (depth line : Nat) (text : Line) (head : Element)
      (body : Cursor), Element.readOpener? text = some head →
        holds (parseBlock options depth line head body).1) :
    Invariant options
      (fun _ _ parsed =>
        ∀ node ∈ Node.preorderAll parsed.document, holds node)
      (fun _ _ _ _ read =>
        holds read.1 → ∀ node ∈ read.1.preorder, holds node) where
  nothing _ _ member := absurd member List.not_mem_nil
  comment _ _ member := absurd member List.not_mem_nil
  unclosed _ _ _ _ member := absurd member List.not_mem_nil
  closed _ opener _ blockHolds restHolds := by
    rw [Node.preorderAll]
    exact List.forall_mem_append.mpr
      ⟨blockHolds (ofBlock _ _ _ _ _ opener), restHolds⟩
  closing _ _ _ restHolds := restHolds
  line _ _ _ restHolds := by
    rw [Node.preorderAll, Node.preorder_ofLine]
    exact List.forall_mem_append.mpr
      ⟨List.forall_mem_singleton.mpr (ofLine _), restHolds⟩
  verbatim _ holdsBlock := by
    rw [Node.preorder_passage]
    exact List.forall_mem_singleton.mpr holdsBlock
  raw _ holdsBlock := by
    rw [Node.preorder_passage]
    exact List.forall_mem_singleton.mpr holdsBlock
  deep _ _ _ holdsBlock := by
    rw [Node.preorder]
    exact List.forall_mem_cons.mpr
      ⟨holdsBlock, fun _ member => absurd member List.not_mem_nil⟩
  markup _ _ _ bodyHolds holdsBlock := by
    rw [Node.preorder]
    exact List.forall_mem_cons.mpr ⟨holdsBlock, bodyHolds⟩

/-! ## What is known of the elements -/

theorem Chain.isNamed_ofTokens (line : Nat) (tokens : List Line) :
    ∀ element ∈ (Chain.ofTokens line tokens).1.filterMap Link.element?,
      element.IsNamed := by
  intro element member
  obtain ⟨link, made, isElement⟩ := List.mem_filterMap.mp member
  have read : some element ∈ tokens.map Element.read? := by
    rw [← Chain.map_element?_ofTokens line, ← isElement]
    exact List.mem_map_of_mem made
  obtain ⟨token, _, described⟩ := List.mem_map.mp read
  exact Element.isNamed_of_read? described

namespace Node

theorem isNamed_ofLine (line : SignificantLine) :
    ∀ element ∈ (ofLine line).1.elements, element.IsNamed := by
  unfold ofLine
  split
  · rename_i element described
    intro other member
    rw [List.mem_singleton.mp member]
    exact Element.isNamed_of_read? described
  · dsimp only
    have named : ∀ chain ∈
        (line.tokens.map (Chain.ofTokens line.number)).map (·.1),
        ∀ element ∈ chain.filterMap Link.element?, element.IsNamed := by
      intro chain member
      rw [List.map_map] at member
      obtain ⟨tokens, _, rfl⟩ := List.mem_map.mp member
      exact Chain.isNamed_ofTokens line.number tokens
    split
    · intro element member
      contradiction
    · rename_i chain oneChain
      rw [oneChain] at named
      exact named chain List.mem_cons_self
    · rename_i parent others _ severalChains
      rw [severalChains] at named
      intro element member
      obtain ⟨link, inChains, isElement⟩ := List.mem_filterMap.mp member
      obtain ⟨chain, listed, inChain⟩ := List.mem_flatten.mp inChains
      exact named chain listed element
        (List.mem_filterMap.mpr ⟨link, inChain, isElement⟩)

theorem elements_parseBlock (options : Options) (depth line : Nat)
    (head : Element) (body : Cursor) :
    (Cursor.parseBlock options depth line head body).1.elements = [head] := by
  rw [Cursor.parseBlock]
  split
  · rfl
  · split
    · rfl
    · split <;> rfl

/-- Whether a node is a block with nodes inside of it, but raw. -/
def isRawMarkup : Node → Bool
  | markup _ head _ => head.isRaw
  | _ => false

theorem isRawMarkup_ofLine (line : SignificantLine) :
    (ofLine line).1.isRawMarkup = false := by
  unfold ofLine
  split
  · rfl
  · dsimp only
    split <;> rfl

theorem isRawMarkup_parseBlock (options : Options) (depth line : Nat)
    (head : Element) (body : Cursor) :
    (Cursor.parseBlock options depth line head body).1.isRawMarkup = false := by
  rw [Cursor.parseBlock]
  split
  · rfl
  · split
    · rfl
    · rename_i notRaw
      split <;> exact Bool.eq_false_iff.mpr notRaw

end Node

namespace Document

variable (options : Options) (source : String)

theorem isNamed_of_mem_parse :
    ∀ node ∈ Node.preorderAll (Document.parse options source).document,
      ∀ element ∈ node.elements, element.IsNamed := by
  refine (Cursor.forall_mem_invariant options
    (fun node => ∀ element ∈ node.elements, element.IsNamed)
    Node.isNamed_ofLine ?_).parsed 0 _
  intro depth line text head body opener
  rw [Node.elements_parseBlock]
  exact List.forall_mem_singleton.mpr (Element.isNamed_of_readOpener? opener)

theorem isRawMarkup_of_mem_parse :
    ∀ node ∈ Node.preorderAll (Document.parse options source).document,
      node.isRawMarkup = false := by
  refine (Cursor.forall_mem_invariant options
    (fun node => node.isRawMarkup = false)
    Node.isRawMarkup_ofLine ?_).parsed 0 _
  intro depth line text head body _
  exact Node.isRawMarkup_parseBlock options depth line head body

end Document

end TerseMarkup
