import Mathlib.Data.List.Forall2
import TerseMarkup.Proofs.Document.Steps
import TerseMarkup.Proofs.Source.Placement

/-!
# Line numbers of a document

The nodes of a document, each block before the nodes of its body, come from
lines further and further down in the source, at every depth. What a node
holds is what the line with its number says: the head that opens a block, the
element, or the tokens of its chains.
-/

namespace TerseMarkup

/-! ## What a node makes of a line -/

/-- The chains of tokens that a text is cut into. A text without any token is
a token itself. -/
def Line.tokens (text : Line) : List (List Line) :=
  if Combinator.chains text = [] then [[text]] else Combinator.chains text

/-- `link.Holds token` says that the link is the element that the token
describes, or the token as text if it describes none. -/
def Link.Holds (token : Line) : Link → Prop
  | element described => Element.read? token = some described
  | literal text => Element.read? token = none ∧ text = String.ofList token

namespace Node

/-- `node.MadeOf text` says that the node is made of what a line says. -/
def MadeOf (text : Line) : Node → Prop
  | passage _ head _ _ => Element.readOpener? text = some head
  | markup _ head _ => Element.readOpener? text = some head
  | inline _ element =>
      Element.readOpener? text = none ∧ Element.read? text = some element
  | nesting _ chain =>
      Element.readOpener? text = none ∧ Element.read? text = none ∧
        List.Forall₂ (List.Forall₂ fun token link => link.Holds token)
          text.tokens [chain]
  | siblings _ parent others =>
      Element.readOpener? text = none ∧ Element.read? text = none ∧
        others ≠ [] ∧
        List.Forall₂ (List.Forall₂ fun token link => link.Holds token)
          text.tokens (parent :: others)

mutual

/-- A node and the nodes inside of it, each block before its body. -/
def preorder : Node → List Node
  | markup line head body => markup line head body :: preorderAll body
  | node => [node]

def preorderAll : List Node → List Node
  | [] => []
  | node :: rest => node.preorder ++ preorderAll rest

end

end Node

theorem SignificantLine.tokens_eq (line : SignificantLine) :
    line.tokens = line.text.tokens := by
  unfold SignificantLine.tokens Line.tokens
  split
  · rename_i noChains
    rw [if_pos noChains]
  · rename_i someChains
    rw [if_neg someChains]

theorem Line.tokens_ne_nil (text : Line) : text.tokens ≠ [] := by
  unfold Line.tokens
  split
  · exact List.cons_ne_nil _ _
  · assumption

theorem Link.holds_ofToken (line : Nat) (token : Line) :
    (Link.ofToken line token).1.Holds token := by
  unfold Link.ofToken
  split
  · assumption
  · rename_i notElement
    exact ⟨notElement, rfl⟩

theorem Chain.holds_ofTokens (line : Nat) (tokens : List Line) :
    List.Forall₂ (fun token link => link.Holds token) tokens
      (Chain.ofTokens line tokens).1 := by
  unfold Chain.ofTokens
  dsimp only
  rw [List.map_map, List.forall₂_map_right_iff, List.forall₂_same]
  intro token _
  exact Link.holds_ofToken line token

namespace Node

theorem self_mem_preorder (node : Node) : node ∈ node.preorder := by
  cases node with
  | markup line head body =>
      rw [preorder]
      exact List.mem_cons_self
  | _ => simp [preorder]

theorem preorder_passage (line : Nat) (head : Element) (form : TextForm)
    (text : String) :
    (passage line head form text).preorder =
      [passage line head form text] := by
  simp only [preorder]

theorem preorder_ofLine (line : SignificantLine) :
    (ofLine line).1.preorder = [(ofLine line).1] := by
  unfold ofLine
  split
  · simp only [preorder]
  · dsimp only
    split <;> simp only [preorder]

theorem madeOf_ofLine {line : SignificantLine}
    (notOpener : Element.readOpener? line.text = none) :
    (ofLine line).1.MadeOf line.text := by
  unfold ofLine
  split
  · rename_i element described
    exact ⟨notOpener, described⟩
  · rename_i notElement
    have holds :
        List.Forall₂ (List.Forall₂ fun token link => link.Holds token)
          line.text.tokens
          ((line.tokens.map (Chain.ofTokens line.number)).map (·.1)) := by
      rw [← SignificantLine.tokens_eq, List.map_map,
        List.forall₂_map_right_iff, List.forall₂_same]
      intro tokens _
      exact Chain.holds_ofTokens line.number tokens
    dsimp only
    split
    · rename_i noChains
      rw [noChains, List.forall₂_nil_right_iff] at holds
      exact absurd holds line.text.tokens_ne_nil
    · rename_i chain oneChain
      rw [oneChain] at holds
      exact ⟨notOpener, notElement, holds⟩
    · rename_i parent others notOne severalChains
      rw [severalChains] at holds
      refine ⟨notOpener, notElement, ?_, holds⟩
      rintro rfl
      exact notOne rfl

end Node

/-! ## Nodes from the lines of a cursor -/

namespace Cursor

/-- `cursor.Records nodes` says that the nodes come from lines of the cursor
in order, each from the line with its number. -/
structure Records (cursor : Cursor) (nodes : List Node) : Prop where
  increasing : nodes.Pairwise fun first second => first.line < second.line
  faithful : ∀ node ∈ nodes, ∃ raw : Line,
    (single node.line raw).Inside cursor ∧ node.MadeOf raw.significant

theorem Records.nil (cursor : Cursor) : cursor.Records [] where
  increasing := List.Pairwise.nil
  faithful := fun _ member => absurd member List.not_mem_nil

theorem Records.one {node : Node} {raw : Line}
    (made : node.MadeOf raw.significant) :
    (single node.line raw).Records [node] where
  increasing := List.pairwise_singleton _ node
  faithful := by
    intro other member
    rw [List.mem_singleton] at member
    subst member
    exact ⟨raw, Inside.refl _, made⟩

theorem Records.widen {inner outer : Cursor} {nodes : List Node}
    (records : inner.Records nodes) (inside : inner.Inside outer) :
    outer.Records nodes where
  increasing := records.increasing
  faithful := by
    intro node member
    obtain ⟨raw, place, made⟩ := records.faithful node member
    exact ⟨raw, place.trans inside, made⟩

theorem Records.bounds {cursor : Cursor} {nodes : List Node} {node : Node}
    (records : cursor.Records nodes) (member : node ∈ nodes) :
    cursor.number ≤ node.line ∧ node.line < cursor.stop := by
  obtain ⟨raw, place, _⟩ := records.faithful node member
  have beforeStop : node.line + 1 ≤ cursor.stop := place.stop_le
  exact ⟨place.le, beforeStop⟩

/-- Nodes of two stretches, one after the other. -/
theorem Records.append {outer first second : Cursor}
    {firstNodes secondNodes : List Node}
    (firstRecords : first.Records firstNodes)
    (secondRecords : second.Records secondNodes)
    (firstInside : first.Inside outer) (secondInside : second.Inside outer)
    (apart : first.stop ≤ second.number) :
    outer.Records (firstNodes ++ secondNodes) where
  increasing := by
    rw [List.pairwise_append]
    refine ⟨firstRecords.increasing, secondRecords.increasing, ?_⟩
    intro firstNode firstMember secondNode secondMember
    have upper := (firstRecords.bounds firstMember).2
    have lower := (secondRecords.bounds secondMember).1
    omega
  faithful := by
    intro node member
    rcases List.mem_append.mp member with firstMember | secondMember
    · exact (firstRecords.widen firstInside).faithful node firstMember
    · exact (secondRecords.widen secondInside).faithful node secondMember

/-- One step of reading: the node of the line that was found, then the nodes
that come from the lines behind it. -/
theorem Records.step {cursor after : Cursor} {line : SignificantLine}
    {node : Node} {nodes : List Node}
    (found : cursor.next = (.line line, after))
    (numbered : node.line = line.number) (made : node.MadeOf line.text)
    (later : after.Records nodes) :
    cursor.Records (node :: nodes) := by
  obtain ⟨raw, _, significant, afterNumber, behind⟩ := behind_of_next found
  rw [← numbered] at afterNumber behind
  rw [← significant] at made
  exact (Records.one made).append later behind.first
    (behind.next afterNumber).inside (Nat.le_of_eq afterNumber.symm)

/-- A block is the first of its nodes, and the others come from its body. -/
def BlockRecords (head : Element) (body : Cursor) (block : Node) : Prop :=
  ∃ inner,
    block.preorder = block :: inner ∧ body.Records inner ∧
      ∀ text, Element.readOpener? text = some head → block.MadeOf text

/-- Reading a scope records its lines, and so does reading the body of a
block. -/
theorem records_invariant (options : Options) :
    Invariant options
      (fun _ cursor parsed =>
        cursor.Records (Node.preorderAll parsed.document))
      (fun _ _ head body read => BlockRecords head body read.1) where
  nothing _ := Records.nil _
  comment _ := Records.nil _
  unclosed _ _ _ := Records.nil _
  closed found opener taken blockRecords restRecords := by
    -- A body is a stretch of the lines of its scope, so that what it records
    -- can be widened to the scope.
    obtain ⟨inner, preorder, bodyRecords, made⟩ := blockRecords
    obtain ⟨bodyInside, restBehind, apart⟩ := inside_of_takeBody? taken
    rw [Node.preorderAll, preorder, List.cons_append]
    exact Records.step found (line_parseBlock options _ _ _ _) (made _ opener)
      (bodyRecords.append restRecords bodyInside restBehind.inside
        (Nat.le_of_lt apart))
  closing found _ _ restRecords := by
    obtain ⟨raw, _, _, afterNumber, behind⟩ := behind_of_next found
    exact restRecords.widen (behind.next afterNumber).inside
  line found notOpener _ restRecords := by
    rw [Node.preorderAll, Node.preorder_ofLine, List.singleton_append]
    exact Records.step found (Node.line_ofLine _)
      (Node.madeOf_ofLine notOpener) restRecords
  verbatim _ := ⟨[], Node.preorder_passage _ _ _ _, Records.nil _,
    fun _ opener => opener⟩
  raw _ := ⟨[], Node.preorder_passage _ _ _ _, Records.nil _,
    fun _ opener => opener⟩
  deep _ _ _ := ⟨[], by simp only [Node.preorder, Node.preorderAll],
    Records.nil _, fun _ opener => opener⟩
  markup _ _ _ bodyRecords := ⟨_, by simp only [Node.preorder], bodyRecords,
    fun _ opener => opener⟩

end Cursor

/-- The nodes of a document come from lines further and further down, and
each holds what the line with its number says. -/
theorem Document.parse_numbering (options : Options) (source : String) :
    (Node.preorderAll (Document.parse options source).document).Pairwise
        (fun first second => first.line < second.line) ∧
      ∀ node ∈ Node.preorderAll (Document.parse options source).document,
        1 ≤ node.line ∧ node.line ≤ (sourceLines source.toList).length ∧
          ∃ raw : Line,
            (sourceLines source.toList)[node.line - 1]? = some raw ∧
              node.MadeOf (Comment.strip (Text.trim raw)) := by
  have records :=
    (Cursor.records_invariant options).parsed 0 ⟨1, sourceLines source.toList⟩
  refine ⟨records.increasing, ?_⟩
  intro node member
  obtain ⟨raw, place, made⟩ := records.faithful node member
  obtain ⟨lower, upper⟩ := records.bounds member
  have beforeStop :
      node.line < 1 + (sourceLines source.toList).length := upper
  exact ⟨lower, by omega, raw, place.getElem?, made⟩

end TerseMarkup
