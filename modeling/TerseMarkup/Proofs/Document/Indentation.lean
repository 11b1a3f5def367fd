import Mathlib.Data.List.Forall2
import TerseMarkup.Compilation
import TerseMarkup.Proofs.Document.Numbering
import TerseMarkup.Proofs.Source.Lines
import TerseMarkup.Proofs.Text.Trimming

/-!
# Indentation and line endings

Whatever reading asks about a line, it asks about the trimmed line: whether a
comment starts or ends there, whether a block does, and what the line says.
Two sources whose lines are the same but for the blanks around them are thus
read alike, with the same reports and the same nodes. Only the text of raw and
verbatim blocks is taken from the lines as they are.
-/

namespace TerseMarkup

/-! ## Questions about a line -/

theorem Line.significant_trim (line : Line) :
    Line.significant (Text.trim line) = line.significant := by
  rw [Line.significant, Text.trim_trim, Line.significant]

namespace Cursor

theorem opensComment_trim (line : Line) :
    opensComment (Text.trim line) = opensComment line := by
  rw [Bool.eq_iff_iff, opensComment_iff, opensComment_iff, Text.trim_trim]

theorem closesComment_trim (line : Line) :
    closesComment (Text.trim line) = closesComment line := by
  rw [Bool.eq_iff_iff, closesComment_iff, closesComment_iff, Text.trim_trim]

theorem opensBlock_trim (line : Line) :
    opensBlock (Text.trim line) = opensBlock line := by
  rw [Bool.eq_iff_iff, opensBlock_iff, opensBlock_iff, Text.trim_trim]

theorem closesBlock_trim (line : Line) :
    closesBlock (Text.trim line) = closesBlock line := by
  rw [Bool.eq_iff_iff, closesBlock_iff, closesBlock_iff, Text.trim_trim]

/-! ## Trimmed lines -/

def trimmed (cursor : Cursor) : Cursor :=
  ⟨cursor.number, cursor.remaining.map Text.trim⟩

theorem nextFrom_trimmed (number : Nat) (opened : Option Nat)
    (lines : List Line) :
    nextFrom number opened (lines.map Text.trim) =
      ((nextFrom number opened lines).1,
        (nextFrom number opened lines).2.trimmed) := by
  induction lines generalizing number opened with
  | nil => cases opened <;> rfl
  | cons line rest inductionHypothesis =>
      rw [List.map_cons]
      cases opened with
      | some opener =>
          rw [nextFrom, nextFrom]
          simp only [closesComment_trim]
          exact inductionHypothesis (number + 1) _
      | none =>
          cases opening : opensComment line with
          | true =>
              rw [nextFrom, nextFrom]
              simp only [opensComment_trim, opening, if_true]
              exact inductionHypothesis (number + 1) (some number)
          | false =>
              have trimmedPlain : opensComment (Text.trim line) = false :=
                (opensComment_trim line).trans opening
              by_cases empty : line.significant = []
              · have trimmedEmpty : Line.significant (Text.trim line) = [] :=
                  (Line.significant_trim line).trans empty
                rw [nextFrom_of_blank number rest opening empty,
                  nextFrom_of_blank number _ trimmedPlain trimmedEmpty]
                exact inductionHypothesis (number + 1) none
              · have trimmedSays : Line.significant (Text.trim line) ≠ [] := by
                  rwa [Line.significant_trim]
                rw [nextFrom_of_significant number rest opening empty,
                  nextFrom_of_significant number _ trimmedPlain trimmedSays,
                  Line.significant_trim]
                rfl

theorem next_trimmed {cursor after : Cursor} {result : Found}
    (found : cursor.next = (result, after)) :
    cursor.trimmed.next = (result, after.trimmed) := by
  have trimmedNext := nextFrom_trimmed cursor.number none cursor.remaining
  rw [Cursor.next] at found
  rw [found] at trimmedNext
  exact trimmedNext

theorem splitBody_trimmed (depth : Nat) (lines : List Line) :
    splitBody depth (lines.map Text.trim) =
      (splitBody depth lines).map fun (body, after) =>
        (body.map Text.trim, after.map Text.trim) := by
  induction lines generalizing depth with
  | nil => rfl
  | cons line rest inductionHypothesis =>
      rw [List.map_cons]
      have sameClosing := closesBlock_trim line
      cases closing : closesBlock line with
      | true =>
          rw [closing] at sameClosing
          cases depth with
          | zero =>
              rw [splitBody_zero sameClosing, splitBody_zero closing]
              rfl
          | succ outer =>
              rw [splitBody_cons_of_closing sameClosing,
                splitBody_cons_of_closing closing, inductionHypothesis,
                Option.map_map, Option.map_map]
              rfl
      | false =>
          rw [closing] at sameClosing
          rw [splitBody_cons_of_other sameClosing,
            splitBody_cons_of_other closing, opensBlock_trim,
            inductionHypothesis, Option.map_map, Option.map_map]
          rfl

theorem takeBody?_trimmed (cursor : Cursor) :
    cursor.trimmed.takeBody? =
      cursor.takeBody?.map fun (body, rest) =>
        (body.trimmed, rest.trimmed) := by
  unfold takeBody? trimmed
  dsimp only
  rw [splitBody_trimmed]
  cases splitBody 0 cursor.remaining with
  | none => rfl
  | some parts =>
      obtain ⟨body, after⟩ := parts
      simp only [Option.map_some, List.length_map]

end Cursor

/-! ## Documents but for their texts -/

namespace Node

/-- Whether a node is a raw or a verbatim block. -/
def isPassage : Node → Bool
  | passage _ _ _ _ => true
  | _ => false

mutual

/-- The node, with the texts of raw and verbatim blocks left out. -/
def withoutText : Node → Node
  | passage line head form _ => passage line head form ""
  | markup line head body => markup line head (withoutTextAll body)
  | inline line element => inline line element
  | nesting line chain => nesting line chain
  | siblings line parent others => siblings line parent others

def withoutTextAll : List Node → List Node
  | [] => []
  | node :: rest => node.withoutText :: withoutTextAll rest

end

mutual

theorem withoutText_eq_self : ∀ node : Node,
    (∀ inner ∈ node.preorder, inner.isPassage = false) →
      node.withoutText = node
  | .passage line head form text, noPassage => by
      have outer := noPassage _ (self_mem_preorder _)
      contradiction
  | .markup line head body, noPassage => by
      rw [preorder, List.forall_mem_cons] at noPassage
      rw [withoutText, withoutTextAll_eq_self body noPassage.2]
  | .inline line element, _ => by rw [withoutText]
  | .nesting line chain, _ => by rw [withoutText]
  | .siblings line parent others, _ => by rw [withoutText]

theorem withoutTextAll_eq_self : ∀ nodes : List Node,
    (∀ inner ∈ preorderAll nodes, inner.isPassage = false) →
      withoutTextAll nodes = nodes
  | [], _ => by rw [withoutTextAll]
  | node :: rest, noPassage => by
      rw [preorderAll, List.forall_mem_append] at noPassage
      rw [withoutTextAll, withoutText_eq_self node noPassage.1,
        withoutTextAll_eq_self rest noPassage.2]

end

mutual

theorem preorder_withoutText : ∀ node : Node,
    node.withoutText.preorder.map isPassage = node.preorder.map isPassage
  | .passage line head form text => by
      simp only [withoutText, preorder, List.map_cons, isPassage]
  | .markup line head body => by
      rw [withoutText, preorder, preorder, List.map_cons, List.map_cons,
        preorderAll_withoutText body]
      rfl
  | .inline line element => by rw [withoutText]
  | .nesting line chain => by rw [withoutText]
  | .siblings line parent others => by rw [withoutText]

theorem preorderAll_withoutText : ∀ nodes : List Node,
    (preorderAll (withoutTextAll nodes)).map isPassage =
      (preorderAll nodes).map isPassage
  | [] => by rw [withoutTextAll]
  | node :: rest => by
      rw [withoutTextAll, preorderAll, preorderAll, List.map_append,
        List.map_append, preorder_withoutText node,
        preorderAll_withoutText rest]

end

/-- Documents that are the same but for texts are the same if there are no
texts. -/
theorem eq_of_withoutTextAll_eq {nodes others : List Node}
    (same : withoutTextAll nodes = withoutTextAll others)
    (noPassage : ∀ node ∈ preorderAll nodes, node.isPassage = false) :
    nodes = others := by
  have sameKinds : (preorderAll nodes).map isPassage =
      (preorderAll others).map isPassage := by
    rw [← preorderAll_withoutText nodes, same, preorderAll_withoutText others]
  have otherNoPassage :
      ∀ node ∈ preorderAll others, node.isPassage = false := by
    intro node member
    have listed : node.isPassage ∈ (preorderAll nodes).map isPassage := by
      rw [sameKinds]
      exact List.mem_map_of_mem member
    obtain ⟨original, inNodes, sameKind⟩ := List.mem_map.mp listed
    rw [← sameKind]
    exact noPassage original inNodes
  calc
    nodes = withoutTextAll nodes := (withoutTextAll_eq_self nodes noPassage).symm
    _ = withoutTextAll others := same
    _ = others := withoutTextAll_eq_self others otherNoPassage

end Node

/-! ## Scopes -/

/-- The same reports, and the same nodes but for the texts of raw and verbatim
blocks. -/
structure Parsed.SameButText (first second : Parsed) : Prop where
  diagnostics : first.diagnostics = second.diagnostics
  document :
    Node.withoutTextAll first.document = Node.withoutTextAll second.document

/-- Trimmed lines are read alike, and so are the bodies of blocks. -/
theorem Cursor.trimmed_invariant (options : Options) :
    Invariant options
      (fun depth cursor parsed =>
        (cursor.trimmed.parse options depth).SameButText parsed)
      (fun depth number head body read =>
        (parseBlock options depth number head body.trimmed).1.withoutText =
            read.1.withoutText ∧
          (parseBlock options depth number head body.trimmed).2 =
            read.2) where
  nothing found := by
    rw [parse_of_nothing (next_trimmed found)]
    exact ⟨rfl, rfl⟩
  comment found := by
    rw [parse_of_unclosedComment (next_trimmed found)]
    exact ⟨rfl, rfl⟩
  unclosed {depth cursor after line head} found opener missing := by
    have trimmedMissing : after.trimmed.takeBody? = none := by
      rw [takeBody?_trimmed, missing]
      rfl
    rw [parse_of_unclosedBlock (next_trimmed found) opener trimmedMissing]
    exact ⟨rfl, rfl⟩
  closed {depth cursor after body rest line head} found opener taken sameBlock
      sameRest := by
    have trimmedTaken :
        after.trimmed.takeBody? = some (body.trimmed, rest.trimmed) := by
      rw [takeBody?_trimmed, taken]
      rfl
    rw [parse_of_block (next_trimmed found) opener trimmedTaken]
    constructor
    · rw [sameBlock.2, sameRest.diagnostics]
    · rw [Node.withoutTextAll, Node.withoutTextAll, sameBlock.1,
        sameRest.document]
  closing found notOpener isClosing sameRest := by
    rw [parse_of_closing (next_trimmed found) notOpener isClosing]
    exact sameRest
  line found notOpener notClosing sameRest := by
    rw [parse_of_line (next_trimmed found) notOpener notClosing]
    constructor
    · rw [sameRest.diagnostics]
    · rw [Node.withoutTextAll, Node.withoutTextAll, sameRest.document]
  verbatim isVerbatim := by
    rw [parseBlock_of_isVerbatim isVerbatim]
    exact ⟨rfl, rfl⟩
  raw isRaw := by
    rw [parseBlock_of_isRaw isRaw]
    exact ⟨rfl, rfl⟩
  deep notVerbatim notRaw tooDeep := by
    rw [parseBlock_of_tooDeep notVerbatim notRaw tooDeep]
    exact ⟨rfl, rfl⟩
  markup notVerbatim notRaw shallow sameBody := by
    rw [parseBlock_of_markup notVerbatim notRaw shallow]
    constructor
    · rw [Node.withoutText, Node.withoutText, sameBody.document]
    · exact sameBody.diagnostics

/-! ## Sources -/

/-- The lines of two sources are the same but for the blanks around them. -/
def Alike (source other : String) : Prop :=
  List.Forall₂ (fun line otherLine => Text.trim line = Text.trim otherLine)
    (sourceLines source.toList) (sourceLines other.toList)

theorem Alike.parse {source other : String} (alike : Alike source other)
    (options : Options) :
    (Document.parse options source).SameButText
      (Document.parse options other) := by
  have sameLines :
      Cursor.trimmed ⟨1, sourceLines source.toList⟩ =
        Cursor.trimmed ⟨1, sourceLines other.toList⟩ := by
    rw [Cursor.trimmed, Cursor.trimmed, Cursor.mk.injEq]
    refine ⟨rfl, ?_⟩
    rw [← List.forall₂_eq_eq_eq, List.forall₂_map_left_iff,
      List.forall₂_map_right_iff]
    exact alike
  have first := (Cursor.trimmed_invariant options).parsed 0
    ⟨1, sourceLines source.toList⟩
  have second := (Cursor.trimmed_invariant options).parsed 0
    ⟨1, sourceLines other.toList⟩
  rw [sameLines] at first
  exact ⟨first.diagnostics.symm.trans second.diagnostics,
    first.document.symm.trans second.document⟩

def withReturns (source : String) : String :=
  String.ofList
    (source.toList.flatMap fun character =>
      if character = '\n' then ['\r', '\n'] else [character])

/-- The stretches between the line feeds stay the same but for a carriage
return at the end. -/
theorem Line.stretches_withReturns (text : List Char) :
    List.Forall₂
      (fun line returned => returned = line ∨ returned = line ++ ['\r'])
      (stretches text)
      (stretches (text.flatMap fun character =>
        if character = '\n' then ['\r', '\n'] else [character])) := by
  induction text with
  | nil => exact .cons (.inl rfl) .nil
  | cons character rest inductionHypothesis =>
      unfold stretches at inductionHypothesis ⊢
      rw [List.flatMap_cons, split_cons]
      by_cases isFeed : character = '\n'
      · rw [if_pos isFeed, if_pos isFeed, List.cons_append,
          List.singleton_append, split_cons, split_cons, if_pos rfl,
          if_neg (by decide)]
        exact .cons (.inr rfl) inductionHypothesis
      · rw [if_neg isFeed, if_neg isFeed, List.singleton_append, split_cons,
          if_neg isFeed]
        cases inductionHypothesis with
        | cons sameFirst sameOthers =>
            refine .cons ?_ sameOthers
            rcases sameFirst with same | returned
            · exact .inl (by rw [same])
            · exact .inr (by rw [returned, List.cons_append])

theorem Line.trim_concat_return (line : Line) :
    Text.trim (line ++ ['\r']) = Text.trim line := by
  apply Text.trim_append_blank
  intro character member
  rw [List.mem_singleton.mp member]
  decide

theorem Line.trim_dropReturn (line : Line) :
    Text.trim (dropReturn line) = Text.trim line := by
  rcases eq_dropReturn_or line with returned | same
  · have trimmed := trim_concat_return (dropReturn line)
    rw [← returned] at trimmed
    exact trimmed.symm
  · rw [← same]

theorem alike_withReturns (source : String) :
    Alike source (withReturns source) := by
  rw [Alike, withReturns, String.toList_ofList, sourceLines_eq, sourceLines_eq,
    List.forall₂_map_left_iff, List.forall₂_map_right_iff]
  refine (Line.stretches_withReturns source.toList).imp ?_
  intro line returned same
  rw [Line.trim_dropReturn, Line.trim_dropReturn]
  rcases same with rfl | rfl
  · rfl
  · exact (Line.trim_concat_return line).symm

/-- Blanks around lines do not matter outside of raw and verbatim blocks:
sources whose lines are alike are read with the same reports and into the same
nodes but for the texts of such blocks, and they compile to the same if there
are none. Carriage returns before the line feeds are such blanks. -/
theorem compile_alike (options : Options) :
    (∀ source other : String, Alike source other →
      (Document.parse options source).diagnostics =
          (Document.parse options other).diagnostics ∧
        Node.withoutTextAll (Document.parse options source).document =
          Node.withoutTextAll (Document.parse options other).document ∧
        ((∀ node ∈ Node.preorderAll (Document.parse options source).document,
            node.isPassage = false) →
          ∀ evaluator : Evaluator,
            compile options evaluator source =
              compile options evaluator other)) ∧
    ∀ source : String, Alike source (withReturns source) := by
  refine ⟨?_, alike_withReturns⟩
  intro source other alike
  obtain ⟨sameReports, sameNodes⟩ := alike.parse options
  refine ⟨sameReports, sameNodes, ?_⟩
  intro noPassage evaluator
  have sameDocument := Node.eq_of_withoutTextAll_eq sameNodes noPassage
  rw [compile, compile, sameDocument, sameReports]

/-- A block with other blanks around each of its lines, one of them with a
comment. -/
theorem compile_alike_block :
    let options : Options := {}
    let source := "div\\\x7b\n  p\x7ba\x7d # b\n\\\x7d"
    let other := "  div\\\x7b \r\np\x7ba\x7d # b\t\r\n\t\\\x7d"
    (compile options .unavailable source).html =
        "<div>\n<p>a</p>\n</div>\n" ∧
      compile options .unavailable source =
        compile options .unavailable other := by
  intro options source other
  refine ⟨by decide +kernel, ?_⟩
  have alike : Alike source other := by
    unfold Alike
    decide +kernel
  have noPassage :
      ∀ node ∈ Node.preorderAll (Document.parse options source).document,
        node.isPassage = false := by
    decide +kernel
  exact ((compile_alike options).1 source other alike).2.2 noPassage
    .unavailable

end TerseMarkup
