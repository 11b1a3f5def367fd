import TerseMarkup.Proofs.Document.Steps
import TerseMarkup.Proofs.Rendering.Expansion

/-!
# Lines further down

Numbers only tell lines apart. Reading the same lines further down in a source
gives the same nodes and reports, with the numbers further down by as much at
every depth, and what the nodes come to does not depend on their numbers.
-/

namespace TerseMarkup

def Diagnostic.shift (offset : Nat) (diagnostic : Diagnostic) : Diagnostic :=
  { diagnostic with line := diagnostic.line.map (· + offset) }

namespace Node

mutual

/-- The node, with all lines `offset` lines further down. -/
def shift (offset : Nat) : Node → Node
  | passage line head form text => passage (line + offset) head form text
  | markup line head body =>
      markup (line + offset) head (shiftAll offset body)
  | inline line element => inline (line + offset) element
  | nesting line chain => nesting (line + offset) chain
  | siblings line parent others => siblings (line + offset) parent others

def shiftAll (offset : Nat) : List Node → List Node
  | [] => []
  | node :: rest => node.shift offset :: shiftAll offset rest

end

theorem shiftAll_eq_map (offset : Nat) (nodes : List Node) :
    shiftAll offset nodes = nodes.map (shift offset) := by
  induction nodes with
  | nil => rfl
  | cons node rest inductionHypothesis =>
      rw [shiftAll, inductionHypothesis, List.map_cons]

end Node

def Parsed.shift (offset : Nat) (parsed : Parsed) : Parsed where
  document := Node.shiftAll offset parsed.document
  diagnostics := parsed.diagnostics.map (Diagnostic.shift offset)

/-! ## Cursors -/

namespace Cursor

def shift (offset : Nat) (cursor : Cursor) : Cursor :=
  ⟨cursor.number + offset, cursor.remaining⟩

def Found.shift (offset : Nat) : Found → Found
  | .line found => .line ⟨found.number + offset, found.text⟩
  | .unclosedComment opener => .unclosedComment (opener + offset)
  | .nothing => .nothing

theorem nextFrom_shift (offset number : Nat) (opened : Option Nat)
    (lines : List Line) :
    nextFrom (number + offset) (opened.map (· + offset)) lines =
      ((nextFrom number opened lines).1.shift offset,
        (nextFrom number opened lines).2.shift offset) := by
  induction lines generalizing number opened with
  | nil => cases opened <;> rfl
  | cons line rest inductionHypothesis =>
      have next : number + offset + 1 = number + 1 + offset :=
        Nat.add_right_comm _ _ _
      cases opened with
      | some opener =>
          rw [Option.map_some, nextFrom, nextFrom, next]
          by_cases closing : closesComment line = true
          · simp only [closing, if_true]
            exact inductionHypothesis (number + 1) none
          · simp only [closing, if_false, Bool.false_eq_true]
            exact inductionHypothesis (number + 1) (some opener)
      | none =>
          rw [Option.map_none, nextFrom, nextFrom, next]
          by_cases opening : opensComment line = true
          · simp only [opening, if_true]
            exact inductionHypothesis (number + 1) (some number)
          · simp only [opening, if_false, Bool.false_eq_true]
            by_cases empty : Comment.strip (Text.trim line) = []
            · simp only [empty, if_true]
              exact inductionHypothesis (number + 1) none
            · simp only [empty, if_false]
              rfl

theorem next_shift (offset : Nat) {cursor after : Cursor} {result : Found}
    (found : cursor.next = (result, after)) :
    (cursor.shift offset).next = (result.shift offset, after.shift offset) := by
  have shifted := nextFrom_shift offset cursor.number none cursor.remaining
  rw [Cursor.next] at found
  rw [found] at shifted
  exact shifted

theorem takeBody?_shift (offset : Nat) (cursor : Cursor) :
    (cursor.shift offset).takeBody? =
      cursor.takeBody?.map fun (body, rest) =>
        (body.shift offset, rest.shift offset) := by
  unfold takeBody? shift
  dsimp only
  cases splitBody 0 cursor.remaining with
  | none => rfl
  | some parts =>
      obtain ⟨body, after⟩ := parts
      simp only [Option.map_some, Option.some.injEq, Prod.mk.injEq, mk.injEq,
        true_and, and_true]
      omega

end Cursor

/-! ## The nodes of lines -/

theorem Link.ofToken_shift (offset line : Nat) (token : Line) :
    Link.ofToken (line + offset) token =
      ((Link.ofToken line token).1,
        (Link.ofToken line token).2.map (Diagnostic.shift offset)) := by
  unfold Link.ofToken
  cases Element.read? token with
  | none => rfl
  | some described => rfl

theorem Chain.ofTokens_shift (offset line : Nat) (tokens : List Line) :
    Chain.ofTokens (line + offset) tokens =
      ((Chain.ofTokens line tokens).1,
        (Chain.ofTokens line tokens).2.map (Diagnostic.shift offset)) := by
  simp only [Chain.ofTokens, List.map_map, List.flatMap_map, List.map_flatMap,
    Function.comp_def, Link.ofToken_shift]

theorem Node.ofLine_shift (offset : Nat) (line : SignificantLine) :
    Node.ofLine ⟨line.number + offset, line.text⟩ =
      ((Node.ofLine line).1.shift offset,
        (Node.ofLine line).2.map (Diagnostic.shift offset)) := by
  unfold Node.ofLine
  cases Element.read? line.text with
  | some element => rfl
  | none =>
      have tokens : SignificantLine.tokens
          ⟨line.number + offset, line.text⟩ = line.tokens := rfl
      simp only [tokens, List.map_map, List.flatMap_map, Function.comp_def,
        Chain.ofTokens_shift, ← List.map_flatMap]
      split <;> rfl

/-! ## Scopes -/

namespace Cursor

/-- Lines are read alike wherever they stand, and so are the bodies of
blocks. -/
theorem shift_invariant (options : Options) (offset : Nat) :
    Invariant options
      (fun depth cursor parsed =>
        (cursor.shift offset).parse options depth = parsed.shift offset)
      (fun depth line head body read =>
        parseBlock options depth (line + offset) head (body.shift offset) =
          (read.1.shift offset, read.2.map (Diagnostic.shift offset))) where
  nothing found := parse_of_nothing (next_shift offset found)
  comment found := parse_of_unclosedComment (next_shift offset found)
  unclosed found opener missing := by
    refine parse_of_unclosedBlock (next_shift offset found) opener ?_
    rw [takeBody?_shift, missing]
    rfl
  closed {depth cursor after body rest line head} found opener taken sameBlock
      sameRest := by
    have shiftedTaken : (after.shift offset).takeBody? =
        some (body.shift offset, rest.shift offset) := by
      rw [takeBody?_shift, taken]
      rfl
    rw [parse_of_block (next_shift offset found) opener shiftedTaken,
      sameBlock, sameRest]
    simp only [Parsed.shift, Node.shiftAll, List.map_append]
  closing found notOpener closing sameRest := by
    rw [parse_of_closing (next_shift offset found) notOpener closing, sameRest]
  line found notOpener notClosing sameRest := by
    rw [parse_of_line (next_shift offset found) notOpener notClosing,
      Node.ofLine_shift, sameRest]
    simp only [Parsed.shift, Node.shiftAll, List.map_append]
  verbatim isVerbatim := parseBlock_of_isVerbatim isVerbatim
  raw isRaw := parseBlock_of_isRaw isRaw
  deep notVerbatim notRaw tooDeep :=
    parseBlock_of_tooDeep notVerbatim notRaw tooDeep
  markup notVerbatim notRaw shallow sameBody := by
    rw [parseBlock_of_markup notVerbatim notRaw shallow, sameBody]
    rfl

theorem parse_shift (options : Options) (offset depth : Nat)
    (cursor : Cursor) :
    (cursor.shift offset).parse options depth =
      (cursor.parse options depth).shift offset :=
  (shift_invariant options offset).parsed depth cursor

end Cursor

/-! ## What nodes come to -/

namespace Node

mutual

theorem expansion_shift (options : Options) (offset : Nat) : ∀ node : Node,
    (node.shift offset).expansion options = node.expansion options
  | .passage _ _ form _ => by
      cases form with
      | raw => rfl
      | verbatim => rfl
  | .markup _ head body => by
      rw [shift, expansion, expansion, expansionAll_shift options offset body]
  | .inline _ element => rfl
  | .nesting _ chain => rfl
  | .siblings _ parent others => rfl

theorem expansionAll_shift (options : Options) (offset : Nat) :
    ∀ nodes : List Node,
    expansionAll options (shiftAll offset nodes) = expansionAll options nodes
  | [] => rfl
  | node :: rest => by
      rw [shiftAll, expansionAll, expansionAll,
        expansion_shift options offset node,
        expansionAll_shift options offset rest]

end

mutual

theorem demand_shift (options : Options) (offset : Nat) : ∀ node : Node,
    (node.shift offset).demand options = node.demand options
  | .passage _ _ _ _ => rfl
  | .markup _ head body => by
      rw [shift, demand, demand, demandAll_shift options offset body]
  | .inline _ element => rfl
  | .nesting _ chain => rfl
  | .siblings _ parent others => rfl

theorem demandAll_shift (options : Options) (offset : Nat) :
    ∀ nodes : List Node,
    demandAll options (shiftAll offset nodes) = demandAll options nodes
  | [] => rfl
  | node :: rest => by
      rw [shiftAll, demandAll, demandAll, demand_shift options offset node,
        demandAll_shift options offset rest]

end

end Node

end TerseMarkup
