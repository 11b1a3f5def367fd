import TerseMarkup.Compilation
import TerseMarkup.Proofs.Rendering.LimitReports
import TerseMarkup.Proofs.Rendering.Spending

/-!
# Limits that are not reached

A limit never cuts anything off without a report of kind `limit`. Where no
such report is made, the limits might as well not be there: with larger ones
the same comes out. This is shown of reading, where blocks may be too deep, of
rendering, where repeat counts and the number of nodes may be too large, and
then of compiling.
-/

namespace TerseMarkup

/-- `options.Within larger` says that no limit of `options` is above that of
`larger`, and that the two are the same otherwise. -/
structure Options.Within (options larger : Options) : Prop where
  copies : options.maxRepeat ≤ larger.maxRepeat
  depth : options.maxBlockDepth ≤ larger.maxBlockDepth
  elements : options.maxElements ≤ larger.maxElements
  marker : larger.errorMarker = options.errorMarker

def NoLimits (diagnostics : List Diagnostic) : Prop :=
  ∀ diagnostic ∈ diagnostics, diagnostic.kind ≠ .limit

theorem noLimits_append {first second : List Diagnostic} :
    NoLimits (first ++ second) ↔ NoLimits first ∧ NoLimits second := by
  simp only [NoLimits, List.mem_append, or_imp, forall_and]

theorem eq_nil_of_noLimits {diagnostics : List Diagnostic}
    (noLimits : NoLimits diagnostics)
    (onlyLimits : ∀ diagnostic ∈ diagnostics, diagnostic.kind = .limit) :
    diagnostics = [] := by
  rw [List.eq_nil_iff_forall_not_mem]
  intro diagnostic member
  exact noLimits diagnostic member (onlyLimits diagnostic member)

/-! ## Reading -/

namespace Cursor

variable {options larger : Options}

/-- Reading does not depend on a depth that is not reached, neither the lines
of a scope nor the body of a block: where no limit is reported, the same comes
out wherever at least as many further blocks may be opened. -/
theorem room_invariant :
    Invariant options
      (fun depth cursor parsed => ∀ outer,
        options.maxBlockDepth + outer ≤ larger.maxBlockDepth + depth →
        NoLimits parsed.diagnostics → cursor.parse larger outer = parsed)
      (fun depth line head body read => ∀ outer,
        options.maxBlockDepth + outer ≤ larger.maxBlockDepth + depth →
        NoLimits read.2 → parseBlock larger outer line head body = read) where
  nothing found outer _ _ := parse_of_nothing found
  comment found outer _ _ := parse_of_unclosedComment found
  unclosed found opener missing outer _ _ :=
    parse_of_unclosedBlock found opener missing
  closed found opener taken blockHypothesis restHypothesis outer room
      noLimits := by
    obtain ⟨blockLimits, restLimits⟩ := noLimits_append.mp noLimits
    rw [parse_of_block found opener taken,
      blockHypothesis outer room blockLimits,
      restHypothesis outer room restLimits]
  closing found notOpener closing restHypothesis outer room noLimits := by
    rw [parse_of_closing found notOpener closing]
    exact restHypothesis outer room noLimits
  line found notOpener notClosing restHypothesis outer room noLimits := by
    obtain ⟨_, restLimits⟩ := noLimits_append.mp noLimits
    rw [parse_of_line found notOpener notClosing,
      restHypothesis outer room restLimits]
  verbatim isVerbatim outer _ _ := parseBlock_of_isVerbatim isVerbatim
  raw isRaw outer _ _ := parseBlock_of_isRaw isRaw
  deep _ _ _ outer _ noLimits :=
    absurd rfl (noLimits _ List.mem_cons_self)
  markup notVerbatim notRaw shallow bodyHypothesis outer room noLimits := by
    have outerShallow : ¬ larger.maxBlockDepth < outer + 1 := by omega
    rw [parseBlock_of_markup notVerbatim notRaw outerShallow,
      bodyHypothesis (outer + 1) (by omega) noLimits]

theorem parse_within {depth : Nat} {cursor : Cursor}
    (within : options.Within larger)
    (noLimits : NoLimits (cursor.parse options depth).diagnostics) :
    cursor.parse larger depth = cursor.parse options depth :=
  room_invariant.parsed depth cursor depth
    (Nat.add_le_add_right within.depth depth) noLimits

end Cursor

/-! ## What rendering reports -/

def Render.OnlyLimits {α : Type} (step : Render α) : Prop :=
  ∀ budget : Budget, ∀ diagnostic ∈ (step budget).diagnostics,
    diagnostic.kind = .limit

theorem Node.renderAll_onlyLimits (options : Options) (nodes : List Node) :
    (Node.renderAll options nodes).OnlyLimits := by
  intro budget diagnostic member
  have follows := Node.renderAll_reports options nodes budget
  exact List.mem_singleton.mp (follows.kind_mem diagnostic member)

/-! ## Rendering -/

section Rendering

variable {options larger : Options}

theorem Element.render_within
    (within : options.Within larger) {line : Nat} {element : Element}
    (unreported : element.countReports options line = []) :
    element.allowedCopies larger = element.allowedCopies options ∧
      element.countReports larger line = [] := by
  have small : element.count ≤ options.maxRepeat := by
    unfold countReports at unreported
    split at unreported
    · assumption
    · contradiction
  have smaller : element.count ≤ larger.maxRepeat :=
    Nat.le_trans small within.copies
  constructor
  · rw [allowedCopies, allowedCopies, Nat.min_eq_left small,
      Nat.min_eq_left smaller]
  · rw [countReports, if_pos smaller]

theorem Chain.render_within
    (within : options.Within larger) {line : Nat} {chain : Chain}
    (unreported : chain.countReports options line = []) :
    chain.expansion larger = chain.expansion options ∧
      chain.demand larger = chain.demand options ∧
      chain.countReports larger line = [] := by
  induction chain with
  | nil => exact ⟨rfl, rfl, rfl⟩
  | cons link rest inductionHypothesis =>
      cases link with
      | literal text =>
          obtain ⟨sameRest, sameDemand, restReports⟩ :=
            inductionHypothesis unreported
          refine ⟨?_, ?_, restReports⟩
          · rw [Chain.expansion, Chain.expansion, sameRest]
          · rw [Chain.demand, Chain.demand, sameDemand]
      | element element =>
          obtain ⟨restUnreported, elementUnreported⟩ :=
            List.append_eq_nil_iff.mp unreported
          obtain ⟨sameRest, sameDemand, restReports⟩ :=
            inductionHypothesis restUnreported
          obtain ⟨sameCopies, elementReports⟩ :=
            Element.render_within within elementUnreported
          refine ⟨?_, ?_, ?_⟩
          · rw [Chain.expansion, Chain.expansion, Element.expansion,
              Element.expansion, sameRest, sameCopies]
          · rw [Chain.demand, Chain.demand, Element.demand, Element.demand,
              sameDemand, sameRest, sameCopies]
          · rw [Chain.countReports, restReports, elementReports,
              List.nil_append]

theorem Chain.renderAll_within
    (within : options.Within larger) {line : Nat} {chains : List Chain}
    (unreported : chains.flatMap (Chain.countReports options line) = []) :
    chains.flatMap (Chain.expansion larger) =
        chains.flatMap (Chain.expansion options) ∧
      (chains.map (Chain.demand larger)).sum =
        (chains.map (Chain.demand options)).sum ∧
      chains.flatMap (Chain.countReports larger line) = [] := by
  have each (chain : Chain) (member : chain ∈ chains) :=
    Chain.render_within within
      (List.flatMap_eq_nil_iff.mp unreported chain member)
  refine ⟨?_, ?_, ?_⟩
  · rw [List.flatMap_def, List.flatMap_def,
      List.map_congr_left fun chain member => (each chain member).1]
  · rw [List.map_congr_left fun chain member => (each chain member).2.1]
  · exact List.flatMap_eq_nil_iff.mpr fun chain member =>
      (each chain member).2.2

mutual

theorem Node.render_within (within : options.Within larger) :
    ∀ {node : Node},
    node.countReports options = [] →
      node.expansion larger = node.expansion options ∧
        node.demand larger = node.demand options ∧
        node.countReports larger = []
  | .passage _ _ form _, _ => by
      cases form with
      | raw => exact ⟨rfl, rfl, rfl⟩
      | verbatim => exact ⟨rfl, rfl, rfl⟩
  | .markup _ _ body, unreported => by
      rw [Node.countReports] at unreported
      obtain ⟨sameBody, sameDemand, bodyReports⟩ :=
        Node.renderAll_within within unreported
      refine ⟨?_, ?_, bodyReports⟩
      · rw [Node.expansion, Node.expansion, sameBody]
      · rw [Node.demand, Node.demand, sameDemand]
  | .inline _ element, unreported => by
      obtain ⟨sameCopies, reports⟩ := Element.render_within within unreported
      refine ⟨?_, ?_, reports⟩
      · rw [Node.expansion, Node.expansion, Element.expansion,
          Element.expansion, sameCopies]
      · rw [Node.demand, Node.demand, Element.demand, Element.demand,
          sameCopies]
  | .nesting _ chain, unreported => Chain.render_within within unreported
  | .siblings _ parent others, unreported => by
      obtain ⟨parentUnreported, othersUnreported⟩ :=
        List.append_eq_nil_iff.mp unreported
      obtain ⟨sameParent, parentDemand, parentReports⟩ :=
        Chain.render_within within parentUnreported
      obtain ⟨sameOthers, othersDemand, othersReports⟩ :=
        Chain.renderAll_within within othersUnreported
      refine ⟨?_, ?_, ?_⟩
      · rw [Node.expansion, Node.expansion, Chain.siblingsExpansion,
          Chain.siblingsExpansion, sameParent, sameOthers]
      · rw [Node.demand, Node.demand, parentDemand, othersDemand]
      · rw [Node.countReports, parentReports, othersReports,
          List.nil_append]

theorem Node.renderAll_within (within : options.Within larger) :
    ∀ {nodes : List Node},
    Node.countReportsAll options nodes = [] →
      Node.expansionAll larger nodes = Node.expansionAll options nodes ∧
        Node.demandAll larger nodes = Node.demandAll options nodes ∧
        Node.countReportsAll larger nodes = []
  | [], _ => ⟨rfl, rfl, rfl⟩
  | node :: rest, unreported => by
      obtain ⟨nodeUnreported, restUnreported⟩ :=
        List.append_eq_nil_iff.mp unreported
      obtain ⟨sameNode, nodeDemand, nodeReports⟩ :=
        Node.render_within within nodeUnreported
      obtain ⟨sameRest, restDemand, restReports⟩ :=
        Node.renderAll_within within restUnreported
      refine ⟨?_, ?_, ?_⟩
      · rw [Node.expansionAll, Node.expansionAll, sameNode, sameRest]
      · rw [Node.demandAll, Node.demandAll, nodeDemand, restDemand]
      · rw [Node.countReportsAll, nodeReports, restReports, List.nil_append]

end

/-- A document whose rendering reports no limit is rendered in full, and so it
is with larger limits. -/
theorem Document.render_within
    (within : options.Within larger) {document : Document}
    (noLimits : NoLimits (document.render options).2) :
    document.render larger = document.render options := by
  have asks := Node.renderAll_asks options document
  have silent :
      (Node.renderAll options document
        (.full options.maxElements)).diagnostics = [] :=
    eq_nil_of_noLimits noLimits
      (Node.renderAll_onlyLimits options document _)
  have affordable :
      Node.demandAll options document ≤ options.maxElements := by
    refine Nat.le_of_not_lt fun short => ?_
    have reported :=
      (asks.refused (.full options.maxElements) rfl short).2
    rw [silent] at reported
    contradiction
  have run := asks.allowed (.full options.maxElements) rfl affordable
  have unreported : Node.countReportsAll options document = [] := by
    rw [← silent, run]
  obtain ⟨sameExpansion, sameDemand, largerReports⟩ :=
    Node.renderAll_within within unreported
  have largerRun :=
    (Node.renderAll_asks larger document).allowed (.full larger.maxElements)
      rfl (by
        rw [sameDemand]
        exact Nat.le_trans affordable within.elements)
  simp only [Document.render, Document.fragments, run, largerRun,
    sameExpansion, largerReports, unreported]

end Rendering

/-! ## Compiling -/

section Compiling

variable {options larger : Options}

theorem Expression.substituteChars_within
    (within : options.Within larger) (evaluator : Evaluator)
    (text : List Char) :
    substituteChars larger evaluator text =
      substituteChars options evaluator text := by
  have sameReplacement (expression : String) :
      replacement larger evaluator expression =
        replacement options evaluator expression := by
    simp only [replacement, within.marker]
  fun_induction substituteChars options evaluator text with
  | case1 text uncut =>
      unfold substituteChars
      split <;> simp_all
  | case2 text cut found shorter value reports replaced rest later
      substituted inductionHypothesis =>
      unfold substituteChars
      split <;> simp_all

/-- Limits that are not reached are invisible: where compiling a source
reports no limit, it comes to the same HTML and the same reports with any
larger limits. -/
theorem compile_within
    (within : options.Within larger) (evaluator : Evaluator)
    (source : String)
    (noLimits :
      ∀ diagnostic ∈ (compile options evaluator source).diagnostics,
        diagnostic.kind ≠ .limit) :
    compile larger evaluator source = compile options evaluator source := by
  obtain ⟨withoutExpressions, _⟩ := noLimits_append.mp noLimits
  obtain ⟨readLimits, renderLimits⟩ := noLimits_append.mp withoutExpressions
  have sameRead :
      Document.parse larger source = Document.parse options source :=
    Cursor.parse_within within readLimits
  have sameRender :
      (Document.parse options source).document.render larger =
        (Document.parse options source).document.render options :=
    Document.render_within within renderLimits
  have sameSubstitution (html : String) :
      Expression.substitute larger evaluator html =
        Expression.substitute options evaluator html := by
    rw [Expression.substitute, Expression.substitute,
      Expression.substituteChars_within within]
  rw [compile, compile, sameRead, sameRender]
  simp only [sameSubstitution]

theorem compile_within_default :
    let options : Options :=
      { maxRepeat := 2, maxBlockDepth := 1, maxElements := 4 }
    let source := "ul\\\x7b\nli\x7b<$ x $>\x7d*2 + p\n\\\x7d"
    (∀ diagnostic ∈ (compile options .unavailable source).diagnostics,
        diagnostic.kind ≠ .limit) ∧
      compile {} .unavailable source =
        compile options .unavailable source := by
  refine ⟨by decide +kernel, ?_⟩
  apply compile_within
  case within => exact ⟨by decide, by decide, by decide, rfl⟩
  case noLimits => decide +kernel

end Compiling

end TerseMarkup
