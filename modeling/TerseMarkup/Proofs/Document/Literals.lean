import TerseMarkup.Proofs.Document.JoinedLine

/-!
# Tokens that are kept as text

A token that is no element is kept in the document as text and reported. Of
the reports on a source, those of kind `grammar` are the ones on the tokens
that the document keeps, in the order in which they stand in it: none is kept
without a report, and none is reported without being kept.
-/

namespace TerseMarkup

/-- The report on a link, if it is a token that is kept as text. -/
def Link.report? (line : Nat) : Link → Option Diagnostic
  | element _ => none
  | literal text =>
      some
        { line := some line
          message := "Invalid syntax near \"" ++ text ++ "\"."
          kind := .grammar }

/-- The reports on the links of a node, chain by chain, but not on those of
the nodes inside of it. -/
def Node.literalReports (node : Node) : List Diagnostic :=
  node.chains.flatten.filterMap (Link.report? node.line)

/-! ## The reports on a line -/

theorem Link.reports_ofToken (line : Nat) (token : Line) :
    (Link.ofToken line token).2 =
      ((Link.ofToken line token).1.report? line).toList := by
  unfold Link.ofToken
  cases Element.read? token with
  | none => rfl
  | some described => rfl

theorem Chain.reports_ofTokens (line : Nat) (tokens : List Line) :
    (Chain.ofTokens line tokens).2 =
      (Chain.ofTokens line tokens).1.filterMap (Link.report? line) := by
  simp only [Chain.ofTokens]
  induction tokens with
  | nil => rfl
  | cons token rest inductionHypothesis =>
      rw [List.map_cons, List.flatMap_cons, List.map_cons,
        inductionHypothesis, Link.reports_ofToken]
      cases reported : (Link.ofToken line token).1.report? line with
      | none => rw [List.filterMap_cons_none reported]; rfl
      | some report => rw [List.filterMap_cons_some reported]; rfl

namespace Node

theorem reports_ofLine_eq (line : SignificantLine) :
    (ofLine line).2 = (ofLine line).1.literalReports := by
  cases read : Element.read? line.text with
  | some element =>
      unfold ofLine
      rw [read]
      rfl
  | none =>
      rw [reports_ofLine read, literalReports, chains_ofLine read,
        line_ofLine, List.filterMap_flatten, List.flatMap_def, List.map_map,
        List.map_map, List.map_map]
      congr 1
      apply List.map_congr_left
      intro tokens _
      exact Chain.reports_ofTokens line.number tokens

theorem kind_of_mem_literalReports {node : Node} {diagnostic : Diagnostic}
    (member : diagnostic ∈ node.literalReports) :
    diagnostic.kind = .grammar := by
  obtain ⟨link, _, reported⟩ := List.mem_filterMap.mp member
  cases link with
  | element _ => contradiction
  | literal text =>
      rw [← Option.some.inj reported]

theorem line_of_mem_literalReports {node : Node} {diagnostic : Diagnostic}
    (member : diagnostic ∈ node.literalReports) :
    diagnostic.line = some node.line := by
  obtain ⟨link, _, reported⟩ := List.mem_filterMap.mp member
  cases link with
  | element _ => contradiction
  | literal text =>
      rw [← Option.some.inj reported]

end Node

/-! ## The reports on a source -/

def grammarReports (diagnostics : List Diagnostic) : List Diagnostic :=
  diagnostics.filter (·.kind = .grammar)

theorem grammarReports_append (first second : List Diagnostic) :
    grammarReports (first ++ second) =
      grammarReports first ++ grammarReports second :=
  List.filter_append first second

theorem grammarReports_literalReports (node : Node) :
    grammarReports node.literalReports = node.literalReports := by
  rw [grammarReports, List.filter_eq_self]
  intro diagnostic member
  exact decide_eq_true (Node.kind_of_mem_literalReports member)

/-- What is reported of kind `grammar` is what the nodes keep as text, of the
lines of a scope and of a block. -/
theorem Cursor.grammarReports_invariant (options : Options) :
    Invariant options
      (fun _ _ parsed => grammarReports parsed.diagnostics =
        (Node.preorderAll parsed.document).flatMap Node.literalReports)
      (fun _ _ _ _ read => grammarReports read.2 =
        read.1.preorder.flatMap Node.literalReports) where
  nothing _ := rfl
  comment _ := rfl
  unclosed _ _ _ := rfl
  closed _ _ _ blockReports restReports := by
    rw [grammarReports_append, blockReports, restReports, Node.preorderAll,
      List.flatMap_append]
  closing _ _ _ restReports := restReports
  line _ _ _ restReports := by
    rw [grammarReports_append, Node.reports_ofLine_eq,
      grammarReports_literalReports, restReports, Node.preorderAll,
      Node.preorder_ofLine, List.singleton_append, List.flatMap_cons]
  verbatim _ := rfl
  raw _ := rfl
  deep _ _ _ := rfl
  markup _ _ _ bodyReports := by
    rw [Node.preorder, List.flatMap_cons, bodyReports]
    rfl

/-- The reports of kind `grammar` on a source are those on the tokens that
its document keeps as text, in the order of the document: a block before what
is inside of it, the chains of a line from left to right. -/
theorem Document.parse_literals (options : Options) (source : String) :
    (Document.parse options source).diagnostics.filter
        (·.kind = .grammar) =
      (Node.preorderAll (Document.parse options source).document).flatMap
        Node.literalReports :=
  (Cursor.grammarReports_invariant options).parsed 0
    ⟨1, sourceLines source.toList⟩

end TerseMarkup
