import Mathlib.Algebra.GroupWithZero.Nat
import TerseMarkup.Rendering.Document

/-!
# Rendering without a budget

What elements, chains and nodes come to when every node of them may be
rendered, the number of nodes that they ask a budget for, and the reports on
their repeat counts. None of the three looks at a budget.
-/

namespace TerseMarkup

namespace Element

def allowedCopies (options : Options) (element : Element) : Nat :=
  min element.count options.maxRepeat

/-- All the copies of an element, each with the same fragments inside. -/
def expansion
    (options : Options) (element : Element) (children : List Fragment) :
    List Fragment :=
  (List.range' 1 (element.allowedCopies options)).flatMap
    (element.copyAt children)

def demand
    (options : Options) (element : Element) (children : List Fragment) : Nat :=
  element.allowedCopies options * (1 + Fragment.sizeAll children)

def countReports
    (options : Options) (line : Nat) (element : Element) : List Diagnostic :=
  if element.count ≤ options.maxRepeat then []
  else
    [(Fault.tooManyCopies element.count element.tag options.maxRepeat
      line).diagnostic]

end Element

namespace Chain

def expansion (options : Options) : Chain → List Fragment
  | [] => []
  | .literal text :: rest =>
      .text (Html.escape text) :: expansion options rest
  | .element element :: rest =>
      element.expansion options (expansion options rest)

/-- The number of nodes that a chain asks for: every link asks for its own
after those of the rest of the chain. -/
def demand (options : Options) : Chain → Nat
  | [] => 0
  | .literal _ :: rest => 1 + demand options rest
  | .element element :: rest =>
      demand options rest + element.demand options (expansion options rest)

/-- The reports on the repeat counts of a chain, innermost first. -/
def countReports (options : Options) (line : Nat) :
    Chain → List Diagnostic
  | [] => []
  | .literal _ :: rest => countReports options line rest
  | .element element :: rest =>
      countReports options line rest ++ element.countReports options line

def siblingsExpansion
    (options : Options) (parent : Chain) (others : List Chain) :
    List Fragment :=
  let outer := parent.expansion options
  let inserted := others.flatMap (expansion options)
  if parent.encloses then Fragment.insertLast outer inserted
  else outer ++ inserted

end Chain

namespace Node

mutual

def expansion (options : Options) : Node → List Fragment
  | .passage _ _ .raw text => [.markup (Html.escape text)]
  | .passage _ head .verbatim text =>
      [.passage head.tag head.headAttributes text]
  | .markup _ head body =>
      [.block head.tag head.headAttributes (expansionAll options body)]
  | .inline _ element => element.expansion options []
  | .nesting _ chain => chain.expansion options
  | .siblings _ parent others => parent.siblingsExpansion options others

def expansionAll (options : Options) : List Node → List Fragment
  | [] => []
  | node :: rest => node.expansion options ++ expansionAll options rest

end

mutual

/-- The number of nodes that a node asks for. A block asks for one besides
what its body asks for. -/
def demand (options : Options) : Node → Nat
  | .passage _ _ _ _ => 1
  | .markup _ _ body => 1 + demandAll options body
  | .inline _ element => element.demand options []
  | .nesting _ chain => chain.demand options
  | .siblings _ parent others =>
      parent.demand options + (others.map (Chain.demand options)).sum

def demandAll (options : Options) : List Node → Nat
  | [] => 0
  | node :: rest => node.demand options + demandAll options rest

end

mutual

def countReports (options : Options) : Node → List Diagnostic
  | .passage _ _ _ _ => []
  | .markup _ _ body => countReportsAll options body
  | .inline line element => element.countReports options line
  | .nesting line chain => chain.countReports options line
  | .siblings line parent others =>
      parent.countReports options line ++
        others.flatMap (Chain.countReports options line)

def countReportsAll (options : Options) : List Node → List Diagnostic
  | [] => []
  | node :: rest =>
      node.countReports options ++ countReportsAll options rest

end

theorem expansionAll_append (options : Options) (first second : List Node) :
    expansionAll options (first ++ second) =
      expansionAll options first ++ expansionAll options second := by
  induction first with
  | nil => rfl
  | cons node rest inductionHypothesis =>
      rw [List.cons_append, expansionAll, expansionAll, inductionHypothesis,
        List.append_assoc]

theorem demandAll_append (options : Options) (first second : List Node) :
    demandAll options (first ++ second) =
      demandAll options first + demandAll options second := by
  induction first with
  | nil => rw [List.nil_append, demandAll, Nat.zero_add]
  | cons node rest inductionHypothesis =>
      rw [List.cons_append, demandAll, demandAll, inductionHypothesis,
        Nat.add_assoc]

end Node

def Document.demand (options : Options) (document : Document) : Nat :=
  Node.demandAll options document

end TerseMarkup
