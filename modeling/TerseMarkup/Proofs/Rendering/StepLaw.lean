import TerseMarkup.Proofs.Rendering.Spending

/-!
# Laws of rendering steps

What is rendered on a line is put together from charges and from reports on
repeat counts. A law that these obey, and that steps one after the other obey
if each of them does, is obeyed by every chain of the line, and by every node
if it is a law on every line.
-/

namespace TerseMarkup

namespace Render

/-- The single steps on a line obey the law, and so do steps one after the
other. -/
structure Law (options : Options) (line : Nat)
    (obeys : ∀ {α : Type}, Render α → Prop) : Prop where
  pure : ∀ {α : Type} (value : α), obeys (pure value : Render α)
  bind : ∀ {α β : Type} {first : Render α} {second : α → Render β},
    obeys first → (∀ value, obeys (second value)) → obeys (first >>= second)
  charge : ∀ cost : Nat, obeys (charge line cost)
  report : ∀ element : Element,
    obeys (report (.tooManyCopies element.count element.tag options.maxRepeat
      line))

namespace Law

variable {options : Options} {obeys : ∀ {α : Type}, Render α → Prop}

section Line

variable {line : Nat} (law : Law options line obeys)

include law

theorem chargeCopies {cost : Nat} (positive : 0 < cost) (count : Nat) :
    obeys (Render.chargeCopies line cost count) := by
  induction count with
  | zero =>
      rw [chargeCopies_zero]
      exact law.pure 0
  | succ count inductionHypothesis =>
      rw [chargeCopies_succ positive]
      refine law.bind (law.charge cost) ?_
      intro paid
      cases paid with
      | true => exact law.bind inductionHypothesis fun _ => law.pure _
      | false => exact law.pure 0

theorem element (element : Element) (children : List Fragment) :
    obeys (element.render options line children) := by
  have positive : 0 < 1 + Fragment.sizeAll children := by omega
  refine law.bind ?_ fun count =>
    law.bind (law.chargeCopies positive count) fun _ => law.pure _
  unfold Element.copyCount
  split
  · exact law.pure _
  · exact law.bind (law.report element) fun _ => law.pure _

theorem chain (chain : Chain) : obeys (Chain.render options line chain) := by
  induction chain with
  | nil => exact law.pure []
  | cons link rest inductionHypothesis =>
      cases link with
      | literal text =>
          exact law.bind (law.charge 1) fun _ =>
            law.bind inductionHypothesis fun _ => law.pure _
      | element element =>
          exact law.bind inductionHypothesis fun children =>
            law.element element children

theorem chains (chains : List Chain) :
    obeys (Chain.renderAll options line chains) := by
  induction chains with
  | nil => exact law.pure []
  | cons chain rest inductionHypothesis =>
      exact law.bind (law.chain chain) fun _ =>
        law.bind inductionHypothesis fun _ => law.pure _

theorem siblings (parent : Chain) (others : List Chain) :
    obeys (Chain.renderSiblings options line parent others) :=
  law.bind (law.chain parent) fun _ =>
    law.bind (law.chains others) fun _ => law.pure _

end Line

mutual

theorem node (law : ∀ line, Law options line obeys) : ∀ node : Node,
    obeys (Node.render options node)
  | .passage line _ _ _ =>
      (law line).bind ((law line).charge 1) fun _ => (law line).pure _
  | .markup line _ body => by
      refine (law line).bind ((law line).charge 1) ?_
      intro paid
      cases paid with
      | true => exact (law line).bind (nodes law body) fun _ => (law line).pure _
      | false => exact (law line).pure []
  | .inline line element => (law line).element element []
  | .nesting line chain => (law line).chain chain
  | .siblings line parent others => (law line).siblings parent others

theorem nodes (law : ∀ line, Law options line obeys) : ∀ nodes : List Node,
    obeys (Node.renderAll options nodes)
  | [] => (law 0).pure []
  | node :: rest =>
      (law 0).bind (Law.node law node) fun _ =>
        (law 0).bind (nodes law rest) fun _ => (law 0).pure _

end

end Law

end Render

end TerseMarkup
