import TerseMarkup.Proofs.Rendering.Spending

/-!
# The budget bounds what is rendered

Every node that is rendered is paid for: a step has spent at least as many
nodes as there are in what it comes to, also when the budget is exhausted on
the way. The argument follows the steps with a credit, the number of nodes
that were paid for before and not yet put anywhere.
-/

namespace TerseMarkup

namespace Fragment

mutual

/-- The number of nodes of a fragment, with those in the body of a block. -/
def emitted : Fragment → Nat
  | block _ _ body => 1 + emittedAll body
  | fragment => fragment.size

def emittedAll : List Fragment → Nat
  | [] => 0
  | fragment :: rest => fragment.emitted + emittedAll rest

end

def isBlock : Fragment → Bool
  | block _ _ _ => true
  | _ => false

theorem emitted_eq_size {fragment : Fragment}
    (plain : fragment.isBlock = false) :
    fragment.emitted = fragment.size := by
  cases fragment with
  | block tag attributes body => contradiction
  | _ => simp only [emitted]

theorem emittedAll_eq_sizeAll {fragments : List Fragment}
    (plain : ∀ fragment ∈ fragments, fragment.isBlock = false) :
    emittedAll fragments = sizeAll fragments := by
  induction fragments with
  | nil => simp only [emittedAll, sizeAll]
  | cons fragment rest inductionHypothesis =>
      rw [emittedAll, sizeAll,
        emitted_eq_size (plain fragment List.mem_cons_self),
        inductionHypothesis fun other member =>
          plain other (List.mem_cons_of_mem fragment member)]

theorem emitted_pos (fragment : Fragment) : 0 < fragment.emitted := by
  cases fragment <;> simp only [emitted, size] <;> omega

@[simp] theorem emittedAll_nil : emittedAll [] = 0 := by
  simp only [emittedAll]

theorem emittedAll_append (first second : List Fragment) :
    emittedAll (first ++ second) = emittedAll first + emittedAll second := by
  induction first with
  | nil => simp
  | cons fragment rest inductionHypothesis =>
      rw [List.cons_append, emittedAll, emittedAll, inductionHypothesis,
        Nat.add_assoc]

@[simp] theorem sizeAll_nil : sizeAll [] = 0 := by
  simp only [sizeAll]

theorem sizeAll_append (first second : List Fragment) :
    sizeAll (first ++ second) = sizeAll first + sizeAll second := by
  induction first with
  | nil => simp
  | cons fragment rest inductionHypothesis =>
      rw [List.cons_append, sizeAll, sizeAll, inductionHypothesis,
        Nat.add_assoc]

/-- Putting fragments inside of the last one loses none. -/
theorem sizeAll_insertLast (outer inserted : List Fragment) :
    sizeAll (insertLast outer inserted) = sizeAll outer + sizeAll inserted := by
  unfold insertLast
  split
  · rename_i tag attributes content children isLast
    have shape :
        outer = outer.dropLast ++ [element tag attributes content children] := by
      rw [List.getLast?_eq_some_iff] at isLast
      obtain ⟨before, rfl⟩ := isLast
      rw [List.dropLast_concat]
    conv => rhs; rw [shape]
    simp only [sizeAll_append, sizeAll, size]
    omega
  · exact sizeAll_append outer inserted

theorem isBlock_insertLast {outer inserted : List Fragment}
    (outerPlain : ∀ fragment ∈ outer, fragment.isBlock = false)
    (insertedPlain : ∀ fragment ∈ inserted, fragment.isBlock = false) :
    ∀ fragment ∈ insertLast outer inserted, fragment.isBlock = false := by
  intro fragment member
  unfold insertLast at member
  split at member
  · rcases List.mem_append.mp member with before | last
    · exact outerPlain fragment (List.dropLast_subset outer before)
    · rw [List.mem_singleton] at last
      subst last
      rfl
  · rcases List.mem_append.mp member with before | after
    · exact outerPlain fragment before
    · exact insertedPlain fragment after

end Fragment

/-! ## Credit -/

namespace Render

variable {α β : Type}

/-- `step.Backed credit measure` says that the measure of what the step comes
to is covered by what it pays and by the credit. -/
def Backed (credit : Nat) (measure : α → Nat) (step : Render α) : Prop :=
  ∀ budget : Budget,
    measure (step budget).value + (step budget).budget.remaining ≤
      credit + budget.remaining

protected theorem Backed.pure
    {credit : Nat} {measure : α → Nat} {value : α}
    (covered : measure value ≤ credit) :
    Backed credit measure (pure value) := by
  intro budget
  rw [pure_apply]
  exact Nat.add_le_add_right covered budget.remaining

/-- What the first step has to show for is the credit of the second one. -/
protected theorem Backed.bind
    {credit : Nat} {firstMeasure : α → Nat} {secondMeasure : β → Nat}
    {first : Render α} {second : α → Render β}
    (firstBacked : first.Backed credit firstMeasure)
    (secondBacked :
      ∀ value, (second value).Backed (firstMeasure value) secondMeasure) :
    (first >>= second).Backed credit secondMeasure := by
  intro budget
  rw [bind_apply]
  have before := firstBacked budget
  have after := secondBacked (first budget).value (first budget).budget
  exact Nat.le_trans after before

/-- Credit that a step does not touch is still there afterwards. -/
theorem Backed.frame
    {credit : Nat} {measure : α → Nat} {step : Render α}
    (backed : step.Backed credit measure) (extra : Nat) :
    step.Backed (extra + credit) (fun value => extra + measure value) := by
  intro budget
  have covered := backed budget
  dsimp only
  omega

theorem charge_backed (line cost : Nat) :
    (charge line cost).Backed 0 (fun paid => cond paid cost 0) := by
  intro budget
  unfold charge
  split
  · simp
  · split
    · simp only [cond_true]
      omega
    · simp

theorem chargeCopies_backed (line cost count : Nat) :
    (chargeCopies line cost count).Backed 0 (· * cost) := by
  intro budget
  have affordable :
      min count (budget.remaining / cost) * cost ≤ budget.remaining :=
    Nat.le_trans
      (Nat.mul_le_mul_right cost (Nat.min_le_right _ _))
      (Nat.div_mul_le_self _ _)
  unfold chargeCopies
  split
  · simp
  · dsimp only
    split
    · dsimp only
      omega
    · dsimp only
      omega

end Render

/-! ## Elements and chains -/

namespace Element

theorem sizeAll_copyAt_le
    (element : Element) (children : List Fragment) (index : Nat) :
    Fragment.sizeAll (element.copyAt children index) ≤
      1 + Fragment.sizeAll children := by
  unfold copyAt
  dsimp only
  split
  · split
    · omega
    · simp only [Fragment.sizeAll, Fragment.size]
      omega
  · simp only [Fragment.sizeAll, Fragment.size]
    omega

theorem sizeAll_copies_le
    (element : Element) (children : List Fragment) (indices : List Nat) :
    Fragment.sizeAll (indices.flatMap (element.copyAt children)) ≤
      indices.length * (1 + Fragment.sizeAll children) := by
  induction indices with
  | nil => simp
  | cons index rest inductionHypothesis =>
      have copy := element.sizeAll_copyAt_le children index
      rw [List.flatMap_cons, Fragment.sizeAll_append, List.length_cons,
        Nat.add_one_mul]
      omega

theorem copyCount_backed
    (options : Options) (line : Nat) (element : Element) :
    (element.copyCount options line).Backed 0 (fun _ => 0) := by
  intro budget
  unfold copyCount
  split
  · exact Nat.le_refl _
  · exact Nat.le_refl _

theorem render_backed
    (options : Options) (line : Nat) (element : Element)
    (children : List Fragment) :
    (element.render options line children).Backed 0 Fragment.sizeAll := by
  refine (element.copyCount_backed options line).bind ?_
  intro count
  refine (Render.chargeCopies_backed line _ count).bind ?_
  intro paid
  apply Render.Backed.pure
  simpa using element.sizeAll_copies_le children (List.range' 1 paid)

end Element

namespace Chain

theorem render_backed (options : Options) (line : Nat) (chain : Chain) :
    (Chain.render options line chain).Backed 0 Fragment.sizeAll := by
  induction chain with
  | nil => exact Render.Backed.pure (by simp)
  | cons link rest inductionHypothesis =>
      cases link with
      | literal text =>
          refine (Render.charge_backed line 1).bind ?_
          intro paid
          refine (inductionHypothesis.frame _).bind ?_
          intro after
          apply Render.Backed.pure
          cases paid with
          | true => simp [Fragment.sizeAll, Fragment.size]
          | false => simp
      | element element =>
          refine inductionHypothesis.bind ?_
          intro children budget
          have copies := element.render_backed options line children budget
          omega

theorem renderAll_backed
    (options : Options) (line : Nat) (chains : List Chain) :
    (Chain.renderAll options line chains).Backed 0 Fragment.sizeAll := by
  induction chains with
  | nil => exact Render.Backed.pure (by simp)
  | cons chain rest inductionHypothesis =>
      refine (Chain.render_backed options line chain).bind ?_
      intro first
      refine (inductionHypothesis.frame _).bind ?_
      intro others
      apply Render.Backed.pure
      exact Nat.le_of_eq (Fragment.sizeAll_append _ _)

theorem renderSiblings_backed
    (options : Options) (line : Nat) (parent : Chain) (others : List Chain) :
    (Chain.renderSiblings options line parent others).Backed 0
      Fragment.sizeAll := by
  refine (Chain.render_backed options line parent).bind ?_
  intro outer
  refine ((Chain.renderAll_backed options line others).frame _).bind ?_
  intro inserted
  apply Render.Backed.pure
  split
  · exact Nat.le_of_eq (Fragment.sizeAll_insertLast _ _)
  · exact Nat.le_of_eq (Fragment.sizeAll_append _ _)

theorem isBlock_render
    (options : Options) (line : Nat) (chain : Chain) (budget : Budget) :
    ∀ fragment ∈ (Chain.render options line chain budget).value,
      fragment.isBlock = false :=
  Chain.forall_mem_render (fun made => made.isBlock = false)
    (fun _ => rfl) (fun _ _ _ _ => rfl) options line chain budget

theorem isBlock_renderAll
    (options : Options) (line : Nat) (chains : List Chain) (budget : Budget) :
    ∀ fragment ∈ (Chain.renderAll options line chains budget).value,
      fragment.isBlock = false := by
  induction chains generalizing budget with
  | nil =>
      intro fragment member
      exact absurd member List.not_mem_nil
  | cons chain rest inductionHypothesis =>
      intro fragment member
      rcases List.mem_append.mp member with first | later
      · exact Chain.isBlock_render options line chain budget fragment first
      · exact inductionHypothesis _ fragment later

theorem isBlock_renderSiblings
    (options : Options) (line : Nat) (parent : Chain) (others : List Chain)
    (budget : Budget) :
    ∀ fragment ∈
        (Chain.renderSiblings options line parent others budget).value,
      fragment.isBlock = false := by
  have outerPlain := Chain.isBlock_render options line parent budget
  have insertedPlain :=
    Chain.isBlock_renderAll options line others
      (Chain.render options line parent budget).budget
  intro fragment member
  change fragment ∈ if parent.encloses then _ else _ at member
  split at member
  · exact Fragment.isBlock_insertLast outerPlain insertedPlain fragment member
  · rcases List.mem_append.mp member with before | after
    · exact outerPlain fragment before
    · exact insertedPlain fragment after

end Chain

/-! ## Documents -/

namespace Node

mutual

theorem render_backed (options : Options) : ∀ node : Node,
    (Node.render options node).Backed 0 Fragment.emittedAll
  | .passage line head form text => by
      refine (Render.charge_backed line 1).bind ?_
      intro paid
      apply Render.Backed.pure
      cases paid with
      | true =>
          cases form <;>
            simp [Fragment.emittedAll, Fragment.emitted, Fragment.size]
      | false => simp
  | .markup line head body => by
      refine (Render.charge_backed line 1).bind ?_
      intro paid
      cases paid with
      | true =>
          refine ((renderAll_backed options body).frame 1).bind ?_
          intro inner
          apply Render.Backed.pure
          simp [Fragment.emittedAll, Fragment.emitted]
      | false => exact Render.Backed.pure (by simp)
  | .inline line element => by
      intro budget
      have plain :=
        Chain.isBlock_render options line [.element element] budget
      change Fragment.emittedAll
        (Chain.render options line [.element element] budget).value + _ ≤ _
      rw [Fragment.emittedAll_eq_sizeAll plain]
      exact element.render_backed options line [] budget
  | .nesting line chain => by
      intro budget
      rw [Node.render, Fragment.emittedAll_eq_sizeAll
        (Chain.isBlock_render options line chain budget)]
      exact Chain.render_backed options line chain budget
  | .siblings line parent others => by
      intro budget
      rw [Node.render, Fragment.emittedAll_eq_sizeAll
        (Chain.isBlock_renderSiblings options line parent others budget)]
      exact Chain.renderSiblings_backed options line parent others budget

theorem renderAll_backed (options : Options) : ∀ nodes : List Node,
    (Node.renderAll options nodes).Backed 0 Fragment.emittedAll
  | [] => Render.Backed.pure (by simp)
  | node :: rest => by
      refine (render_backed options node).bind ?_
      intro first
      refine ((renderAll_backed options rest).frame _).bind ?_
      intro others
      apply Render.Backed.pure
      exact Nat.le_of_eq (Fragment.emittedAll_append _ _)

end

end Node

namespace Document

theorem emitted_le_maxElements (options : Options) (document : Document) :
    Fragment.emittedAll (fragments options document).value ≤
      options.maxElements := by
  have backed :=
    Node.renderAll_backed options document (.full options.maxElements)
  have full : (Budget.full options.maxElements).remaining =
      options.maxElements := rfl
  unfold fragments
  omega

/-- The overrun is reported once if a document asks for more than there is, and
not at all otherwise. -/
theorem overruns_render (options : Options) (document : Document) :
    Budget.overruns options.maxElements (render options document).2 =
      if options.maxElements < document.demand options then 1 else 0 := by
  have asks := Node.renderAll_asks options document
  have same : (render options document).2 =
      (Node.renderAll options document
        (.full options.maxElements)).diagnostics := rfl
  rw [same]
  split
  · rename_i short
    exact (asks.refused (.full options.maxElements) rfl short).2
  · rename_i enough
    rw [asks.allowed (.full options.maxElements) rfl (Nat.le_of_not_lt enough)]
    exact asks.quiet options.maxElements

theorem demand_le_of_unreported {options : Options} {document : Document}
    (unreported : ∀ diagnostic ∈ (Document.render options document).2,
      diagnostic.message ≠ Budget.overrunMessage options.maxElements) :
    Document.demand options document ≤ options.maxElements := by
  have counted := overruns_render options document
  have none : Budget.overruns options.maxElements
      (Document.render options document).2 = 0 := by
    rw [Budget.overruns, List.countP_eq_zero]
    intro diagnostic member
    simpa using unreported diagnostic member
  apply Nat.le_of_not_lt
  intro short
  rw [none, if_pos short] at counted
  contradiction

/-- The budget of a document is exact: no more nodes are rendered than it
holds, and the overrun is reported exactly if the document asks for more, and
then once. -/
theorem budget_exact (options : Options) (document : Document) :
    Fragment.emittedAll (fragments options document).value ≤
        options.maxElements ∧
      (render options document).2.countP
          (·.message == Budget.overrunMessage options.maxElements) ≤ 1 ∧
      ((∃ diagnostic ∈ (render options document).2,
          diagnostic.message = Budget.overrunMessage options.maxElements) ↔
        options.maxElements < document.demand options) := by
  have reports := overruns_render options document
  unfold Budget.overruns at reports
  refine ⟨emitted_le_maxElements options document, ?_, ?_⟩
  · rw [reports]
    split
    · exact Nat.le_refl 1
    · exact Nat.zero_le 1
  · have recorded :
        0 < (render options document).2.countP
            (·.message == Budget.overrunMessage options.maxElements) ↔
          options.maxElements < document.demand options := by
      rw [reports]
      split <;> simp_all
    rw [← recorded, List.countP_pos_iff]
    simp only [beq_iff_eq]

end Document

end TerseMarkup
