import TerseMarkup.Proofs.Rendering.Expansion

/-!
# What rendering does with a budget

A rendering step asks for a number of nodes that does not depend on the
budget. On a budget that holds them the step comes to its expansion and pays
for it; on one that does not, the budget is exhausted and this is reported
once; on an exhausted budget nothing is paid and nothing more is said about
it. The same is shown of every part of a document, from the single charge up
to lists of nodes.
-/

namespace TerseMarkup

namespace Budget

def pay (budget : Budget) (cost : Nat) : Budget :=
  { budget with remaining := budget.remaining - cost }

@[simp] theorem pay_remaining (budget : Budget) (cost : Nat) :
    (budget.pay cost).remaining = budget.remaining - cost := rfl

theorem pay_pay (budget : Budget) (first second : Nat) :
    (budget.pay first).pay second = budget.pay (first + second) := by
  simp [pay, Nat.sub_sub]

def overrunMessage (limit : Nat) : String :=
  "Output exceeds the limit of " ++ toString limit ++
    " elements; rendering stopped here."

/-- How many of the reports say that a budget of `limit` nodes is
exceeded. -/
def overruns (limit : Nat) (diagnostics : List Diagnostic) : Nat :=
  diagnostics.countP (·.message == overrunMessage limit)

@[simp] theorem overruns_append
    (limit : Nat) (first second : List Diagnostic) :
    overruns limit (first ++ second) =
      overruns limit first + overruns limit second :=
  List.countP_append

theorem message_tooManyElements (limit line : Nat) :
    (Fault.tooManyElements limit line).message = overrunMessage limit := rfl

/-- A report on a repeat count is never taken for one on the budget: the two
start with different letters. -/
theorem message_tooManyCopies_ne
    (limit count : Nat) (tag : String) (largest line : Nat) :
    (Fault.tooManyCopies count tag largest line).message ≠
      overrunMessage limit := by
  have copiesHead :
      (Fault.tooManyCopies count tag largest line).message.toList.head? =
        some 'R' := by
    change
      ("Repeat count " ++ toString count ++ " of <" ++ tag ++
        "> exceeds the limit of " ++ toString largest ++ ".").toList.head? = _
    simp
  have overrunHead : (overrunMessage limit).toList.head? = some 'O' := by
    unfold overrunMessage
    simp
  intro same
  rw [same, overrunHead] at copiesHead
  exact absurd copiesHead (by decide)

@[simp] theorem overruns_tooManyElements (limit line : Nat) :
    overruns limit [(Fault.tooManyElements limit line).diagnostic] = 1 := by
  rw [overruns, List.countP_singleton, Fault.diagnostic_message,
    message_tooManyElements, beq_self_eq_true, if_pos rfl]

@[simp] theorem overruns_tooManyCopies
    (limit count : Nat) (tag : String) (largest line : Nat) :
    overruns limit
      [(Fault.tooManyCopies count tag largest line).diagnostic] = 0 := by
  rw [overruns, List.countP_singleton, Fault.diagnostic_message,
    beq_false_of_ne (message_tooManyCopies_ne limit count tag largest line)]
  rfl

end Budget

namespace Render

variable {α β : Type}

/-- A step is silent if it leaves an exhausted budget alone and does not
report it. -/
def Silent (step : Render α) : Prop :=
  ∀ budget : Budget, budget.exhausted = true →
    (step budget).budget = budget ∧
      ∀ limit, Budget.overruns limit (step budget).diagnostics = 0

/-- `step.Asks price value reports` says what a step does with each kind of
budget when it asks for `price` nodes in order to come to `value`. A budget
that holds the price pays it, one that does not is exhausted with one report,
and an exhausted one stays as it is. -/
structure Asks
    (step : Render α) (price : Nat) (value : α) (reports : List Diagnostic) :
    Prop where
  quiet : ∀ limit, Budget.overruns limit reports = 0
  allowed : ∀ budget : Budget, budget.exhausted = false →
    price ≤ budget.remaining →
      step budget = ⟨value, reports, budget.pay price⟩
  refused : ∀ budget : Budget, budget.exhausted = false →
    budget.remaining < price →
      (step budget).budget.exhausted = true ∧
        Budget.overruns budget.limit (step budget).diagnostics = 1
  silent : step.Silent

protected theorem Silent.pure (value : α) : (pure value : Render α).Silent := by
  intro budget _
  exact ⟨rfl, fun _ => rfl⟩

protected theorem Silent.bind
    {first : Render α} {second : α → Render β}
    (firstSilent : first.Silent)
    (secondSilent : ∀ value, (second value).Silent) :
    (first >>= second).Silent := by
  intro budget exhausted
  obtain ⟨firstBudget, firstQuiet⟩ := firstSilent budget exhausted
  obtain ⟨secondBudget, secondQuiet⟩ :=
    secondSilent (first budget).value budget exhausted
  rw [bind_apply, firstBudget]
  refine ⟨secondBudget, ?_⟩
  intro limit
  rw [Budget.overruns_append, firstQuiet, secondQuiet]

protected theorem Asks.pure (value : α) :
    (pure value : Render α).Asks 0 value [] where
  quiet := fun _ => rfl
  allowed := fun _ _ _ => rfl
  refused := fun _ _ short => absurd short (Nat.not_lt_zero _)
  silent := Silent.pure value

/-- The prices of steps that follow each other add up. Where the first step is
refused its value is any other one, so the second has to be silent on each. -/
protected theorem Asks.bind
    {first : Render α} {second : α → Render β}
    {firstPrice secondPrice : Nat} {firstValue : α} {secondValue : β}
    {firstReports secondReports : List Diagnostic}
    (firstAsks : first.Asks firstPrice firstValue firstReports)
    (secondAsks :
      (second firstValue).Asks secondPrice secondValue secondReports)
    (secondSilent : ∀ value, (second value).Silent) :
    (first >>= second).Asks (firstPrice + secondPrice) secondValue
      (firstReports ++ secondReports) where
  quiet := by
    intro limit
    rw [Budget.overruns_append, firstAsks.quiet, secondAsks.quiet]
  allowed := by
    intro budget fresh enough
    have firstRun := firstAsks.allowed budget fresh (by omega)
    have secondRun :=
      secondAsks.allowed (budget.pay firstPrice) fresh
        (by rw [Budget.pay_remaining]; omega)
    rw [bind_apply, firstRun, secondRun, Budget.pay_pay]
  refused := by
    intro budget fresh short
    rw [bind_apply]
    by_cases firstShort : budget.remaining < firstPrice
    · obtain ⟨exhausted, once⟩ := firstAsks.refused budget fresh firstShort
      obtain ⟨kept, quiet⟩ := secondSilent (first budget).value _ exhausted
      refine ⟨by rw [kept, exhausted], ?_⟩
      rw [Budget.overruns_append, once, quiet]
    · have firstRun := firstAsks.allowed budget fresh (by omega)
      have secondShort : (budget.pay firstPrice).remaining < secondPrice := by
        rw [Budget.pay_remaining]
        omega
      obtain ⟨exhausted, once⟩ :=
        secondAsks.refused (budget.pay firstPrice) fresh secondShort
      rw [firstRun]
      refine ⟨exhausted, ?_⟩
      rw [Budget.overruns_append, firstAsks.quiet, Nat.zero_add]
      exact once
  silent := firstAsks.silent.bind secondSilent

/-- What is done to the value afterwards costs nothing. -/
protected theorem Asks.map
    {step : Render α} {price : Nat} {value : α} {reports : List Diagnostic}
    (asks : step.Asks price value reports) (change : α → β) :
    (step >>= fun result => pure (change result)).Asks price (change value)
      reports := by
  simpa using
    asks.bind (Asks.pure (change value)) (fun _ => Silent.pure _)

/-- A step that leaves a budget unexhausted was allowed everything. -/
theorem Asks.eq_of_unexhausted
    {step : Render α} {price : Nat} {value : α} {reports : List Diagnostic}
    (asks : step.Asks price value reports) {budget : Budget}
    (unexhausted : (step budget).budget.exhausted = false) :
    step budget = ⟨value, reports, budget.pay price⟩ := by
  cases exhausted : budget.exhausted with
  | true =>
      rw [(asks.silent budget exhausted).1, exhausted] at unexhausted
      contradiction
  | false =>
      by_cases enough : price ≤ budget.remaining
      · exact asks.allowed budget exhausted enough
      · rw [(asks.refused budget exhausted (by omega)).1] at unexhausted
        contradiction

/-! ## Charges -/

theorem charge_asks (line cost : Nat) :
    (charge line cost).Asks cost true [] where
  quiet := fun _ => rfl
  allowed := by
    intro budget fresh enough
    rw [charge, if_neg (by simp [fresh]), if_pos enough]
    rfl
  refused := by
    intro budget fresh short
    rw [charge, if_neg (by simp [fresh]), if_neg (by omega)]
    exact ⟨rfl, Budget.overruns_tooManyElements budget.limit line⟩
  silent := by
    intro budget exhausted
    rw [charge, if_pos exhausted]
    exact ⟨rfl, fun _ => rfl⟩

@[simp] theorem chargeCopies_zero (line cost : Nat) :
    chargeCopies line cost 0 = pure 0 := by
  funext budget
  cases exhausted : budget.exhausted with
  | true => simp [chargeCopies, exhausted]
  | false =>
      cases budget
      simp_all [chargeCopies]

/-- Copies are paid for one after the other, up to the first one that the
budget does not allow. -/
theorem chargeCopies_succ {cost : Nat} (positive : 0 < cost) (line count : Nat) :
    chargeCopies line cost (count + 1) =
      (charge line cost >>= fun paid =>
        if paid then
          chargeCopies line cost count >>= fun others => pure (others + 1)
        else pure 0) := by
  funext budget
  rw [bind_apply]
  cases exhausted : budget.exhausted with
  | true => simp [charge, chargeCopies, exhausted]
  | false =>
      by_cases enough : cost ≤ budget.remaining
      · have quotient :
            budget.remaining / cost = (budget.remaining - cost) / cost + 1 :=
          Nat.div_eq_sub_div positive enough
        have left (paid : Nat) :
            budget.remaining - (paid + 1) * cost =
              budget.remaining - cost - paid * cost := by
          rw [Nat.add_one_mul, Nat.sub_sub, Nat.add_comm cost]
        simp only [charge, chargeCopies, exhausted, enough, quotient, left,
          Nat.add_min_add_right, Nat.add_right_cancel_iff, bind_apply,
          pure_apply, if_true, if_false, Bool.false_eq_true]
        split
        · rfl
        · rfl
      · have quotient : budget.remaining / cost = 0 :=
          Nat.div_eq_of_lt (by omega)
        simp [charge, chargeCopies, exhausted, enough, quotient]

theorem chargeCopies_silent (line cost count : Nat) :
    (chargeCopies line cost count).Silent := by
  intro budget exhausted
  rw [chargeCopies, if_pos exhausted]
  exact ⟨rfl, fun _ => rfl⟩

theorem chargeCopies_asks
    {cost : Nat} (positive : 0 < cost) (line count : Nat) :
    (chargeCopies line cost count).Asks (count * cost) count [] := by
  induction count with
  | zero =>
      rw [chargeCopies_zero, Nat.zero_mul]
      exact Asks.pure 0
  | succ count inductionHypothesis =>
      rw [chargeCopies_succ positive, Nat.add_one_mul, Nat.add_comm]
      refine (charge_asks line cost).bind (inductionHypothesis.map (· + 1)) ?_
      intro paid
      cases paid with
      | true =>
          exact (chargeCopies_silent line cost count).bind
            fun _ => Silent.pure _
      | false => exact Silent.pure 0

end Render

/-! ## Elements and chains -/

namespace Element

theorem copyCount_asks (options : Options) (line : Nat) (element : Element) :
    (element.copyCount options line).Asks 0 (element.allowedCopies options)
      (element.countReports options line) := by
  unfold copyCount allowedCopies countReports
  split
  · rename_i within
    rw [Nat.min_eq_left within]
    exact Render.Asks.pure element.count
  · rename_i above
    rw [Nat.min_eq_right (by omega)]
    exact {
      quiet := fun _ => Budget.overruns_tooManyCopies _ _ _ _ _
      allowed := fun _ _ _ => rfl
      refused := fun _ _ short => absurd short (Nat.not_lt_zero _)
      silent := fun _ _ =>
        ⟨rfl, fun _ => Budget.overruns_tooManyCopies _ _ _ _ _⟩ }

theorem render_asks
    (options : Options) (line : Nat) (element : Element)
    (children : List Fragment) :
    (element.render options line children).Asks
      (element.demand options children) (element.expansion options children)
      (element.countReports options line) := by
  have positive : 0 < 1 + Fragment.sizeAll children := by omega
  have copies :=
    (Render.chargeCopies_asks positive line
      (element.allowedCopies options)).map
        fun paid => (List.range' 1 paid).flatMap (element.copyAt children)
  rw [← Nat.zero_add (element.demand options children),
    ← List.append_nil (element.countReports options line)]
  refine (element.copyCount_asks options line).bind copies ?_
  intro count
  exact (Render.chargeCopies_silent line _ count).bind fun _ =>
    Render.Silent.pure _

end Element

namespace Chain

theorem render_asks (options : Options) (line : Nat) (chain : Chain) :
    (Chain.render options line chain).Asks (chain.demand options)
      (chain.expansion options) (chain.countReports options line) := by
  induction chain with
  | nil => exact Render.Asks.pure []
  | cons link rest inductionHypothesis =>
      cases link with
      | literal text =>
          refine (Render.charge_asks line 1).bind
            (inductionHypothesis.map (Fragment.text (Html.escape text) :: ·))
            ?_
          intro paid
          exact inductionHypothesis.silent.bind fun _ => Render.Silent.pure _
      | element element =>
          exact inductionHypothesis.bind
            (element.render_asks options line (expansion options rest))
            fun children => (element.render_asks options line children).silent

theorem renderAll_asks (options : Options) (line : Nat) (chains : List Chain) :
    (Chain.renderAll options line chains).Asks
      (chains.map (Chain.demand options)).sum
      (chains.flatMap (Chain.expansion options))
      (chains.flatMap (Chain.countReports options line)) := by
  induction chains with
  | nil => exact Render.Asks.pure []
  | cons chain rest inductionHypothesis =>
      exact (Chain.render_asks options line chain).bind
        (inductionHypothesis.map fun others =>
          chain.expansion options ++ others)
        fun _ => inductionHypothesis.silent.bind fun _ => Render.Silent.pure _

theorem renderSiblings_asks
    (options : Options) (line : Nat) (parent : Chain) (others : List Chain) :
    (Chain.renderSiblings options line parent others).Asks
      (parent.demand options + (others.map (Chain.demand options)).sum)
      (parent.siblingsExpansion options others)
      (parent.countReports options line ++
        others.flatMap (Chain.countReports options line)) := by
  have inserted := Chain.renderAll_asks options line others
  exact (Chain.render_asks options line parent).bind
    (inserted.map fun inserted =>
      if parent.encloses then
        Fragment.insertLast (parent.expansion options) inserted
      else parent.expansion options ++ inserted)
    fun _ => inserted.silent.bind fun _ => Render.Silent.pure _

end Chain

/-! ## What chains are made of -/

section Made

variable (holds : Fragment → Prop)
  (texts : ∀ words, holds (.text words))
  (elements : ∀ tag attributes content children,
    holds (.element tag attributes content children))

include texts elements

theorem Element.forall_mem_copyAt
    {element : Element} {children : List Fragment} {index : Nat}
    (inside : ∀ child ∈ children, holds child) :
    ∀ fragment ∈ element.copyAt children index, holds fragment := by
  intro fragment member
  unfold copyAt at member
  dsimp only at member
  split at member
  · split at member
    · exact inside fragment member
    · rcases List.mem_cons.mp member with rfl | later
      · exact texts _
      · exact inside fragment later
  · rw [List.mem_singleton] at member
    subst member
    exact elements _ _ _ _

/-- A chain is made of texts and elements, on any budget. -/
theorem Chain.forall_mem_render
    (options : Options) (line : Nat) (chain : Chain) :
    ∀ (budget : Budget),
      ∀ fragment ∈ (Chain.render options line chain budget).value,
        holds fragment := by
  induction chain with
  | nil =>
      intro budget fragment member
      exact absurd member List.not_mem_nil
  | cons link rest inductionHypothesis =>
      intro budget fragment member
      cases link with
      | literal text =>
          have later := inductionHypothesis (Render.charge line 1 budget).budget
          change fragment ∈
            if (Render.charge line 1 budget).value then
              Fragment.text (Html.escape text) :: _
            else _ at member
          split at member
          · rcases List.mem_cons.mp member with rfl | after
            · exact texts _
            · exact later fragment after
          · exact later fragment member
      | element element =>
          obtain ⟨index, _, copied⟩ := List.mem_flatMap.mp member
          exact Element.forall_mem_copyAt holds texts elements
            (inductionHypothesis budget) fragment copied

theorem Chain.forall_mem_expansion (options : Options) (chain : Chain) :
    ∀ fragment ∈ chain.expansion options, holds fragment := by
  have rendered :=
    (Chain.render_asks options 0 chain).allowed
      (.full (chain.demand options)) rfl (Nat.le_refl _)
  have made :=
    Chain.forall_mem_render holds texts elements options 0 chain
      (.full (chain.demand options))
  rwa [rendered] at made

end Made

/-! ## Documents -/

namespace Node

mutual

theorem render_asks (options : Options) : ∀ node : Node,
    (Node.render options node).Asks (node.demand options)
      (node.expansion options) (node.countReports options)
  | .passage line head form text => by
      cases form with
      | raw => exact (Render.charge_asks line 1).map _
      | verbatim => exact (Render.charge_asks line 1).map _
  | .markup line head body => by
      have inner := renderAll_asks options body
      refine (Render.charge_asks line 1).bind
        (inner.map fun fragments =>
          [Fragment.block head.tag head.headAttributes fragments])
        ?_
      intro paid
      cases paid with
      | true => exact inner.silent.bind fun _ => Render.Silent.pure _
      | false => exact Render.Silent.pure []
  | .inline line element => element.render_asks options line []
  | .nesting line chain => Chain.render_asks options line chain
  | .siblings line parent others =>
      Chain.renderSiblings_asks options line parent others

theorem renderAll_asks (options : Options) : ∀ nodes : List Node,
    (Node.renderAll options nodes).Asks (demandAll options nodes)
      (expansionAll options nodes) (countReportsAll options nodes)
  | [] => Render.Asks.pure []
  | node :: rest => by
      have others := renderAll_asks options rest
      exact (render_asks options node).bind
        (others.map fun others => node.expansion options ++ others)
        fun _ => others.silent.bind fun _ => Render.Silent.pure _

end

end Node

/-- A document that the budget holds is rendered in full. -/
theorem Document.render_of_le
    {options : Options} {document : Document}
    (enough : document.demand options ≤ options.maxElements) :
    document.render options =
      (Fragment.htmlAll (Node.expansionAll options document),
        Node.countReportsAll options document) := by
  have run := (Node.renderAll_asks options document).allowed
    (.full options.maxElements) rfl enough
  simp only [Document.render, Document.fragments, run]

end TerseMarkup
