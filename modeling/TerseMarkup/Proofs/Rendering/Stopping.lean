import Mathlib.Data.Nat.Order.Lemmas
import Mathlib.Logic.ExistsUnique
import TerseMarkup.Proofs.Html.Writing
import TerseMarkup.Proofs.Rendering.Emission
import TerseMarkup.Proofs.Rendering.StepLaw

/-!
# Where rendering stops

A budget is exhausted once at most, and what is rendered on an exhausted
budget comes to nothing. So the nodes of a document are rendered in full up to
one of them, that one perhaps in part, and no node after that point, however
deep inside of a block, adds anything. What is still reported from there on is
about repeat counts.
-/

namespace TerseMarkup

namespace Budget

def IsReported (limit : Nat) (diagnostics : List Diagnostic) : Prop :=
  ∃ diagnostic ∈ diagnostics, diagnostic.message = overrunMessage limit

theorem isReported_iff {limit : Nat} {diagnostics : List Diagnostic} :
    IsReported limit diagnostics ↔ overruns limit diagnostics ≠ 0 := by
  unfold overruns IsReported
  rw [← Nat.pos_iff_ne_zero, List.countP_pos_iff]
  simp only [beq_iff_eq]

end Budget

/-! ## What a step reports -/

def Diagnostic.IsOnCount (options : Options) (diagnostic : Diagnostic) :
    Prop :=
  ∃ count tag line, diagnostic =
    (Fault.tooManyCopies count tag options.maxRepeat line).diagnostic

namespace Render

variable {α β : Type}

/-- Whatever the budget is, the step keeps its limit, and all that it reports
is about repeat counts or about that limit. -/
structure Tells (options : Options) (step : Render α) : Prop where
  limit : ∀ budget : Budget, (step budget).budget.limit = budget.limit
  reports : ∀ budget : Budget, ∀ diagnostic ∈ (step budget).diagnostics,
    diagnostic.IsOnCount options ∨
      diagnostic.message = Budget.overrunMessage budget.limit

protected theorem Tells.bind {options : Options} {first : Render α}
    {second : α → Render β} (firstTells : first.Tells options)
    (secondTells : ∀ value, (second value).Tells options) :
    (first >>= second).Tells options where
  limit := by
    intro budget
    rw [bind_apply, (secondTells _).limit, firstTells.limit]
  reports := by
    intro budget diagnostic member
    rcases List.mem_append.mp member with before | after
    · exact firstTells.reports budget diagnostic before
    · have told := (secondTells _).reports _ diagnostic after
      rwa [firstTells.limit] at told

theorem charge_tells (options : Options) (line cost : Nat) :
    (charge line cost).Tells options where
  limit := by
    intro budget
    unfold charge
    split
    · rfl
    · split <;> rfl
  reports := by
    intro budget diagnostic member
    unfold charge at member
    split at member
    · exact absurd member List.not_mem_nil
    · split at member
      · exact absurd member List.not_mem_nil
      · rw [List.mem_singleton.mp member]
        exact Or.inr rfl

theorem tells_law (options : Options) (line : Nat) :
    Law options line fun step => step.Tells options where
  pure := fun _ =>
    { limit := fun _ => rfl
      reports := fun _ _ member => absurd member List.not_mem_nil }
  bind := Tells.bind
  charge := charge_tells options line
  report := fun _ =>
    { limit := fun _ => rfl
      reports := fun _ _ member =>
        Or.inl ⟨_, _, _, List.mem_singleton.mp member⟩ }

/-! ## When a budget is exhausted -/

section Asking

variable {step : Render α} {price : Nat} {value : α}
  {reports : List Diagnostic} (asks : step.Asks price value reports)

include asks

theorem Asks.overruns_of_unexhausted {budget : Budget}
    (unexhausted : (step budget).budget.exhausted = false) (limit : Nat) :
    Budget.overruns limit (step budget).diagnostics = 0 := by
  rw [asks.eq_of_unexhausted unexhausted]
  exact asks.quiet limit

theorem Asks.le_of_unexhausted {budget : Budget}
    (fresh : budget.exhausted = false)
    (unexhausted : (step budget).budget.exhausted = false) :
    price ≤ budget.remaining := by
  apply Nat.le_of_not_lt
  intro short
  rw [(asks.refused budget fresh short).1] at unexhausted
  contradiction

/-- The overrun is reported by the step that exhausts the budget. -/
theorem Asks.isReported_iff (budget : Budget) :
    Budget.IsReported budget.limit (step budget).diagnostics ↔
      budget.exhausted = false ∧ (step budget).budget.exhausted = true := by
  rw [Budget.isReported_iff]
  cases before : budget.exhausted with
  | true => simp [(asks.silent budget before).2]
  | false =>
      cases after : (step budget).budget.exhausted with
      | false => simp [asks.overruns_of_unexhausted after]
      | true =>
          have short : budget.remaining < price := by
            apply Nat.lt_of_not_le
            intro enough
            rw [asks.allowed budget before enough] at after
            exact absurd (after.symm.trans before) (by decide)
          simp [(asks.refused budget before short).2]

end Asking

/-- A step that pays for all of its fragments gives none on an exhausted
budget. -/
theorem value_of_exhausted {step : Render (List Fragment)}
    (backed : step.Backed 0 Fragment.emittedAll) (silent : step.Silent)
    {budget : Budget} (exhausted : budget.exhausted = true) :
    (step budget).value = [] := by
  have paid := backed budget
  rw [(silent budget exhausted).1] at paid
  cases shape : (step budget).value with
  | nil => rfl
  | cons fragment rest =>
      have some := fragment.emitted_pos
      rw [shape, Fragment.emittedAll] at paid
      omega

end Render

/-! ## Other limits -/

section MaxElements

variable (options : Options) (limit : Nat)

theorem Chain.render_maxElements (line : Nat) (chain : Chain) :
    Chain.render { options with maxElements := limit } line chain =
      Chain.render options line chain := by
  induction chain with
  | nil => rfl
  | cons link rest inductionHypothesis =>
      cases link with
      | literal text => rw [Chain.render, Chain.render, inductionHypothesis]
      | element element =>
          rw [Chain.render, Chain.render, inductionHypothesis]
          rfl

theorem Chain.renderAll_maxElements (line : Nat) (chains : List Chain) :
    Chain.renderAll { options with maxElements := limit } line chains =
      Chain.renderAll options line chains := by
  induction chains with
  | nil => rfl
  | cons chain rest inductionHypothesis =>
      rw [Chain.renderAll, Chain.renderAll, inductionHypothesis,
        Chain.render_maxElements]

mutual

theorem Node.render_maxElements : ∀ node : Node,
    Node.render { options with maxElements := limit } node =
      Node.render options node
  | .passage _ _ _ _ => rfl
  | .markup _ _ body => by
      rw [Node.render, Node.render, Node.renderAll_maxElements body]
  | .inline _ _ => by
      rw [Node.render, Node.render]
      rfl
  | .nesting _ _ => by
      rw [Node.render, Node.render, Chain.render_maxElements]
  | .siblings _ _ _ => by
      rw [Node.render, Node.render, Chain.renderSiblings,
        Chain.renderSiblings, Chain.render_maxElements,
        Chain.renderAll_maxElements]

/-- The number of nodes that may be rendered counts only through the budget
that rendering starts with. -/
theorem Node.renderAll_maxElements : ∀ nodes : List Node,
    Node.renderAll { options with maxElements := limit } nodes =
      Node.renderAll options nodes
  | [] => by rw [Node.renderAll, Node.renderAll]
  | node :: rest => by
      rw [Node.renderAll, Node.renderAll, Node.render_maxElements node,
        Node.renderAll_maxElements rest]

end

end MaxElements

/-! ## The node at which rendering stops -/

theorem Node.renderAll_append (options : Options) (first second : List Node) :
    Node.renderAll options (first ++ second) =
      Node.renderAll options first >>= fun before =>
        Node.renderAll options second >>= fun after =>
          pure (before ++ after) := by
  induction first with
  | nil =>
      simp only [List.nil_append, Node.renderAll, pure_bind, bind_pure]
  | cons node rest inductionHypothesis =>
      simp only [List.cons_append, Node.renderAll, inductionHypothesis,
        bind_assoc, pure_bind, List.append_assoc]

namespace Document

/-- The budget that is left when rendering comes to a position of a
document. -/
def budgetAt (options : Options) (document : Document) (position : Nat) :
    Budget :=
  (Node.renderAll options (document.take position)
    (.full options.maxElements)).budget

def turn (options : Options) (document : Document)
    (position : Fin document.length) : Rendered (List Fragment) :=
  Node.render options document[position] (document.budgetAt options position)

variable {options : Options} {document : Document}

theorem budgetAt_add (position count : Nat) :
    document.budgetAt options (position + count) =
      (Node.renderAll options ((document.drop position).take count)
        (document.budgetAt options position)).budget := by
  rw [budgetAt, List.take_add, Node.renderAll_append]
  rfl

theorem budgetAt_succ (position : Fin document.length) :
    document.budgetAt options (position + 1) =
      (document.turn options position).budget := by
  have one : (document.drop position).take 1 = [document[position]] := by
    rw [← List.getElem_cons_drop position.isLt]
    rfl
  rw [budgetAt_add, one]
  rfl

theorem limit_budgetAt (position : Nat) :
    (document.budgetAt options position).limit = options.maxElements :=
  (Render.Law.nodes (Render.tells_law options) _).limit _

theorem exhausted_budgetAt_of_le {position later : Nat}
    (le : position ≤ later)
    (exhausted : (document.budgetAt options position).exhausted = true) :
    (document.budgetAt options later).exhausted = true := by
  obtain ⟨count, rfl⟩ := Nat.exists_eq_add_of_le le
  rw [budgetAt_add,
    ((Node.renderAll_asks options _).silent _ exhausted).1, exhausted]

/-- The overrun is reported at the position where the budget is exhausted. -/
theorem isReported_turn_iff (position : Fin document.length) :
    Budget.IsReported options.maxElements
        (document.turn options position).diagnostics ↔
      (document.budgetAt options position).exhausted = false ∧
        (document.budgetAt options (position + 1)).exhausted = true := by
  have asked := (Node.render_asks options document[position]).isReported_iff
    (document.budgetAt options position)
  rw [limit_budgetAt] at asked
  rw [budgetAt_succ]
  exact asked

theorem existsUnique_turn
    (reported :
      Budget.IsReported options.maxElements (document.render options).2) :
    ∃! position, Budget.IsReported options.maxElements
      (document.turn options position).diagnostics := by
  have exhausted :
      (document.budgetAt options document.length).exhausted = true := by
    rw [budgetAt, List.take_length]
    exact (((Node.renderAll_asks options document).isReported_iff
      (.full options.maxElements)).mp reported).2
  have fresh : ¬ (document.budgetAt options 0).exhausted = true :=
    Bool.false_ne_true
  obtain ⟨position, before, after⟩ :=
    Nat.exists_not_and_succ_of_not_zero_of_exists
      (p := fun place => (document.budgetAt options place).exhausted = true)
      fresh ⟨document.length, exhausted⟩
  have inside : position < document.length := by
    apply Nat.lt_of_not_le
    intro behind
    exact before (exhausted_budgetAt_of_le behind exhausted)
  refine ⟨⟨position, inside⟩, ?_, ?_⟩
  · exact (isReported_turn_iff _).mpr ⟨Bool.eq_false_iff.mpr before, after⟩
  · intro other otherReported
    obtain ⟨otherBefore, otherAfter⟩ :=
      (isReported_turn_iff other).mp otherReported
    apply Fin.ext
    -- Where the budget is exhausted before one of the two positions, nothing
    -- is reported at that position any more.
    apply Nat.le_antisymm
    · apply Nat.le_of_not_lt
      intro less
      have already := exhausted_budgetAt_of_le less after
      rw [otherBefore] at already
      contradiction
    · apply Nat.le_of_not_lt
      intro less
      exact before (exhausted_budgetAt_of_le less otherAfter)

/-- The nodes before the position are rendered as with any larger budget, and
those behind it come to nothing. -/
theorem html_render_of_turn {position : Fin document.length}
    (reported : Budget.IsReported options.maxElements
      (document.turn options position).diagnostics)
    {limit : Nat} (larger : options.maxElements ≤ limit) :
    (document.render options).1 =
      (Document.render { options with maxElements := limit }
          (document.take position)).1 ++
        Fragment.htmlAll (document.turn options position).value := by
  obtain ⟨before, after⟩ := (isReported_turn_iff position).mp reported
  rw [budgetAt_succ] at after
  have asks := Node.renderAll_asks options (document.take position)
  have enough : Node.demandAll options (document.take position) ≤
      options.maxElements :=
    asks.le_of_unexhausted rfl before
  have initial := asks.eq_of_unexhausted before
  have unlimited := asks.allowed (.full limit) rfl (Nat.le_trans enough larger)
  have nothing := Render.value_of_exhausted
    (Node.renderAll_backed options (document.drop (position + 1)))
    (Node.renderAll_asks options _).silent after
  have split : document =
      document.take position ++
        document[position] :: document.drop (position + 1) := by
    rw [Fin.getElem_fin, List.getElem_cons_drop, List.take_append_drop]
  have value : (Node.renderAll options document
      (.full options.maxElements)).value =
        (Node.renderAll options (document.take position)
            (.full options.maxElements)).value ++
          ((document.turn options position).value ++
            (Node.renderAll options (document.drop (position + 1))
              (document.turn options position).budget).value) := by
    conv => lhs; rw [split]
    rw [Node.renderAll_append]
    rfl
  have limited : (document.render options).1 = Fragment.htmlAll
      (Node.renderAll options document (.full options.maxElements)).value :=
    rfl
  rw [limited, value, initial, nothing, List.append_nil,
    Fragment.htmlAll_append]
  simp only [Document.render, Document.fragments, Node.renderAll_maxElements,
    unlimited]

/-- What is reported behind the overrun is about repeat counts. -/
theorem isOnCount_of_split {earlier later : List Diagnostic}
    {report : Diagnostic}
    (split : (document.render options).2 = earlier ++ report :: later)
    (overrun : report.message = Budget.overrunMessage options.maxElements) :
    ∀ diagnostic ∈ later, diagnostic.IsOnCount options := by
  have once := overruns_render options document
  have counted : Budget.overruns options.maxElements (report :: later) =
      Budget.overruns options.maxElements later + 1 :=
    List.countP_cons_of_pos (beq_iff_eq.mpr overrun)
  have noneLater : Budget.overruns options.maxElements later = 0 := by
    rw [split, Budget.overruns_append, counted] at once
    split at once <;> omega
  intro diagnostic member
  have listed : diagnostic ∈ (document.render options).2 := by
    rw [split]
    exact List.mem_append_right _ (List.mem_cons_of_mem _ member)
  have told := (Render.Law.nodes (Render.tells_law options) document).reports
    (.full options.maxElements) diagnostic listed
  refine told.resolve_right ?_
  intro again
  exact Budget.isReported_iff.mp ⟨diagnostic, member, again⟩ noneLater

end Document

/-! ## Every node that is visited -/

/-- Rendering nodes on a budget comes to the node `visited`, among them or at
any depth inside of them, when `reported` has been reported and `left` is left
of the budget. -/
inductive Node.Visits (options : Options) :
    List Node → Budget → Node → List Diagnostic → Budget → Prop
  | first (node : Node) (rest : List Node) (budget : Budget) :
      Visits options (node :: rest) budget node [] budget
  | later (node : Node) {rest : List Node} {budget left : Budget}
      {visited : Node} {reported : List Diagnostic} :
      Visits options rest (Node.render options node budget).budget visited
        reported left →
      Visits options (node :: rest) budget visited
        ((Node.render options node budget).diagnostics ++ reported) left
  | inside (line : Nat) (head : Element) {body : List Node}
      (rest : List Node) {budget left : Budget} {visited : Node}
      {reported : List Diagnostic} :
      (Render.charge line 1 budget).value = true →
      Visits options body (Render.charge line 1 budget).budget visited
        reported left →
      Visits options (.markup line head body :: rest) budget visited
        ((Render.charge line 1 budget).diagnostics ++ reported) left

namespace Node.Visits

variable {options : Options} {nodes : List Node} {budget left : Budget}
  {visited : Node} {reported : List Diagnostic}

/-- What has been reported before a visit and is reported during it are the
first reports on the nodes. -/
theorem reports_prefix
    (visits : Visits options nodes budget visited reported left) :
    reported ++ (Node.render options visited left).diagnostics <+:
      (Node.renderAll options nodes budget).diagnostics := by
  induction visits with
  | first node rest budget => exact List.prefix_append _ _
  | later node visits inductionHypothesis =>
      rw [List.append_assoc]
      exact (List.prefix_append_right_inj _).mpr
        (inductionHypothesis.trans (List.prefix_append _ _))
  | @inside line head body rest budget left visited reported paid visits
      inductionHypothesis =>
      have block : (Node.render options (.markup line head body)
          budget).diagnostics =
            (Render.charge line 1 budget).diagnostics ++
              (Node.renderAll options body
                (Render.charge line 1 budget).budget).diagnostics := by
        rw [Node.render, Render.bind_apply, paid]
        exact congrArg _ (List.append_nil _)
      have inBlock := (List.prefix_append_right_inj
        (Render.charge line 1 budget).diagnostics).mpr inductionHypothesis
      rw [← block, ← List.append_assoc] at inBlock
      exact inBlock.trans (List.prefix_append _ _)

/-- A budget that is exhausted before the visit is still so at the visit. -/
theorem fresh_of_unexhausted
    (visits : Visits options nodes budget visited reported left)
    (unexhausted : left.exhausted = false) : budget.exhausted = false := by
  induction visits with
  | first node rest budget => exact unexhausted
  | @later node rest budget left visited reported visits
      inductionHypothesis =>
      have after := inductionHypothesis unexhausted
      cases before : budget.exhausted with
      | false => rfl
      | true =>
          rw [((Node.render_asks options node).silent budget before).1,
            before] at after
          contradiction
  | @inside line head body rest budget left visited reported paid visits
      inductionHypothesis =>
      cases before : budget.exhausted with
      | false => rfl
      | true =>
          rw [Render.charge, if_pos before] at paid
          contradiction

theorem overruns_of_unexhausted
    (visits : Visits options nodes budget visited reported left)
    (unexhausted : left.exhausted = false) (limit : Nat) :
    Budget.overruns limit reported = 0 := by
  induction visits with
  | first node rest budget => rfl
  | later node visits inductionHypothesis =>
      rw [Budget.overruns_append, inductionHypothesis unexhausted,
        (Node.render_asks options node).overruns_of_unexhausted
          (visits.fresh_of_unexhausted unexhausted)]
  | inside line head rest paid visits inductionHypothesis =>
      rw [Budget.overruns_append, inductionHypothesis unexhausted,
        (Render.charge_asks line 1).overruns_of_unexhausted
          (visits.fresh_of_unexhausted unexhausted)]

/-- Nothing is rendered at a visit behind the report of the overrun. -/
theorem value_of_isReported
    (visits : Visits options nodes budget visited reported left) {limit : Nat}
    (overrun : Budget.IsReported limit reported) :
    (Node.render options visited left).value = [] := by
  have exhausted : left.exhausted = true := by
    cases before : left.exhausted with
    | true => rfl
    | false =>
        exact absurd (visits.overruns_of_unexhausted before limit)
          (Budget.isReported_iff.mp overrun)
  exact Render.value_of_exhausted (Node.render_backed options visited)
    (Node.render_asks options visited).silent exhausted

end Node.Visits

/-- Either the overrun of the budget is not reported, or it is reported during
one node of the document and during no other. The HTML is then that of the
nodes before it, on a budget as large as one likes, and what that node adds.
Behind the overrun only repeat counts are reported, and no node that is
visited then, at whatever depth, adds anything. -/
theorem Document.render_stops (options : Options) (document : Document) :
    ¬ Budget.IsReported options.maxElements (document.render options).2 ∨
      (∃! position, Budget.IsReported options.maxElements
        (document.turn options position).diagnostics) ∧
      (∀ position, Budget.IsReported options.maxElements
          (document.turn options position).diagnostics →
        ∀ limit, options.maxElements ≤ limit →
          (document.render options).1 =
            (Document.render { options with maxElements := limit }
                (document.take position)).1 ++
              Fragment.htmlAll (document.turn options position).value) ∧
      (∀ earlier report later,
        (document.render options).2 = earlier ++ report :: later →
        report.message = Budget.overrunMessage options.maxElements →
        ∀ diagnostic ∈ later, diagnostic.IsOnCount options) ∧
      ∀ visited reported left,
        Node.Visits options document (.full options.maxElements) visited
          reported left →
        reported ++ (Node.render options visited left).diagnostics <+:
            (document.render options).2 ∧
          (Budget.IsReported options.maxElements reported →
            Fragment.htmlAll (Node.render options visited left).value =
              "") := by
  by_cases overrun :
      Budget.IsReported options.maxElements (document.render options).2
  · refine Or.inr ⟨existsUnique_turn overrun, ?_, ?_, ?_⟩
    · intro position reported limit larger
      exact html_render_of_turn reported larger
    · intro earlier report later split isOverrun
      exact isOnCount_of_split split isOverrun
    · intro visited reported left visits
      refine ⟨visits.reports_prefix, ?_⟩
      intro before
      rw [visits.value_of_isReported before, Fragment.htmlAll_nil]
  · exact Or.inl overrun

/-- The budget is exhausted by an element inside of a block. The next element
there is visited still, and its repeat count is reported. -/
theorem Document.render_stops_nested :
    let options : Options := { maxRepeat := 5, maxElements := 4 }
    let third : Node := .inline 4 { tag := "b", count := 9 }
    let document : Document :=
      [.inline 1 { tag := "p" },
        .markup 2 { tag := "ul" } [.inline 3 { tag := "li", count := 3 }, third],
        .inline 6 { tag := "i" }]
    Budget.IsReported 4 (document.render options).2 ∧
      (document.render options).1 =
        (Document.render { options with maxElements := 90 }
            (document.take 1)).1 ++
          "<ul>\n<li></li>\n<li></li>\n</ul>\n" ∧
      Node.Visits options document (.full 4) third
        [(Fault.tooManyElements 4 3).diagnostic] ⟨4, 0, true⟩ ∧
      Fragment.htmlAll (Node.render options third ⟨4, 0, true⟩).value = "" := by
  intro options third document
  have overrun : Budget.IsReported 4 (document.render options).2 :=
    Budget.isReported_iff.mpr (by decide +kernel)
  obtain ⟨_, html, _, visited⟩ :=
    (Document.render_stops options document).resolve_left
      fun unreported => unreported overrun
  have atBlock : Budget.IsReported 4
      (document.turn options ⟨1, by decide⟩).diagnostics :=
    Budget.isReported_iff.mpr (by decide +kernel)
  have block : Fragment.htmlAll
      (document.turn options ⟨1, by decide⟩).value =
        "<ul>\n<li></li>\n<li></li>\n</ul>\n" := by
    decide +kernel
  have visits : Node.Visits options document (.full 4) third
      [(Fault.tooManyElements 4 3).diagnostic] ⟨4, 0, true⟩ := by
    have path : Node.Visits options document (.full 4) third _ _ :=
      .later _ (.inside 2 _ _ (by decide +kernel)
        (.later _ (.first third [] _)))
    refine (congrArg₂ (Node.Visits options document (.full 4) third) ?_
      ?_).mp path
    · decide +kernel
    · decide +kernel
  refine ⟨overrun, ?_, visits, ?_⟩
  · rw [html _ atBlock 90 (by decide), block]
  · exact (visited third _ _ visits).2 ⟨_, List.mem_cons_self, rfl⟩

end TerseMarkup
