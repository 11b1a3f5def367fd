import TerseMarkup.Proofs.Document.Numbering
import TerseMarkup.Proofs.Document.OneLine
import TerseMarkup.Proofs.Element.Separation

/-!
# A line of joined elements

Elements that are joined by combinators into a line make one node. It is read
without a report exactly if the elements are separable, and exactly then its
chains hold the elements that were joined.
-/

namespace TerseMarkup

/-! ## The node of a line -/

def Link.element? : Link → Option Element
  | element described => some described
  | literal _ => none

theorem Link.element?_ofToken (line : Nat) (token : Line) :
    (Link.ofToken line token).1.element? = Element.read? token := by
  unfold Link.ofToken
  cases Element.read? token with
  | none => rfl
  | some described => rfl

theorem Link.reports_ofToken_eq_nil_iff (line : Nat) (token : Line) :
    (Link.ofToken line token).2 = [] ↔
      (Element.read? token).isSome = true := by
  unfold Link.ofToken
  cases Element.read? token with
  | none => simp
  | some described => simp

theorem Chain.map_element?_ofTokens (line : Nat) (tokens : List Line) :
    (Chain.ofTokens line tokens).1.map Link.element? =
      tokens.map Element.read? := by
  simp only [Chain.ofTokens, List.map_map]
  apply List.map_congr_left
  intro token _
  exact Link.element?_ofToken line token

theorem Chain.reports_ofTokens_eq_nil_iff (line : Nat) (tokens : List Line) :
    (Chain.ofTokens line tokens).2 = [] ↔
      ∀ token ∈ tokens, (Element.read? token).isSome = true := by
  simp only [Chain.ofTokens, List.flatMap_eq_nil_iff, List.forall_mem_map,
    Link.reports_ofToken_eq_nil_iff]

namespace Node

def chains : Node → List Chain
  | nesting _ chain => [chain]
  | siblings _ parent others => parent :: others
  | _ => []

section OfLine

variable {line : SignificantLine}
  (notElement : Element.read? line.text = none)

include notElement

theorem reports_ofLine_eq_nil_iff :
    (ofLine line).2 = [] ↔
      ∀ token ∈ line.text.tokens.flatten,
        (Element.read? token).isSome = true := by
  rw [reports_ofLine notElement, SignificantLine.tokens_eq]
  simp only [List.flatMap_eq_nil_iff, List.forall_mem_map,
    Chain.reports_ofTokens_eq_nil_iff, List.forall_mem_flatten]

theorem chains_ofLine :
    (ofLine line).1.chains =
      (line.tokens.map (Chain.ofTokens line.number)).map (·.1) := by
  unfold ofLine
  rw [notElement]
  dsimp only
  split
  · rename_i noChains
    rw [List.map_eq_nil_iff, List.map_eq_nil_iff,
      SignificantLine.tokens_eq] at noChains
    exact absurd noChains line.text.tokens_ne_nil
  · rename_i oneChain
    exact oneChain.symm
  · rename_i severalChains
    exact severalChains.symm

theorem map_element?_chains_ofLine :
    (ofLine line).1.chains.map (List.map Link.element?) =
      line.text.tokens.map (List.map Element.read?) := by
  rw [chains_ofLine notElement, SignificantLine.tokens_eq, List.map_map,
    List.map_map]
  apply List.map_congr_left
  intro tokens _
  exact Chain.map_element?_ofTokens line.number tokens

end OfLine

end Node

namespace Combinator

open Enclosure

/-! ## The joined line -/

section Joined

variable {chains : List (List Line)} (joinable : Joinable chains)

include joinable

theorem not_mem_joined {character : Char}
    (apart : character ≠ ' ' ∧ character ≠ sibling ∧ character ≠ nesting)
    (absent : ∀ token ∈ chains.flatten, character ∉ token) :
    character ∉ joined chains := by
  induction joinable with
  | alone token =>
      rw [joined_alone]
      exact absent token List.mem_cons_self
  | nested token next others chains _ inductionHypothesis =>
      have later := inductionHypothesis fun other member =>
        absent other (List.mem_cons_of_mem token member)
      have first := absent token List.mem_cons_self
      rw [joined_nesting]
      simp [first, later, apart]
  | beside token next others chains _ inductionHypothesis =>
      have later := inductionHypothesis fun other member =>
        absent other (List.mem_cons_of_mem token member)
      have first := absent token List.mem_cons_self
      rw [joined_sibling]
      simp [first, later, apart]

theorem endsWell_joined
    (endWell : ∀ token ∈ chains.flatten, Element.EndsWell token) :
    Element.EndsWell (joined chains) := by
  induction joinable with
  | alone token =>
      rw [joined_alone]
      exact endWell token List.mem_cons_self
  | nested token next others chains _ inductionHypothesis =>
      have later := inductionHypothesis fun other member =>
        endWell other (List.mem_cons_of_mem token member)
      rw [joined_nesting]
      exact (later.append [' ', nesting, ' ']).append token
  | beside token next others chains _ inductionHypothesis =>
      have later := inductionHypothesis fun other member =>
        endWell other (List.mem_cons_of_mem token member)
      rw [joined_sibling]
      exact (later.append [' ', sibling, ' ']).append token

theorem exists_joined_eq_append (several : 2 ≤ chains.flatten.length) :
    ∃ token rest,
      token ∈ chains.flatten ∧ joined chains = token ++ ' ' :: rest := by
  cases joinable with
  | alone token => exact absurd several (by simp)
  | nested token next others chains _ =>
      exact ⟨token, _, List.mem_cons_self, joined_nesting _ _ _ _⟩
  | beside token next others chains _ =>
      exact ⟨token, _, List.mem_cons_self, joined_sibling _ _ _⟩

end Joined

/-- At least two elements in chains that are joined into one line without a
comment. -/
structure JoinsElements (chains : List (List Line)) : Prop where
  filled : ∀ chain ∈ chains, chain ≠ []
  several : 2 ≤ chains.flatten.length
  elements : ∀ token ∈ chains.flatten, (Element.read? token).isSome = true
  oneLine : ∀ token ∈ chains.flatten, '\n' ∉ token
  uncommented : Comment.strip (joined chains) = joined chains

namespace JoinsElements

variable {chains : List (List Line)} (joins : JoinsElements chains)

include joins

theorem nonempty : chains ≠ [] := by
  rintro rfl
  exact absurd joins.several (by decide)

theorem joinable : Joinable chains :=
  joinable_of_ne_nil joins.nonempty joins.filled

theorem endsWell : Element.EndsWell (joined chains) :=
  endsWell_joined joins.joinable fun token member =>
    Element.endsWell_of_read? (joins.elements token member)

theorem exists_nameChar :
    ∃ first rest,
      joined chains = first :: rest ∧ Token.isNameChar first = true := by
  obtain ⟨token, rest, member, split⟩ :=
    exists_joined_eq_append joins.joinable joins.several
  obtain ⟨first, others, rfl, nameChar⟩ :=
    Element.exists_first (joins.elements token member)
  exact ⟨first, others ++ ' ' :: rest, split, nameChar⟩

theorem isToken : IsToken (joined chains) := by
  have endsWell := joins.endsWell
  obtain ⟨first, rest, starts, nameChar⟩ := joins.exists_nameChar
  rw [starts] at endsWell ⊢
  exact isToken_of_ends nameChar endsWell

theorem read?_joined : Element.read? (joined chains) = none := by
  obtain ⟨token, rest, member, split⟩ :=
    exists_joined_eq_append joins.joinable joins.several
  rw [split]
  exact Element.read?_append_eq_none (joins.elements token member) (by decide)

theorem isPlain : Line.IsPlain (joined chains) where
  oneLine := not_mem_joined joins.joinable (by decide) joins.oneLine
  visible := joins.isToken.nonempty
  uncommented := joins.uncommented

theorem parse_joined (options : Options) :
    Document.parse options (String.ofList (joined chains)) =
      { document := [(Node.ofLine ⟨1, joined chains⟩).1]
        diagnostics := (Node.ofLine ⟨1, joined chains⟩).2 } := by
  have notClosing : joined chains ≠ closingLine := by
    obtain ⟨first, rest, starts, nameChar⟩ := joins.exists_nameChar
    rw [starts]
    exact cons_ne_closingLine rest nameChar
  exact joins.isPlain.parse_eq options
    (Element.readOpener?_of_endsWell joins.endsWell) notClosing

theorem tokens_joined (separable : Separable chains.flatten) :
    (joined chains).tokens = chains := by
  have areTokens : ∀ token ∈ chains.flatten, IsToken token :=
    fun token member => isToken_of_read? (joins.elements token member)
  have cut : Combinator.chains (joined chains) = chains :=
    chains_spaced (spaced_joined joins.joinable) areTokens separable
  rw [Line.tokens, cut, if_neg joins.nonempty]

theorem separable (readBack : ∀ token ∈ (joined chains).tokens.flatten,
      (Element.read? token).isSome = true) :
    Separable chains.flatten := by
  apply separable_of_read? joins.joinable joins.elements
  intro text member
  have cutOff : text ∈ (Combinator.chains (joined chains)).flatten := by
    rw [chains_eq_rows, List.flatten_filter_ne_nil]
    exact member
  have someChain : Combinator.chains (joined chains) ≠ [] := by
    intro noChain
    rw [noChain] at cutOff
    contradiction
  apply readBack
  rw [Line.tokens, if_neg someChain]
  exact cutOff

/-- A joined line cut into tokens that are all elements is cut into those that
were joined. -/
theorem readBack_iff_separable :
    (∀ token ∈ (joined chains).tokens.flatten,
      (Element.read? token).isSome = true) ↔ Separable chains.flatten := by
  constructor
  · exact joins.separable
  · intro separable
    rw [joins.tokens_joined separable]
    exact joins.elements

theorem map_read?_tokens_iff_separable :
    (joined chains).tokens.map (List.map Element.read?) =
        chains.map (List.map Element.read?) ↔
      Separable chains.flatten := by
  constructor
  · intro same
    apply joins.separable
    intro token member
    have sameReadings := congrArg List.flatten same
    rw [← List.map_flatten, ← List.map_flatten] at sameReadings
    have reading : Element.read? token ∈ chains.flatten.map Element.read? := by
      rw [← sameReadings]
      exact List.mem_map_of_mem member
    obtain ⟨other, otherMember, sameReading⟩ := List.mem_map.mp reading
    rw [← sameReading]
    exact joins.elements other otherMember
  · intro separable
    rw [joins.tokens_joined separable]

end JoinsElements

end Combinator

open Combinator

/-- Elements that are joined by combinators into a line make one node. The
line is read without a report exactly if the elements are separable, and
exactly then the chains of the node hold the elements in their order. -/
theorem Document.parse_joined_elements
    (options : Options) (chains : List (List Line))
    (joins : JoinsElements chains) :
    ∃ node,
      (Document.parse options (String.ofList (joined chains))).document =
          [node] ∧
        ((Document.parse options
            (String.ofList (joined chains))).diagnostics = [] ↔
          Separable chains.flatten) ∧
        (node.chains.map (List.map Link.element?) =
            chains.map (List.map Element.read?) ↔
          Separable chains.flatten) := by
  have notElement := joins.read?_joined
  rw [joins.parse_joined]
  refine ⟨(Node.ofLine ⟨1, joined chains⟩).1, rfl, ?_, ?_⟩
  · exact (Node.reports_ofLine_eq_nil_iff notElement).trans
      joins.readBack_iff_separable
  · rw [Node.map_element?_chains_ofLine notElement]
    exact joins.map_read?_tokens_iff_separable

/-- Combinators in braces and in quotes do not separate. -/
theorem Document.parse_joined_elements_quoted :
    JoinsElements
        [["ul".toList, "li\x7b1 + 1 > 0\x7d*2".toList],
          ["p[title='a > b']".toList]] ∧
      Separable
        ["ul".toList, "li\x7b1 + 1 > 0\x7d*2".toList,
          "p[title='a > b']".toList] ∧
      (Document.parse {} "ul > li\x7b1 + 1 > 0\x7d*2 + p[title='a > b']"
        ).diagnostics = [] := by
  have joins : JoinsElements
      [["ul".toList, "li\x7b1 + 1 > 0\x7d*2".toList],
        ["p[title='a > b']".toList]] := by
    constructor <;> decide +kernel
  have separable : Separable
      ["ul".toList, "li\x7b1 + 1 > 0\x7d*2".toList,
        "p[title='a > b']".toList] := by
    constructor <;> decide +kernel
  obtain ⟨node, _, unreported, _⟩ :=
    Document.parse_joined_elements {} _ joins
  exact ⟨joins, separable, unreported.mpr separable⟩

/-- Brackets do not keep a combinator from separating. -/
theorem Document.parse_joined_brackets :
    ¬ ∀ (options : Options) (chains : List (List Line)),
      JoinsElements chains →
      (∀ token ∈ chains.flatten, Comment.strip token = token) →
      (Document.parse options (String.ofList (joined chains))).diagnostics =
          [] ∧
        ∃ node,
          (Document.parse options (String.ofList (joined chains))).document =
              [node] ∧
            node.chains.map (List.map Link.element?) =
              chains.map (List.map Element.read?) := by
  intro always
  have joins : JoinsElements [["a[x>y]".toList, "b".toList]] := by
    constructor <;> decide +kernel
  have unreported := (always {} _ joins (by decide +kernel)).1
  exact absurd unreported (by decide +kernel)

end TerseMarkup
