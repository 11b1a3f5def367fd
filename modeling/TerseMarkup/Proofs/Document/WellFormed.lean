import TerseMarkup.Proofs.Document.Numbering
import TerseMarkup.Proofs.Element.Naming
import TerseMarkup.Proofs.Text.Trimming

/-!
# Documents are well formed

Rendering relies on what no type says: names are names, brackets and braces
are closed by their first closing sign, chains have links and texts have
words, a block has neither content nor copies, its tag says what its body is,
and no more blocks stand around a node than the options allow. Reading a
source gives nothing else, at any depth.
-/

namespace TerseMarkup

/-! ## Elements -/

def isTagChar (character : Char) : Bool :=
  character.isLower || character.isDigit || character == '_' ||
    character == '-'

theorem IsNameText.isTagChar_toLower {text : List Char}
    (isName : IsNameText text) :
    ∀ character ∈ text.map Char.toLower, isTagChar character = true := by
  intro lowered member
  obtain ⟨character, written, rfl⟩ := List.mem_map.mp member
  exact Token.forall_isNameChar
    (fun character => isTagChar character.toLower = true) (by decide)
    (isName.2 character written)

namespace Element

structure IsWellFormed (element : Element) : Prop where
  tag_nonempty : element.tag.toList ≠ []
  tag : ∀ character ∈ element.tag.toList, isTagChar character = true
  attributes : ']' ∉ element.attributes.toList
  id : ∀ id ∈ element.id, IsNameText id.toList
  classes : ∀ kind ∈ element.classes, IsNameText kind.toList
  content : '}' ∉ element.content.toList
  count : 1 ≤ element.count

structure IsHead (head : Element) : Prop where
  wellFormed : head.IsWellFormed
  content : head.content = ""
  count : head.count = 1

theorem isHead_of_readHead? {tokens rest : List Token} {head : Element}
    (writable : ∀ token ∈ tokens, token.Writable)
    (read : readHead? tokens = some (head, rest)) : head.IsHead := by
  have named := isNamed_of_readHead? writable read
  obtain ⟨tag, attributes, qualifiers, rfl, _, rfl⟩ :=
    Form.exists_of_readHead? read
  have tagIsName : IsNameText tag := writable (.name tag) List.mem_cons_self
  have lowered : Text.lowerCase tag = tag.map Char.toLower :=
    Text.lowerCase_of_isNameText tagIsName.2
  have wellFormed : IsWellFormed _ :=
    { tag_nonempty := named.tag.1
      tag := by
        rw [String.toList_ofList, lowered]
        exact tagIsName.isTagChar_toLower
      attributes := by
        rw [String.toList_ofList]
        cases attributes with
        | none => exact List.not_mem_nil
        | some inner => exact (writable (.attributes inner) (by simp)).2
      id := named.id
      classes := named.classes
      content := List.not_mem_nil
      count := Nat.le_refl 1 }
  exact ⟨wellFormed, rfl, rfl⟩

theorem isHead_of_readOpener? {line : List Char} {head : Element}
    (read : readOpener? line = some head) : head.IsHead := by
  unfold readOpener? at read
  split at read
  · rename_i tokens tokensRead
    obtain ⟨_, writable, _⟩ := Token.readAll?_eq_some_iff.mp tokensRead
    unfold openerOfTokens? at read
    split at read
    · rename_i described headRead
      rw [← Option.some.inj read]
      exact isHead_of_readHead? writable headRead
    · contradiction
  · contradiction

theorem isWellFormed_of_read? {text : List Char} {element : Element}
    (read : read? text = some element) : element.IsWellFormed := by
  have named := isNamed_of_read? read
  obtain ⟨form, _, rfl⟩ := Form.exists_of_read? read
  refine
    { tag_nonempty := named.tag.1
      tag := ?tag
      attributes := ?attributes
      id := named.id
      classes := named.classes
      content := ?content
      count := ?count }
  case tag =>
    rw [Form.element, String.toList_ofList]
    exact form.tag_isName.isTagChar_toLower
  case attributes =>
    rw [Form.element, String.toList_ofList]
    cases given : form.attributes with
    | none => exact List.not_mem_nil
    | some inner => exact (form.attributes_closed inner given).2
  case content =>
    rw [Form.element, String.toList_ofList]
    cases given : form.content with
    | none => exact List.not_mem_nil
    | some inner => exact form.content_closed inner given
  case count =>
    cases given : form.digits with
    | none => simp [Form.element, given]
    | some digits =>
        have counted := (form.digits_count digits given).2.2.1
        simpa [Form.element, given] using counted

theorem tag_of_markup {head : Element} (notVerbatim : ¬ head.isVerbatim = true)
    (notRaw : ¬ head.isRaw = true) :
    head.tag ∉ ["script", "style", "html", "raw"] := by
  intro member
  have split : head.tag ∈ verbatimTags ++ [rawTag] := member
  rcases List.mem_append.mp split with verbatim | raw
  · exact notVerbatim (List.contains_iff_mem.mpr verbatim)
  · exact notRaw (beq_iff_eq.mpr (List.mem_singleton.mp raw))

end Element

/-! ## Tokens and chains -/

/-- A text that says something and has no blanks around it. -/
structure Line.IsTrimmedText (text : Line) : Prop where
  nonempty : text ≠ []
  trimmed : Text.trim text = text

theorem Combinator.isTrimmedText_of_mem_split
    {delimiter : Char} {line token : Line}
    (member : token ∈ split delimiter line) : token.IsTrimmedText := by
  unfold split at member
  dsimp only at member
  obtain ⟨inMap, visible⟩ := List.mem_filter.mp member
  obtain ⟨stretch, _, rfl⟩ := List.mem_map.mp inMap
  exact ⟨of_decide_eq_true visible, Text.trim_trim stretch⟩

theorem Line.isTrimmedText_of_mem_tokens {text : Line} {tokens : List Line}
    (isTrimmed : text.IsTrimmedText) (member : tokens ∈ text.tokens) :
    tokens ≠ [] ∧ ∀ token ∈ tokens, token.IsTrimmedText := by
  unfold Line.tokens at member
  split at member
  · rw [List.mem_singleton.mp member]
    exact ⟨List.cons_ne_nil _ _, List.forall_mem_singleton.mpr isTrimmed⟩
  · unfold Combinator.chains at member
    obtain ⟨inMap, nonempty⟩ := List.mem_filter.mp member
    obtain ⟨stretch, _, rfl⟩ := List.mem_map.mp inMap
    refine ⟨of_decide_eq_true nonempty, ?_⟩
    intro token inChain
    exact Combinator.isTrimmedText_of_mem_split inChain

def Link.IsWellFormed : Link → Prop
  | element described => described.IsWellFormed
  | literal text => Line.IsTrimmedText text.toList

structure Chain.IsWellFormed (chain : Chain) : Prop where
  nonempty : chain ≠ []
  links : ∀ link ∈ chain, link.IsWellFormed

theorem Link.isWellFormed_of_holds {token : Line} {link : Link}
    (isTrimmed : token.IsTrimmedText) (holds : link.Holds token) :
    link.IsWellFormed := by
  cases link with
  | element described => exact Element.isWellFormed_of_read? holds
  | literal text =>
      obtain ⟨_, rfl⟩ := holds
      rw [Link.IsWellFormed, String.toList_ofList]
      exact isTrimmed

theorem Chain.isWellFormed_of_holds {tokens : List Line} {chain : Chain}
    (nonempty : tokens ≠ [])
    (areTrimmed : ∀ token ∈ tokens, token.IsTrimmedText)
    (holds : List.Forall₂ (fun token link => link.Holds token) tokens chain) :
    chain.IsWellFormed where
  nonempty := by
    rintro rfl
    exact nonempty (List.forall₂_nil_right_iff.mp holds)
  links := by
    clear nonempty
    induction holds with
    | nil => exact fun _ member => absurd member List.not_mem_nil
    | cons linkHolds _ inductionHypothesis =>
        obtain ⟨isTrimmed, othersTrimmed⟩ :=
          List.forall_mem_cons.mp areTrimmed
        exact List.forall_mem_cons.mpr
          ⟨Link.isWellFormed_of_holds isTrimmed linkHolds,
            inductionHypothesis othersTrimmed⟩

/-! ## Nodes -/

namespace Node

/-- `node.WellFormed limit around` gives the conditions on a node with
`around` blocks around it and on all nodes inside of it, where at most `limit`
blocks may stand around each of them. -/
inductive WellFormed (limit : Nat) : Nat → Node → Prop
  | verbatim {around line : Nat} {head : Element} {text : String}
      (within : around ≤ limit) (isHead : head.IsHead)
      (tag : head.tag ∈ ["script", "style", "html"]) :
      WellFormed limit around (passage line head .verbatim text)
  | raw {around line : Nat} {head : Element} {text : String}
      (within : around ≤ limit) (isHead : head.IsHead)
      (tag : head.tag = "raw") :
      WellFormed limit around (passage line head .raw text)
  | markup {around line : Nat} {head : Element} {body : List Node}
      (within : around ≤ limit) (isHead : head.IsHead)
      (tag : head.tag ∉ ["script", "style", "html", "raw"])
      (inside : ∀ node ∈ body, WellFormed limit (around + 1) node) :
      WellFormed limit around (markup line head body)
  | inline {around line : Nat} {element : Element}
      (within : around ≤ limit) (wellFormed : element.IsWellFormed) :
      WellFormed limit around (inline line element)
  | nesting {around line : Nat} {chain : Chain}
      (within : around ≤ limit) (wellFormed : chain.IsWellFormed) :
      WellFormed limit around (nesting line chain)
  | siblings {around line : Nat} {parent : Chain} {others : List Chain}
      (within : around ≤ limit) (several : others ≠ [])
      (wellFormed : ∀ chain ∈ parent :: others, chain.IsWellFormed) :
      WellFormed limit around (siblings line parent others)

theorem isWellFormed_chains {text : Line} {chains : List Chain}
    (isTrimmed : text.IsTrimmedText)
    (holds : List.Forall₂ (List.Forall₂ fun token link => link.Holds token)
      text.tokens chains) :
    ∀ chain ∈ chains, chain.IsWellFormed := by
  have rows : ∀ tokens ∈ text.tokens,
      tokens ≠ [] ∧ ∀ token ∈ tokens, token.IsTrimmedText := by
    intro tokens member
    exact Line.isTrimmedText_of_mem_tokens isTrimmed member
  generalize text.tokens = tokenRows at rows holds
  induction holds with
  | nil => exact fun _ member => absurd member List.not_mem_nil
  | cons chainHolds _ inductionHypothesis =>
      obtain ⟨row, otherRows⟩ := List.forall_mem_cons.mp rows
      exact List.forall_mem_cons.mpr
        ⟨Chain.isWellFormed_of_holds row.1 row.2 chainHolds,
          inductionHypothesis otherRows⟩

theorem wellFormed_ofLine {line : SignificantLine} {limit around : Nat}
    (notOpener : Element.readOpener? line.text = none)
    (isTrimmed : line.text.IsTrimmedText) (within : around ≤ limit) :
    (ofLine line).1.WellFormed limit around := by
  have made := madeOf_ofLine notOpener
  generalize (ofLine line).1 = node at made
  cases node with
  | passage number head form text =>
      have opener : Element.readOpener? line.text = some head := made
      rw [notOpener] at opener
      contradiction
  | markup number head body =>
      have opener : Element.readOpener? line.text = some head := made
      rw [notOpener] at opener
      contradiction
  | inline number element =>
      exact .inline within (Element.isWellFormed_of_read? made.2)
  | nesting number chain =>
      obtain ⟨_, _, holds⟩ := made
      have wellFormed := isWellFormed_chains isTrimmed holds
      exact .nesting within (wellFormed chain List.mem_cons_self)
  | siblings number parent others =>
      obtain ⟨_, _, several, holds⟩ := made
      exact .siblings within several (isWellFormed_chains isTrimmed holds)

end Node

/-! ## Scopes -/

namespace Cursor

theorem isTrimmedText_of_next {cursor after : Cursor} {line : SignificantLine}
    (found : cursor.next = (.line line, after)) :
    line.text.IsTrimmedText := by
  have next := nextIs_of_next found
  cases next with
  | line _ _ _ significant => exact ⟨significant, Text.trim_trim _⟩

/-- Reading a scope gives well-formed nodes if not too many blocks stand
around it, and so does reading a block. -/
theorem wellFormed_invariant (options : Options) :
    Invariant options
      (fun depth _ parsed => depth ≤ options.maxBlockDepth →
        ∀ node ∈ parsed.document, node.WellFormed options.maxBlockDepth depth)
      (fun depth _ head _ read => depth ≤ options.maxBlockDepth →
        head.IsHead → read.1.WellFormed options.maxBlockDepth depth) where
  nothing _ _ _ member := absurd member List.not_mem_nil
  comment _ _ _ member := absurd member List.not_mem_nil
  unclosed _ _ _ _ _ member := absurd member List.not_mem_nil
  closed _ opener _ blockWellFormed restWellFormed within :=
    List.forall_mem_cons.mpr
      ⟨blockWellFormed within (Element.isHead_of_readOpener? opener),
        restWellFormed within⟩
  closing _ _ _ restWellFormed := restWellFormed
  line found notOpener _ restWellFormed within := by
    have isTrimmed := isTrimmedText_of_next found
    exact List.forall_mem_cons.mpr
      ⟨Node.wellFormed_ofLine notOpener isTrimmed within,
        restWellFormed within⟩
  verbatim isVerbatim within isHead :=
    .verbatim within isHead (List.contains_iff_mem.mp isVerbatim)
  raw isRaw within isHead := .raw within isHead (beq_iff_eq.mp isRaw)
  deep notVerbatim notRaw _ within isHead :=
    .markup within isHead (Element.tag_of_markup notVerbatim notRaw)
      fun _ member => absurd member List.not_mem_nil
  markup {depth number head body} notVerbatim notRaw shallow bodyWellFormed
      within isHead := by
    -- The limit was compared with the depth of what is inside of the block.
    have innerWithin : depth + 1 ≤ options.maxBlockDepth := by omega
    exact .markup within isHead (Element.tag_of_markup notVerbatim notRaw)
      (bodyWellFormed innerWithin)

end Cursor

/-- All nodes of a document, at every depth, are well formed. -/
def Document.WellFormed (limit : Nat) (document : Document) : Prop :=
  ∀ node ∈ document, node.WellFormed limit 0

/-- Reading gives well-formed documents only, with no more blocks around a
node than the options allow. -/
theorem Document.parse_wellFormed (options : Options) (source : String) :
    Document.WellFormed options.maxBlockDepth
      (Document.parse options source).document :=
  (Cursor.wellFormed_invariant options).parsed 0 ⟨1, sourceLines source.toList⟩
    (Nat.zero_le options.maxBlockDepth)

end TerseMarkup
