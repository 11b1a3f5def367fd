import TerseMarkup.Document.Scope

/-!
# The steps of reading a scope

What reading a scope comes to in each of the cases that the next line can be:
one equation for every way in which a scope ends and for every way in which
it goes on, and one for every kind of block. At an opener it comes to the
block that `Cursor.readBlock` finds there, followed by what is read behind it.
-/

namespace TerseMarkup

theorem Element.not_isVerbatim_of_isRaw {element : Element}
    (isRaw : element.isRaw = true) : ¬ element.isVerbatim = true := by
  have tag : element.tag = rawTag := by simpa [Element.isRaw] using isRaw
  rw [Element.isVerbatim, tag]
  decide

/-- What a scope is read as from an opener on. A block that is never closed
ends the scope, so that `later` plays no part in it. -/
def BlockFound.followedBy (found : BlockFound) (later : Parsed) : Parsed :=
  match found with
  | .block node reports =>
      { document := node :: later.document
        diagnostics := reports ++ later.diagnostics }
  | .unclosed fault => { diagnostics := [fault.diagnostic] }

namespace Cursor

variable {options : Options} {depth : Nat} {cursor after : Cursor}

section Opener

variable {number : Nat} {head : Element}

theorem readBlock_of_unclosed (unclosed : cursor.takeBody? = none) :
    cursor.readBlock options depth number head =
      (.unclosed (.unclosedBlock head.tag number), cursor.exhaust) := by
  rw [readBlock, unclosed]

theorem readBlock_of_closed {body rest : Cursor}
    (taken : cursor.takeBody? = some (body, rest)) :
    cursor.readBlock options depth number head =
      (.block (parseBlock options depth number head body).1
        (parseBlock options depth number head body).2, rest) := by
  rw [readBlock, taken]

end Opener

/-! ## Scopes -/

theorem parse_of_nothing (found : cursor.next = (.nothing, after)) :
    cursor.parse options depth = {} := by
  unfold parse
  split <;> simp_all

theorem parse_of_unclosedComment {line : Nat}
    (found : cursor.next = (.unclosedComment line, after)) :
    cursor.parse options depth =
      { diagnostics := [(Fault.unclosedComment line).diagnostic] } := by
  unfold parse
  split <;> simp_all

section Significant

variable {line : SignificantLine}
  (found : cursor.next = (.line line, after))

include found

theorem parse_of_significant :
    cursor.parse options depth =
      match Element.readOpener? line.text with
      | some head =>
          let (block, rest) :=
            after.readBlock options depth line.number head
          block.followedBy (rest.parse options depth)
      | none =>
          let later := after.parse options depth
          if line.text = closingLine then later
          else
            { document := (Node.ofLine line).1 :: later.document
              diagnostics := (Node.ofLine line).2 ++ later.diagnostics } := by
  rw [parse]
  split
  · simp_all
  · simp_all
  · rename_i next rest same
    obtain ⟨rfl, rfl⟩ : next = line ∧ rest = after := by simp_all
    cases Element.readOpener? next.text with
    | none => rfl
    | some head =>
        dsimp only
        split
        · rename_i unclosed
          rw [readBlock_of_unclosed unclosed]
          rfl
        · rename_i body behind taken
          rw [readBlock_of_closed taken]
          rfl

/-- At an opener, a scope is read as the block that is found there, followed
by what is read from behind it. -/
theorem parse_of_opener {head : Element}
    (opener : Element.readOpener? line.text = some head) :
    cursor.parse options depth =
      (after.readBlock options depth line.number head).1.followedBy
        ((after.readBlock options depth line.number head).2.parse options
          depth) := by
  rw [parse_of_significant found, opener]

theorem parse_of_unclosedBlock {head : Element}
    (opener : Element.readOpener? line.text = some head)
    (unclosed : after.takeBody? = none) :
    cursor.parse options depth =
      { diagnostics :=
          [(Fault.unclosedBlock head.tag line.number).diagnostic] } := by
  rw [parse_of_opener found opener, readBlock_of_unclosed unclosed,
    BlockFound.followedBy]

theorem parse_of_block {head : Element} {body rest : Cursor}
    (opener : Element.readOpener? line.text = some head)
    (taken : after.takeBody? = some (body, rest)) :
    cursor.parse options depth =
      { document :=
          (parseBlock options depth line.number head body).1 ::
            (rest.parse options depth).document
        diagnostics :=
          (parseBlock options depth line.number head body).2 ++
            (rest.parse options depth).diagnostics } := by
  rw [parse_of_opener found opener, readBlock_of_closed taken,
    BlockFound.followedBy]

theorem parse_of_closing
    (notOpener : Element.readOpener? line.text = none)
    (closing : line.text = closingLine) :
    cursor.parse options depth = after.parse options depth := by
  rw [parse_of_significant found, notOpener]
  simp only [if_pos closing]

theorem parse_of_line
    (notOpener : Element.readOpener? line.text = none)
    (notClosing : line.text ≠ closingLine) :
    cursor.parse options depth =
      { document :=
          (Node.ofLine line).1 :: (after.parse options depth).document
        diagnostics :=
          (Node.ofLine line).2 ++
            (after.parse options depth).diagnostics } := by
  rw [parse_of_significant found, notOpener]
  simp only [if_neg notClosing]

end Significant

/-- Reading depends only on what is found next. -/
theorem parse_of_next_eq {other : Cursor} (same : other.next = cursor.next) :
    other.parse options depth = cursor.parse options depth := by
  cases found : cursor.next with
  | mk result after =>
      rw [found] at same
      cases result with
      | nothing => rw [parse_of_nothing found, parse_of_nothing same]
      | unclosedComment line =>
          rw [parse_of_unclosedComment found, parse_of_unclosedComment same]
      | line line =>
          rw [parse_of_significant found, parse_of_significant same]

/-! ## Blocks -/

section Block

variable {number : Nat} {head : Element} {body : Cursor}

theorem parseBlock_of_isVerbatim (isVerbatim : head.isVerbatim = true) :
    parseBlock options depth number head body =
      (.passage number head .verbatim (textOfLines body.remaining), []) := by
  rw [parseBlock, if_pos isVerbatim]

theorem parseBlock_of_isRaw (isRaw : head.isRaw = true) :
    parseBlock options depth number head body =
      (.passage number head .raw (textOfLines body.remaining), []) := by
  rw [parseBlock, if_neg (Element.not_isVerbatim_of_isRaw isRaw), if_pos isRaw]

variable (notVerbatim : ¬ head.isVerbatim = true)
  (notRaw : ¬ head.isRaw = true)

include notVerbatim notRaw

theorem parseBlock_of_tooDeep (tooDeep : options.maxBlockDepth < depth + 1) :
    parseBlock options depth number head body =
      (.markup number head [],
        [(Fault.tooDeep head.tag options.maxBlockDepth
          number).diagnostic]) := by
  rw [parseBlock, if_neg notVerbatim, if_neg notRaw, if_pos tooDeep]

theorem parseBlock_of_markup (shallow : ¬ options.maxBlockDepth < depth + 1) :
    parseBlock options depth number head body =
      (.markup number head (body.parse options (depth + 1)).document,
        (body.parse options (depth + 1)).diagnostics) := by
  rw [parseBlock, if_neg notVerbatim, if_neg notRaw, if_neg shallow]

end Block

/-! ## Invariants of reading -/

/-- Every way of reading keeps `scope` of what a scope is read as and `block`
of what a block is read as: scopes that end in each of the three ways, scopes
that go on behind a block or a line, and the four kinds of blocks. -/
structure Invariant (options : Options)
    (scope : Nat → Cursor → Parsed → Prop)
    (block : Nat → Nat → Element → Cursor → Node × List Diagnostic → Prop) :
    Prop where
  nothing : ∀ {depth : Nat} {cursor after : Cursor},
    cursor.next = (.nothing, after) → scope depth cursor {}
  comment : ∀ {depth line : Nat} {cursor after : Cursor},
    cursor.next = (.unclosedComment line, after) →
    scope depth cursor
      { diagnostics := [(Fault.unclosedComment line).diagnostic] }
  unclosed : ∀ {depth : Nat} {cursor after : Cursor} {line : SignificantLine}
    {head : Element},
    cursor.next = (.line line, after) →
    Element.readOpener? line.text = some head → after.takeBody? = none →
    scope depth cursor
      { diagnostics :=
          [(Fault.unclosedBlock head.tag line.number).diagnostic] }
  closed : ∀ {depth : Nat} {cursor after body rest : Cursor}
    {line : SignificantLine} {head : Element},
    cursor.next = (.line line, after) →
    Element.readOpener? line.text = some head →
    after.takeBody? = some (body, rest) →
    block depth line.number head body
      (parseBlock options depth line.number head body) →
    scope depth rest (rest.parse options depth) →
    scope depth cursor
      { document :=
          (parseBlock options depth line.number head body).1 ::
            (rest.parse options depth).document
        diagnostics :=
          (parseBlock options depth line.number head body).2 ++
            (rest.parse options depth).diagnostics }
  closing : ∀ {depth : Nat} {cursor after : Cursor} {line : SignificantLine},
    cursor.next = (.line line, after) →
    Element.readOpener? line.text = none → line.text = closingLine →
    scope depth after (after.parse options depth) →
    scope depth cursor (after.parse options depth)
  line : ∀ {depth : Nat} {cursor after : Cursor} {line : SignificantLine},
    cursor.next = (.line line, after) →
    Element.readOpener? line.text = none → line.text ≠ closingLine →
    scope depth after (after.parse options depth) →
    scope depth cursor
      { document :=
          (Node.ofLine line).1 :: (after.parse options depth).document
        diagnostics :=
          (Node.ofLine line).2 ++ (after.parse options depth).diagnostics }
  verbatim : ∀ {depth number : Nat} {head : Element} {body : Cursor},
    head.isVerbatim = true →
    block depth number head body
      (.passage number head .verbatim (textOfLines body.remaining), [])
  raw : ∀ {depth number : Nat} {head : Element} {body : Cursor},
    head.isRaw = true →
    block depth number head body
      (.passage number head .raw (textOfLines body.remaining), [])
  deep : ∀ {depth number : Nat} {head : Element} {body : Cursor},
    ¬ head.isVerbatim = true → ¬ head.isRaw = true →
    options.maxBlockDepth < depth + 1 →
    block depth number head body
      (.markup number head [],
        [(Fault.tooDeep head.tag options.maxBlockDepth number).diagnostic])
  markup : ∀ {depth number : Nat} {head : Element} {body : Cursor},
    ¬ head.isVerbatim = true → ¬ head.isRaw = true →
    ¬ options.maxBlockDepth < depth + 1 →
    scope (depth + 1) body (body.parse options (depth + 1)) →
    block depth number head body
      (.markup number head (body.parse options (depth + 1)).document,
        (body.parse options (depth + 1)).diagnostics)

section Induction

variable {scope : Nat → Cursor → Parsed → Prop}
  {block : Nat → Nat → Element → Cursor → Node × List Diagnostic → Prop}

/-- What every way of reading keeps holds of all that is read. -/
theorem parse_induction (invariant : Invariant options scope block) :
    (∀ depth cursor, scope depth cursor (cursor.parse options depth)) ∧
      ∀ depth number head body,
        block depth number head body
          (parseBlock options depth number head body) := by
  apply Cursor.parse.mutual_induct options
    (fun depth cursor => scope depth cursor (cursor.parse options depth))
    (fun depth number head body =>
      block depth number head body
        (parseBlock options depth number head body))
  · intro depth cursor after found
    rw [parse_of_nothing found]
    exact invariant.nothing found
  · intro depth cursor number after found
    rw [parse_of_unclosedComment found]
    exact invariant.comment found
  · intro depth cursor line after found _ head opener missing
    rw [parse_of_unclosedBlock found opener missing]
    exact invariant.unclosed found opener missing
  · intro depth cursor line after found _ head opener body rest taken _
      _ _ _ blockHolds restHolds
    rw [parse_of_block found opener taken]
    exact invariant.closed found opener taken blockHolds restHolds
  · intro depth cursor line after found _ notOpener isClosing restHolds
    rw [parse_of_closing found notOpener isClosing]
    exact invariant.closing found notOpener isClosing restHolds
  · intro depth cursor line after found _ notOpener notClosing _ _ _
      restHolds
    rw [parse_of_line found notOpener notClosing]
    exact invariant.line found notOpener notClosing restHolds
  · intro depth number head body isVerbatim
    rw [parseBlock_of_isVerbatim isVerbatim]
    exact invariant.verbatim isVerbatim
  · intro depth number head body _ isRaw
    rw [parseBlock_of_isRaw isRaw]
    exact invariant.raw isRaw
  · intro depth number head body notVerbatim notRaw tooDeep
    rw [parseBlock_of_tooDeep notVerbatim notRaw tooDeep]
    exact invariant.deep notVerbatim notRaw tooDeep
  · intro depth number head body notVerbatim notRaw shallow bodyHolds
    rw [parseBlock_of_markup notVerbatim notRaw shallow]
    exact invariant.markup notVerbatim notRaw shallow bodyHolds

theorem Invariant.parsed (invariant : Invariant options scope block)
    (depth : Nat) (cursor : Cursor) :
    scope depth cursor (cursor.parse options depth) :=
  (parse_induction invariant).1 depth cursor

end Induction

/-- A block keeps the number of its opener. -/
theorem line_parseBlock
    (options : Options) (depth line : Nat) (head : Element) (body : Cursor) :
    (parseBlock options depth line head body).1.line = line := by
  rw [parseBlock]
  split
  · rfl
  · split
    · rfl
    · split <;> rfl

end Cursor

namespace Node

/-- A line keeps its number. -/
theorem line_ofLine (line : SignificantLine) :
    (ofLine line).1.line = line.number := by
  unfold ofLine
  split
  · rfl
  · dsimp only
    split <;> rfl

/-- The reports on a line that is no element are those on its tokens. -/
theorem reports_ofLine {line : SignificantLine}
    (notElement : Element.read? line.text = none) :
    (ofLine line).2 =
      (line.tokens.map (Chain.ofTokens line.number)).flatMap (·.2) := by
  unfold ofLine
  rw [notElement]
  dsimp only
  split <;> rfl

end Node

end TerseMarkup
