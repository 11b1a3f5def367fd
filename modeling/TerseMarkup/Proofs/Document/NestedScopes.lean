import TerseMarkup.Proofs.Document.Literals
import TerseMarkup.Proofs.Element.Grammar
import TerseMarkup.Proofs.Source.Placement
import TerseMarkup.Proofs.Text.Trimming

/-!
# Blocks inside of blocks

The end of a block is found by counting lines as they are in the source, while
the scope inside of it finds its openers in what the lines say without their
comments. Where the two agree on an opener, the block that it opens is closed
inside of the body. Only an opener with a comment behind it can be left open
there.
-/

namespace TerseMarkup.Cursor

/-! ## The course of reading -/

/-- `OpenerAt position line head after` says that the next significant line
opens a block with the given head, and that `after` stands behind it. -/
structure OpenerAt (position : Cursor) (line : SignificantLine)
    (head : Element) (after : Cursor) : Prop where
  found : position.next = (.line line, after)
  opener : Element.readOpener? line.text = some head

/-- `Reads options source depth scope position` says that reading the source
comes to `position` in the scope `scope`, with `depth` blocks around it. Every
scope but the first one is the body of a block. -/
inductive Reads (options : Options) (source : Cursor) :
    Nat → Cursor → Cursor → Prop
  | start : Reads options source 0 source source
  | pass {depth : Nat} {scope position after : Cursor}
      {line : SignificantLine} :
      Reads options source depth scope position →
      position.next = (.line line, after) →
      Element.readOpener? line.text = none →
      Reads options source depth scope after
  | leave {depth : Nat} {scope position after body rest : Cursor}
      {line : SignificantLine} {head : Element} :
      Reads options source depth scope position →
      OpenerAt position line head after →
      after.takeBody? = some (body, rest) →
      Reads options source depth scope rest
  | enter {depth : Nat} {scope position after body rest : Cursor}
      {line : SignificantLine} {head : Element} :
      Reads options source depth scope position →
      OpenerAt position line head after →
      after.takeBody? = some (body, rest) →
      ¬ head.isVerbatim = true → ¬ head.isRaw = true →
      ¬ options.maxBlockDepth < depth + 1 →
      Reads options source (depth + 1) body body

/-- The scope has an opener on the line with the given number whose block is
not closed in it. -/
def UnclosedAt (options : Options) (source : Cursor) (depth : Nat)
    (scope : Cursor) (number : Nat) : Prop :=
  ∃ (position after : Cursor) (line : SignificantLine) (head : Element),
    Reads options source depth scope position ∧
      OpenerAt position line head after ∧
      after.takeBody? = none ∧ line.number = number

variable {options : Options} {source scope position after : Cursor}
  {depth : Nat} {line : SignificantLine} {head : Element}

theorem OpenerAt.behind (openerAt : OpenerAt position line head after)
    (behind : position.Behind scope) :
    ∃ raw : Line,
      raw.significant = line.text ∧ after.Behind scope ∧
        (Cursor.mk line.number (raw :: after.remaining)).Behind scope := by
  obtain ⟨raw, _, significant, afterNumber, rawBehind⟩ :=
    behind_of_next openerAt.found
  have rawInScope := rawBehind.trans behind
  exact ⟨raw, significant, rawInScope.next afterNumber, rawInScope⟩

theorem Reads.behind (reads : Reads options source depth scope position) :
    position.Behind scope := by
  induction reads with
  | start => exact Behind.refl _
  | pass _ found _ inductionHypothesis =>
      obtain ⟨raw, _, _, afterNumber, rawBehind⟩ := behind_of_next found
      exact (rawBehind.next afterNumber).trans inductionHypothesis
  | leave _ openerAt taken inductionHypothesis =>
      obtain ⟨raw, _, afterBehind, _⟩ := openerAt.behind inductionHypothesis
      obtain ⟨_, restBehind, _⟩ := inside_of_takeBody? taken
      exact restBehind.trans afterBehind
  | enter => exact Behind.refl _

theorem Reads.inside (reads : Reads options source depth scope position) :
    scope.Inside source := by
  induction reads with
  | start => exact Inside.refl _
  | pass _ _ _ inductionHypothesis => exact inductionHypothesis
  | leave _ _ _ inductionHypothesis => exact inductionHypothesis
  | enter reads openerAt taken _ _ _ inductionHypothesis =>
      obtain ⟨raw, _, afterBehind, _⟩ := openerAt.behind reads.behind
      obtain ⟨bodyInside, _, _⟩ := inside_of_takeBody? taken
      exact (bodyInside.trans afterBehind.inside).trans inductionHypothesis

theorem Reads.isBody (reads : Reads options source depth scope position)
    (nested : 0 < depth) :
    ∃ closer, IsBody 0 scope.remaining closer := by
  induction reads with
  | start => exact absurd nested (Nat.lt_irrefl 0)
  | pass _ _ _ inductionHypothesis => exact inductionHypothesis nested
  | leave _ _ _ inductionHypothesis => exact inductionHypothesis nested
  | enter _ _ taken =>
      obtain ⟨closer, _, isBody, _, _⟩ := isBody_of_takeBody? taken
      exact ⟨closer, isBody⟩

/-! ## What is reported -/

/-- What is reported from some place on is part of what is reported of the
source. -/
theorem Reads.diagnostics_infix
    (reads : Reads options source depth scope position) :
    (position.parse options depth).diagnostics <:+:
      (source.parse options 0).diagnostics := by
  induction reads with
  | start => exact List.infix_rfl
  | @pass depth scope position after line _ found notOpener
      inductionHypothesis =>
      refine List.IsInfix.trans ?_ inductionHypothesis
      by_cases closing : line.text = closingLine
      · simp only [parse_of_closing found notOpener closing, List.infix_rfl]
      · rw [parse_of_line found notOpener closing]
        exact (List.suffix_append _ _).isInfix
  | leave _ openerAt taken inductionHypothesis =>
      refine List.IsInfix.trans ?_ inductionHypothesis
      rw [parse_of_block openerAt.found openerAt.opener taken]
      exact (List.suffix_append _ _).isInfix
  | enter _ openerAt taken notVerbatim notRaw shallow inductionHypothesis =>
      refine List.IsInfix.trans ?_ inductionHypothesis
      rw [parse_of_block openerAt.found openerAt.opener taken,
        parseBlock_of_markup notVerbatim notRaw shallow]
      exact (List.prefix_append _ _).isInfix

/-- A report is none of an unclosed block, or it is that of a block that some
scope leaves open. -/
def Accounted (options : Options) (source : Cursor)
    (diagnostics : List Diagnostic) : Prop :=
  ∀ diagnostic ∈ diagnostics, diagnostic.kind = .unclosedBlock →
    ∃ number, diagnostic.line = some number ∧
      ∃ depth scope, UnclosedAt options source depth scope number

theorem Accounted.append {first second : List Diagnostic}
    (firstAccounted : Accounted options source first)
    (secondAccounted : Accounted options source second) :
    Accounted options source (first ++ second) := by
  intro diagnostic member
  rcases List.mem_append.mp member with inFirst | inSecond
  · exact firstAccounted diagnostic inFirst
  · exact secondAccounted diagnostic inSecond

theorem Accounted.nil : Accounted options source [] := by
  intro diagnostic member
  contradiction

theorem accounted_of_kind {diagnostics : List Diagnostic}
    (other : ∀ diagnostic ∈ diagnostics, diagnostic.kind ≠ .unclosedBlock) :
    Accounted options source diagnostics := by
  intro diagnostic member isUnclosed
  exact absurd isUnclosed (other diagnostic member)

theorem accounted_singleton {fault : Fault}
    (other : fault.kind ≠ .unclosedBlock) :
    Accounted options source [fault.diagnostic] := by
  apply accounted_of_kind
  intro diagnostic member
  rw [List.mem_singleton.mp member, Fault.diagnostic_kind]
  exact other

theorem accounted_invariant (options : Options) (source : Cursor) :
    Invariant options
      (fun depth cursor parsed =>
        ∀ scope, Reads options source depth scope cursor →
          Accounted options source parsed.diagnostics)
      (fun depth _ head body read =>
        (¬ head.isVerbatim = true → ¬ head.isRaw = true →
          ¬ options.maxBlockDepth < depth + 1 →
            Reads options source (depth + 1) body body) →
          Accounted options source read.2) where
  nothing _ _ _ := Accounted.nil
  comment _ _ _ := accounted_singleton (by simp [Fault.kind])
  unclosed {depth cursor after line head} found opener unclosed scope reads
      diagnostic member _ := by
    rw [List.mem_singleton.mp member]
    exact ⟨line.number, rfl, depth, scope, cursor, after, line, head, reads,
      ⟨found, opener⟩, unclosed, rfl⟩
  closed found opener taken blockAccounted restAccounted scope reads :=
    -- A body is read as a scope of its own only if the block is neither text
    -- nor too deep, which is what `Reads.enter` asks for.
    (blockAccounted (reads.enter ⟨found, opener⟩ taken)).append
      (restAccounted scope (reads.leave ⟨found, opener⟩ taken))
  closing found notOpener _ restAccounted scope reads :=
    restAccounted scope (reads.pass found notOpener)
  line found notOpener _ restAccounted scope reads := by
    refine Accounted.append ?_
      (restAccounted scope (reads.pass found notOpener))
    apply accounted_of_kind
    intro diagnostic member
    rw [Node.reports_ofLine_eq] at member
    rw [Node.kind_of_mem_literalReports member]
    decide
  verbatim _ _ := Accounted.nil
  raw _ _ := Accounted.nil
  deep _ _ _ _ := accounted_singleton (by simp [Fault.kind])
  markup notVerbatim notRaw shallow bodyAccounted reads :=
    bodyAccounted _ (reads notVerbatim notRaw shallow)

/-- The unclosed blocks that are reported are those that a scope leaves
open. -/
theorem unclosedBlock_mem_iff (number : Nat) :
    (∃ diagnostic ∈ (source.parse options 0).diagnostics,
      diagnostic.kind = .unclosedBlock ∧ diagnostic.line = some number) ↔
    ∃ depth scope, UnclosedAt options source depth scope number := by
  constructor
  · rintro ⟨diagnostic, member, isUnclosed, onLine⟩
    obtain ⟨other, onOther, unclosed⟩ :=
      (accounted_invariant options source).parsed 0 source source Reads.start
        diagnostic member isUnclosed
    rw [onLine] at onOther
    rw [Option.some.inj onOther]
    exact unclosed
  · rintro ⟨depth, scope, position, after, line, head, reads, openerAt,
      missing, rfl⟩
    have part := reads.diagnostics_infix
    rw [parse_of_unclosedBlock openerAt.found openerAt.opener missing] at part
    exact ⟨_, part.subset List.mem_cons_self, rfl, rfl⟩

/-! ## Openers inside of a body -/

/-- An opener that is also counted as one is closed in its scope, if that is
the body of a block. -/
theorem Reads.closes_opener
    (reads : Reads options source depth scope position) (nested : 0 < depth)
    (openerAt : OpenerAt position line head after) {raw : Line}
    (rawBehind :
      (Cursor.mk line.number (raw :: after.remaining)).Behind scope)
    (opening : opensBlock raw = true) :
    ∃ body rest, after.takeBody? = some (body, rest) ∧ rest.Behind scope := by
  obtain ⟨closer, isBody⟩ := reads.isBody nested
  obtain ⟨before, split, _⟩ := rawBehind
  obtain ⟨_, _, afterBehind, _⟩ := openerAt.behind reads.behind
  cases taken : after.takeBody? with
  | none =>
      -- The count of the enclosing block would still be open at its end.
      have staysOpen := takeBody?_eq_none_iff.mp taken
      exact absurd staysOpen (isBody.not_staysOpen split opening)
  | some bodyAndRest =>
      obtain ⟨body, rest⟩ := bodyAndRest
      obtain ⟨_, restBehind, _⟩ := inside_of_takeBody? taken
      exact ⟨body, rest, rfl, restBehind.trans afterBehind⟩

/-- A line that opens a block and is not counted as an opener has a comment
behind the opener. -/
theorem keep_ne_of_not_opensBlock {raw : Line}
    (opener : Element.readOpener? raw.significant = some head)
    (notOpening : opensBlock raw = false) :
    Comment.keep .outside true (Text.trim raw) ≠ Text.trim raw := by
  intro kept
  have same : raw.significant = Text.trim raw := by
    rw [Line.significant, Comment.strip, kept, Text.trim_trim]
  have ends := Form.suffix_of_readOpener? opener
  rw [same, ← opensBlock_iff, notOpening] at ends
  contradiction

end TerseMarkup.Cursor

namespace TerseMarkup

/-- The unclosed blocks that are reported are those that a scope of the source
leaves open. A scope that is the body of a block leaves one open only if a
comment hides the opener from the count of the enclosing block; all its other
openers find their closing lines inside of it. -/
theorem Document.parse_nested_blocks (options : Options) (source : String) :
    (∀ number,
      (∃ diagnostic ∈ (Document.parse options source).diagnostics,
        diagnostic.kind = .unclosedBlock ∧
          diagnostic.line = some number) ↔
      ∃ depth scope,
        Cursor.UnclosedAt options ⟨1, sourceLines source.toList⟩ depth scope
          number) ∧
    (∀ depth scope number, 0 < depth →
      Cursor.UnclosedAt options ⟨1, sourceLines source.toList⟩ depth scope
        number →
      ∃ raw, (sourceLines source.toList)[number - 1]? = some raw ∧
        Cursor.opensBlock raw = false ∧
        Comment.keep .outside true (Text.trim raw) ≠ Text.trim raw) ∧
    (∀ depth scope position line head after raw, 0 < depth →
      Cursor.Reads options ⟨1, sourceLines source.toList⟩ depth scope
        position →
      Cursor.OpenerAt position line head after →
      (sourceLines source.toList)[line.number - 1]? = some raw →
      Cursor.opensBlock raw = true →
      ∃ body rest, after.takeBody? = some (body, rest) ∧
        rest.Behind scope) := by
  refine ⟨fun number => Cursor.unclosedBlock_mem_iff number, ?_, ?_⟩
  · rintro depth scope number nested
      ⟨position, after, line, head, reads, openerAt, missing, rfl⟩
    obtain ⟨raw, significant, _, rawBehind⟩ := openerAt.behind reads.behind
    have place := (rawBehind.first.trans reads.inside).getElem?
    have notOpening : Cursor.opensBlock raw = false := by
      by_contra opening
      obtain ⟨body, rest, taken, _⟩ :=
        reads.closes_opener nested openerAt rawBehind (by simpa using opening)
      rw [missing] at taken
      contradiction
    have opener := openerAt.opener
    rw [← significant] at opener
    exact ⟨raw, place, notOpening,
      Cursor.keep_ne_of_not_opensBlock opener notOpening⟩
  · intro depth scope position line head after raw nested reads openerAt
      onLine opening
    obtain ⟨found, _, _, rawBehind⟩ := openerAt.behind reads.behind
    have place := (rawBehind.first.trans reads.inside).getElem?
    have same : found = raw := Option.some.inj (place.symm.trans onLine)
    rw [same] at rawBehind
    exact reads.closes_opener nested openerAt rawBehind opening

/-- An opener with a comment behind it in the body of a block, and one closing
line. -/
def Document.hiddenOpener : String :=
  "div\\\x7b\np\\\x7b # note\n\\\x7d"

/-- The comment hides the inner opener from the count, so that the closing
line ends the outer block. -/
theorem Document.parse_nested_blocks_hidden :
    Cursor.UnclosedAt {} ⟨1, sourceLines hiddenOpener.toList⟩ 1
        ⟨2, ["p\\\x7b # note".toList]⟩ 2 ∧
      ∃ raw, (sourceLines hiddenOpener.toList)[1]? = some raw ∧
        Cursor.opensBlock raw = false ∧
        Comment.keep .outside true (Text.trim raw) ≠ Text.trim raw := by
  have outer : Cursor.OpenerAt ⟨1, sourceLines hiddenOpener.toList⟩
      ⟨1, "div\\\x7b".toList⟩ { tag := "div" }
      ⟨2, ["p\\\x7b # note".toList, "\\\x7d".toList]⟩ :=
    ⟨by decide +kernel, by decide +kernel⟩
  have taken : Cursor.takeBody?
      ⟨2, ["p\\\x7b # note".toList, "\\\x7d".toList]⟩ =
        some (⟨2, ["p\\\x7b # note".toList]⟩, ⟨4, []⟩) := by
    decide +kernel
  have inner : Cursor.OpenerAt ⟨2, ["p\\\x7b # note".toList]⟩
      ⟨2, "p\\\x7b".toList⟩ { tag := "p" } ⟨3, []⟩ :=
    ⟨by decide +kernel, by decide +kernel⟩
  have reads := @Cursor.Reads.start {} ⟨1, sourceLines hiddenOpener.toList⟩
  have unclosed : Cursor.UnclosedAt {}
      ⟨1, sourceLines hiddenOpener.toList⟩ 1
      ⟨2, ["p\\\x7b # note".toList]⟩ 2 :=
    ⟨_, _, _, _, reads.enter outer taken (by decide +kernel)
      (by decide +kernel) (by decide), inner, rfl, rfl⟩
  exact ⟨unclosed, (Document.parse_nested_blocks {} hiddenOpener).2.1 1 _ 2
    Nat.one_pos unclosed⟩

end TerseMarkup
