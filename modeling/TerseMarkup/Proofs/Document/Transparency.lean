import TerseMarkup.Compilation
import TerseMarkup.Proofs.Document.NestedScopes
import TerseMarkup.Proofs.Source.Lines
import TerseMarkup.Proofs.Source.TrailingComment

/-!
# Changes to a line that go unnoticed

A line of a source is looked at by the scope that it belongs to, which asks
what the line says, and by every block around it, which asks whether the line
counts as opening or closing a block. A change to the line that leaves these
answers as they are leaves the document and the reports as they are. A comment
behind a line is such a change, unless the count of a block looks at the line
and takes it for something else than before.
-/

namespace TerseMarkup

/-- Two places in a list: one comes before the other, or they are the same. -/
theorem split_cases {α : Type} {before after first second : List α}
    {item other : α}
    (same : before ++ item :: after = first ++ other :: second) :
    (∃ middle, first = before ++ item :: middle ∧
        after = middle ++ other :: second) ∨
      (first = before ∧ other = item ∧ second = after) ∨
      (∃ middle, before = first ++ other :: middle ∧
        second = middle ++ item :: after) := by
  rcases List.append_eq_append_iff.mp same with
    ⟨middle, rfl, split⟩ | ⟨middle, rfl, split⟩
  · cases middle with
    | nil =>
        obtain ⟨rfl, rfl⟩ := List.cons.inj split
        exact Or.inr (Or.inl ⟨List.append_nil _, rfl, rfl⟩)
    | cons head rest =>
        obtain ⟨rfl, rfl⟩ := List.cons.inj split
        exact Or.inl ⟨rest, rfl, rfl⟩
  · cases middle with
    | nil =>
        obtain ⟨rfl, rfl⟩ := List.cons.inj split
        exact Or.inr (Or.inl ⟨(List.append_nil _).symm, rfl, rfl⟩)
    | cons head rest =>
        obtain ⟨rfl, rfl⟩ := List.cons.inj split
        exact Or.inr (Or.inr ⟨rest, rfl, rfl⟩)

namespace Cursor

/-! ## Where a line stands -/

/-- The line with the given number is `line`, between `before` and `after`. -/
structure Splits (cursor : Cursor) (number : Nat)
    (before : List Line) (line : Line) (after : List Line) : Prop where
  lines : cursor.remaining = before ++ line :: after
  place : number = cursor.number + before.length

/-- The lines say nothing, and a block comment in them is still open at their
end. -/
def LeavesComment (lines : List Line) : Prop :=
  ∃ skipped opener inside,
    Skipped skipped ∧ opensComment opener = true ∧
      (∀ line ∈ inside, closesComment line = false) ∧
      lines = skipped ++ opener :: inside

/-- The line with the given number belongs to a block comment that reading
passes over; it is not the line that opens it. -/
def InComment (options : Options) (source : Cursor) (number : Nat) : Prop :=
  ∃ depth scope position before line after,
    Reads options source depth scope position ∧
      position.Splits number before line after ∧ LeavesComment before

/-- The line with the given number is in the body of a block that is taken as
text, verbatim or raw. -/
def InText (options : Options) (source : Cursor) (number : Nat) : Prop :=
  ∃ depth scope position line head after body rest,
    Reads options source depth scope position ∧
      OpenerAt position line head after ∧
      after.takeBody? = some (body, rest) ∧
      (head.isVerbatim = true ∨ head.isRaw = true) ∧
      body.number ≤ number ∧ number < body.stop

/-- The search for the end of some block looks at the line with the given
number: it comes after an opener and not after the end of its block. -/
def Counted (options : Options) (source : Cursor) (number : Nat) : Prop :=
  ∃ depth scope position line head after,
    Reads options source depth scope position ∧
      OpenerAt position line head after ∧ after.number ≤ number ∧
      ∀ body rest, after.takeBody? = some (body, rest) →
        number < rest.number

theorem LeavesComment.prepend {first lines : List Line}
    (skipped : Skipped first) (leaves : LeavesComment lines) :
    LeavesComment (first ++ lines) := by
  obtain ⟨others, opener, inside, othersSkipped, opening, unclosed, rfl⟩ :=
    leaves
  exact ⟨first ++ others, opener, inside, skipped.append othersSkipped,
    opening, unclosed, (List.append_assoc _ _ _).symm⟩

/-- A line that is passed over is blank, opens a block comment, or belongs to
one. -/
theorem Skipped.cases_at {lines before after : List Line} {line : Line}
    (skipped : Skipped lines) (split : lines = before ++ line :: after) :
    line.significant = [] ∨ opensComment line = true ∨
      LeavesComment before := by
  induction skipped generalizing before with
  | nil => simp at split
  | @blank first rest plain empty _ inductionHypothesis =>
      cases before with
      | nil =>
          obtain ⟨rfl, _⟩ := List.cons.inj split
          exact Or.inl empty
      | cons head others =>
          obtain ⟨rfl, later⟩ := List.cons.inj split
          have firstSkipped := Skipped.blank plain empty Skipped.nil
          rcases inductionHypothesis later with blank | opening | leaves
          · exact Or.inl blank
          · exact Or.inr (Or.inl opening)
          · exact Or.inr (Or.inr (leaves.prepend firstSkipped))
  | @comment opener closer inside rest opening unclosed closing _
      inductionHypothesis =>
      cases before with
      | nil =>
          obtain ⟨rfl, _⟩ := List.cons.inj split
          exact Or.inr (Or.inl opening)
      | cons head others =>
          obtain ⟨rfl, later⟩ := List.cons.inj split
          rcases split_cases later.symm with
            ⟨middle, rfl, _⟩ | ⟨rfl, _, _⟩ | ⟨middle, rfl, restSplit⟩
          · refine Or.inr (Or.inr ⟨[], opener, others, Skipped.nil, opening,
              ?_, rfl⟩)
            intro other member
            exact unclosed other (List.mem_append_left _ member)
          · exact Or.inr (Or.inr
              ⟨[], opener, inside, Skipped.nil, opening, unclosed, rfl⟩)
          · have comment :=
              Skipped.comment opening unclosed closing Skipped.nil
            rcases inductionHypothesis restSplit with
              blank | opens | leaves
            · exact Or.inl blank
            · exact Or.inr (Or.inl opens)
            · refine Or.inr (Or.inr ?_)
              have whole := leaves.prepend comment
              simpa using whole

/-! ## A change to a line -/

/-- What has to hold of a change to the line with the given number, from
`line` to `changed`, for the source to be read as before. -/
structure Unnoticed (options : Options) (source : Cursor) (number : Nat)
    (line changed : Line) : Prop where
  plain : opensComment line = false
  changedPlain : opensComment changed = false
  significant : line.significant ≠ []
  sameText : changed.significant = line.significant
  outsideComment : ¬ InComment options source number
  outsideText : ¬ InText options source number
  sameCount : Counted options source number →
    opensBlock changed = opensBlock line ∧
      closesBlock changed = closesBlock line

section Change

variable {options : Options} {source scope position after : Cursor}
  {depth number : Nat} {line changed : Line} {before behind : List Line}
  (unnoticed : Unnoticed options source number line changed)

include unnoticed

/-- The line is not passed over. -/
theorem Unnoticed.not_skipped
    (reads : Reads options source depth scope position)
    (splits : position.Splits number before line behind)
    (middle : List Line) : ¬ Skipped (before ++ line :: middle) := by
  intro skipped
  rcases skipped.cases_at rfl with blank | opening | leaves
  · exact unnoticed.significant blank
  · rw [unnoticed.plain] at opening
    contradiction
  · exact unnoticed.outsideComment
      ⟨depth, scope, position, before, line, behind, reads, splits, leaves⟩

/-- The next significant line is the line itself, which says the same as
before, or it comes before the line. -/
theorem Unnoticed.next {result : Found}
    (reads : Reads options source depth scope position)
    (splits : position.Splits number before line behind)
    (next : position.next = (result, after)) :
    ∃ found, result = .line found ∧
      ((Cursor.mk position.number (before ++ changed :: behind)).next =
          (result, after) ∨
        ∃ middle, after.Splits number middle line behind ∧
          (Cursor.mk position.number (before ++ changed :: behind)).next =
            (result, ⟨after.number, middle ++ changed :: behind⟩)) := by
  have nextIs := nextIs_of_next next
  rw [splits.lines] at nextIs
  cases nextIs with
  | nothing skipped =>
      exact absurd skipped (unnoticed.not_skipped reads splits behind)
  | @unclosedComment skipped rest opener isSkipped split opening unclosed =>
      rcases split_cases split with
        ⟨middle, rfl, _⟩ | ⟨_, rfl, _⟩ | ⟨middle, rfl, rfl⟩
      · exact absurd isSkipped (unnoticed.not_skipped reads splits middle)
      · rw [unnoticed.plain] at opening
        contradiction
      · have leaves : LeavesComment (skipped ++ opener :: middle) :=
          ⟨skipped, opener, middle, isSkipped, opening,
            fun other member =>
              unclosed other (List.mem_append_left _ member), rfl⟩
        exact absurd ⟨depth, scope, position, _, line, behind, reads, splits,
          leaves⟩ unnoticed.outsideComment
  | @line skipped rest raw isSkipped split plain significant =>
      refine ⟨_, rfl, ?_⟩
      rcases split_cases split with
        ⟨middle, rfl, _⟩ | ⟨rfl, rfl, rfl⟩ | ⟨middle, rfl, rfl⟩
      · exact absurd isSkipped (unnoticed.not_skipped reads splits middle)
      · left
        have changedSignificant : changed.significant ≠ [] := by
          rw [unnoticed.sameText]
          exact significant
        rw [Cursor.next, nextFrom_of_skipped isSkipped,
          nextFrom_of_significant _ _ unnoticed.changedPlain
            changedSignificant, unnoticed.sameText]
      · right
        have place := splits.place
        refine ⟨middle, ⟨rfl, ?_⟩, ?_⟩
        · rw [place]
          simp only [List.length_append, List.length_cons]
          omega
        · rw [Cursor.next, List.append_assoc, List.cons_append,
            nextFrom_of_skipped isSkipped,
            nextFrom_of_significant _ _ plain significant]

/-- If the line is looked at by the count of a block, the count goes on as
before. -/
theorem Unnoticed.counts_alike
    {opened : SignificantLine} {head : Element}
    (reads : Reads options source depth scope position)
    (openerAt : OpenerAt position opened head after)
    (splits : after.Splits number before line behind)
    (looked : ∀ body rest, after.takeBody? = some (body, rest) →
      number < rest.number) (tail : List Line) :
    closesBlock changed = closesBlock line ∧
      (before ++ changed :: tail).map opensBlock =
        (before ++ line :: tail).map opensBlock ∧
      (before ++ changed :: tail).map closesBlock =
        (before ++ line :: tail).map closesBlock := by
  have place : after.number ≤ number := by
    rw [splits.place]
    exact Nat.le_add_right _ _
  obtain ⟨sameOpening, sameClosing⟩ := unnoticed.sameCount
    ⟨depth, scope, position, opened, head, after, reads, openerAt, place,
      looked⟩
  simp only [List.map_append, List.map_cons, sameOpening, sameClosing,
    and_self]

/-- A block that is never closed stays open. -/
theorem Unnoticed.takeBody?_none
    {opened : SignificantLine} {head : Element}
    (reads : Reads options source depth scope position)
    (openerAt : OpenerAt position opened head after)
    (splits : after.Splits number before line behind)
    (missing : after.takeBody? = none) :
    (Cursor.mk after.number (before ++ changed :: behind)).takeBody? =
      none := by
  obtain ⟨_, sameOpening, sameClosing⟩ :=
    unnoticed.counts_alike reads openerAt splits
      (by simp [missing]) behind
  rw [takeBody?_eq_none_iff, splits.lines] at missing
  rw [takeBody?_eq_none_iff]
  exact missing.of_map_eq sameOpening sameClosing

/-- The body of a block is taken as before: the line comes behind the block,
closes it, or is in its body. -/
theorem Unnoticed.takeBody?_some
    {opened : SignificantLine} {head : Element} {body rest : Cursor}
    (reads : Reads options source depth scope position)
    (openerAt : OpenerAt position opened head after)
    (splits : after.Splits number before line behind)
    (taken : after.takeBody? = some (body, rest)) :
    (∃ middle, rest.Splits number middle line behind ∧
        (Cursor.mk after.number (before ++ changed :: behind)).takeBody? =
          some (body, ⟨rest.number, middle ++ changed :: behind⟩)) ∨
      (Cursor.mk after.number (before ++ changed :: behind)).takeBody? =
          some (body, rest) ∨
      (∃ tail, body.Splits number before line tail ∧
        (Cursor.mk after.number (before ++ changed :: behind)).takeBody? =
          some (⟨body.number, before ++ changed :: tail⟩, rest)) := by
  obtain ⟨closer, lines, isBody, bodyNumber, restNumber⟩ :=
    isBody_of_takeBody? taken
  obtain ⟨start, inside⟩ := body
  obtain ⟨stop, later⟩ := rest
  obtain rfl : start = after.number := bodyNumber
  obtain rfl : stop = after.number + inside.length + 1 := restNumber
  dsimp only at lines isBody
  have place := splits.place
  rw [splits.lines] at lines
  have looked (upTo : before.length ≤ inside.length) :=
    unnoticed.counts_alike reads openerAt splits (by
      intro other next sameTaken
      rw [taken] at sameTaken
      obtain ⟨rfl, rfl⟩ := Prod.mk.inj (Option.some.inj sameTaken)
      dsimp only
      omega)
  rcases split_cases lines with
    ⟨tail, rfl, rfl⟩ | ⟨rfl, rfl, rfl⟩ | ⟨middle, rfl, rfl⟩
  · right
    right
    obtain ⟨_, sameOpening, sameClosing⟩ := looked (by simp) tail
    have changedBody := isBody.of_map_eq sameOpening sameClosing
    refine ⟨tail, ⟨rfl, place⟩, ?_⟩
    rw [← List.cons_append, ← List.append_assoc,
      takeBody?_of_isBody changedBody]
    simp only [List.length_append, List.length_cons]
  · right
    left
    obtain ⟨sameClosing, _, _⟩ := looked (Nat.le_refl _) []
    have changedBody : IsBody 0 inside changed :=
      ⟨sameClosing.trans isBody.closing, isBody.level, isBody.staysOpen⟩
    rw [takeBody?_of_isBody changedBody]
  · left
    refine ⟨middle, ⟨rfl, ?_⟩, ?_⟩
    · rw [place]
      simp only [List.length_append, List.length_cons]
      omega
    · rw [List.append_assoc, List.cons_append, takeBody?_of_isBody isBody]

/-- Reading from any place comes to the same as before, and so does reading
the body of a block that is not taken as text. -/
theorem Unnoticed.invariant :
    Invariant options
      (fun depth position parsed => ∀ scope before behind,
        Reads options source depth scope position →
        position.Splits number before line behind →
          Cursor.parse options depth
            ⟨position.number, before ++ changed :: behind⟩ = parsed)
      (fun depth opener head body read => ∀ before behind,
        ¬ head.isVerbatim = true → ¬ head.isRaw = true →
        (¬ options.maxBlockDepth < depth + 1 →
          Reads options source (depth + 1) body body) →
        body.Splits number before line behind →
          parseBlock options depth opener head
            ⟨body.number, before ++ changed :: behind⟩ = read) where
  -- As soon as the line is found, or passed with its block, what is left to
  -- read is the same.
  nothing found scope before behind reads splits := by
    obtain ⟨_, impossible, _⟩ := unnoticed.next reads splits found
    contradiction
  comment found scope before behind reads splits := by
    obtain ⟨_, impossible, _⟩ := unnoticed.next reads splits found
    contradiction
  unclosed found opener missing scope before behind reads splits := by
    obtain ⟨_, _, same | ⟨middle, later, changedNext⟩⟩ :=
      unnoticed.next reads splits found
    · exact parse_of_unclosedBlock same opener missing
    · exact parse_of_unclosedBlock changedNext opener
        (unnoticed.takeBody?_none reads ⟨found, opener⟩ later missing)
  closed {depth position after body rest opened head} found opener taken
      sameBlock sameRest scope before behind reads splits := by
    have openerAt : OpenerAt position opened head after := ⟨found, opener⟩
    obtain ⟨_, _, same | ⟨middle, later, changedNext⟩⟩ :=
      unnoticed.next reads splits found
    · exact parse_of_block same opener taken
    · rcases unnoticed.takeBody?_some reads openerAt later taken with
        ⟨others, restSplits, changedTaken⟩ | changedTaken |
          ⟨tail, bodySplits, changedTaken⟩
      · rw [parse_of_block changedNext opener changedTaken,
          sameRest scope others behind (reads.leave openerAt taken)
            restSplits]
      · exact parse_of_block changedNext opener changedTaken
      · have inBody : body.number ≤ number ∧ number < body.stop := by
          rw [stop, bodySplits.lines, bodySplits.place]
          simp only [List.length_append, List.length_cons]
          omega
        have notText : ¬ (head.isVerbatim = true ∨ head.isRaw = true) := by
          intro isText
          exact unnoticed.outsideText ⟨depth, scope, position, opened, head,
            after, body, rest, reads, openerAt, taken, isText, inBody⟩
        rw [not_or] at notText
        rw [parse_of_block changedNext opener changedTaken,
          sameBlock middle tail notText.1 notText.2
            (reads.enter openerAt taken notText.1 notText.2) bodySplits]
  closing found notOpener closing sameRest scope before behind reads
      splits := by
    obtain ⟨_, _, same | ⟨middle, later, changedNext⟩⟩ :=
      unnoticed.next reads splits found
    · exact parse_of_closing same notOpener closing
    · rw [parse_of_closing changedNext notOpener closing,
        sameRest scope middle behind (reads.pass found notOpener) later]
  line found notOpener notClosing sameRest scope before behind reads
      splits := by
    obtain ⟨_, _, same | ⟨middle, later, changedNext⟩⟩ :=
      unnoticed.next reads splits found
    · exact parse_of_line same notOpener notClosing
    · rw [parse_of_line changedNext notOpener notClosing,
        sameRest scope middle behind (reads.pass found notOpener) later]
  verbatim isVerbatim _ _ notVerbatim := absurd isVerbatim notVerbatim
  raw isRaw _ _ _ notRaw := absurd isRaw notRaw
  deep notVerbatim notRaw tooDeep _ _ _ _ _ _ :=
    parseBlock_of_tooDeep notVerbatim notRaw tooDeep
  markup notVerbatim notRaw shallow sameBody before behind _ _ reads
      splits := by
    rw [parseBlock_of_markup notVerbatim notRaw shallow,
      sameBody _ before behind (reads shallow) splits]

end Change

/-! ## Openers above a line -/

section Above

variable {options : Options} {source : Cursor} {number : Nat}

theorem Inside.mem_take {place : Nat} {raw : Line}
    (inside : (single place raw).Inside source) (above : place < number) :
    raw ∈ source.remaining.take (number - source.number) := by
  have start : source.number ≤ place := inside.le
  have found := inside.getElem?
  rw [← List.getElem?_take_of_lt
    (by omega : place - source.number < number - source.number)] at found
  exact List.mem_of_getElem? found

theorem exists_opensComment (inComment : InComment options source number) :
    ∃ raw ∈ source.remaining.take (number - source.number),
      opensComment raw = true := by
  obtain ⟨depth, scope, position, before, line, behind, reads, splits,
    skipped, opener, others, _, opening, _, rfl⟩ := inComment
  have lines := splits.lines
  have place := splits.place
  rw [List.append_assoc, List.cons_append] at lines
  rw [List.length_append, List.length_cons] at place
  have inPosition :
      (single (position.number + skipped.length) opener).Inside position :=
    ⟨skipped, others ++ line :: behind, lines, rfl⟩
  have inSource :=
    inPosition.trans (reads.behind.inside.trans reads.inside)
  exact ⟨opener, inSource.mem_take (by omega), opening⟩

theorem exists_textOpener (inText : InText options source number) :
    ∃ raw ∈ source.remaining.take (number - source.number),
      (Element.readOpener? raw.significant).any
        (fun head => head.isVerbatim || head.isRaw) = true := by
  obtain ⟨depth, scope, position, line, head, after, body, rest, reads,
    openerAt, taken, isText, lower, _⟩ := inText
  obtain ⟨raw, _, significant, afterNumber, rawBehind⟩ :=
    behind_of_next openerAt.found
  obtain ⟨_, _, _, bodyNumber, _⟩ := isBody_of_takeBody? taken
  have inSource := rawBehind.first.trans
    (reads.behind.inside.trans reads.inside)
  refine ⟨raw, inSource.mem_take (by omega), ?_⟩
  rw [significant, openerAt.opener, Option.any_some, Bool.or_eq_true]
  exact isText

end Above

end Cursor

/-! ## Comments behind lines -/

/-- The text of a line with a comment behind the line, before its ending. -/
def Line.withComment (comment : List Char) (stretch : Line) : Line :=
  stretch.dropReturn.commented comment ++
    (if stretch.getLast? = some '\r' then ['\r'] else [])

/-- The source with a comment behind the line with the given index. -/
def commentLine (index : Nat) (comment : List Char) (source : String) :
    String :=
  String.ofList
    (['\n'].intercalate
      ((Line.stretches source.toList).modify index
        (Line.withComment comment)))

theorem Line.dropReturn_withComment (comment : List Char) (stretch : Line) :
    ∃ kept,
      (stretch.withComment comment).dropReturn =
          stretch.dropReturn.commented kept ∧
        (comment = kept ∨ comment = kept ++ ['\r']) := by
  unfold Line.withComment
  by_cases isReturn : stretch.getLast? = some '\r'
  · rw [if_pos isReturn, Line.dropReturn_concat]
    exact ⟨comment, rfl, Or.inl rfl⟩
  · rw [if_neg isReturn, List.append_nil]
    by_cases endsComment : comment.getLast? = some '\r'
    · obtain ⟨kept, rfl⟩ := List.getLast?_eq_some_iff.mp endsComment
      have whole : stretch.dropReturn.commented (kept ++ ['\r']) =
          stretch.dropReturn.commented kept ++ ['\r'] := by
        simp [Line.commented]
      rw [whole, Line.dropReturn_concat]
      exact ⟨kept, rfl, Or.inr rfl⟩
    · have noReturn :
          (stretch.dropReturn.commented comment).getLast? ≠ some '\r' := by
        intro last
        cases comment with
        | nil => simp [Line.commented] at last
        | cons first rest =>
            apply endsComment
            simpa [Line.commented, List.getLast?_append] using last
      rw [Line.dropReturn_of_ne noReturn]
      exact ⟨comment, rfl, Or.inl rfl⟩

theorem Line.not_mem_withComment {comment stretch : List Char}
    (oneLine : '\n' ∉ comment) (feedFree : '\n' ∉ stretch) :
    '\n' ∉ Line.withComment comment stretch := by
  have lineFree : '\n' ∉ Line.dropReturn stretch := by
    rcases Line.eq_dropReturn_or stretch with split | same
    · intro member
      rw [split] at feedFree
      exact feedFree (List.mem_append_left _ member)
    · rwa [← same]
  unfold Line.withComment Line.commented
  by_cases isReturn : stretch.getLast? = some '\r'
  · simp [isReturn, lineFree, oneLine]
  · simp [isReturn, lineFree, oneLine]

/-- The lines of a source with a comment behind one of them. A carriage return
that ends the comment belongs to the ending of its line if that has none. -/
theorem sourceLines_commentLine {source : String} {index : Nat}
    {line comment : List Char} (oneLine : '\n' ∉ comment)
    (onLine : (sourceLines source.toList)[index]? = some line) :
    ∃ before after kept,
      sourceLines source.toList = before ++ line :: after ∧
        before.length = index ∧
        sourceLines (commentLine index comment source).toList =
          before ++ Line.commented kept line :: after ∧
        (comment = kept ∨ comment = kept ++ ['\r']) := by
  have inRange : index < (Line.stretches source.toList).length := by
    obtain ⟨bound, _⟩ := List.getElem?_eq_some_iff.mp onLine
    rwa [sourceLines_eq, List.length_map] at bound
  obtain ⟨above, stretch, below, split, length, modified⟩ :=
    List.exists_of_modify (Line.withComment comment) inRange
  have lines : sourceLines source.toList =
      above.map Line.dropReturn ++
        stretch.dropReturn :: below.map Line.dropReturn := by
    rw [sourceLines_eq, split, List.map_append, List.map_cons]
  have onStretch : stretch.dropReturn = line := by
    rw [lines, ← length, ← List.length_map Line.dropReturn] at onLine
    simpa using onLine
  have feedFree : ∀ other ∈ above ++ stretch.withComment comment :: below,
      '\n' ∉ other := by
    intro other member
    have inSource : ∀ part ∈ above ++ stretch :: below, '\n' ∉ part := by
      rw [← split]
      exact Line.not_mem_of_mem_stretches source.toList
    rcases List.mem_append.mp member with inAbove | inBelow
    · exact inSource other (List.mem_append_left _ inAbove)
    · rcases List.mem_cons.mp inBelow with rfl | inBelow
      · exact Line.not_mem_withComment oneLine
          (inSource stretch (List.mem_append_right _ List.mem_cons_self))
      · exact inSource other
          (List.mem_append_right _ (List.mem_cons_of_mem _ inBelow))
  obtain ⟨kept, commented, same⟩ :=
    Line.dropReturn_withComment comment stretch
  refine ⟨above.map Line.dropReturn, below.map Line.dropReturn, kept, ?_, ?_,
    ?_, same⟩
  · rw [lines, onStretch]
  · rw [List.length_map, length]
  · rw [commentLine, String.toList_ofList, sourceLines_eq, modified,
      Line.stretches_intercalate (by simp) feedFree, List.map_append,
      List.map_cons, commented, onStretch]

/-- A comment behind a line is invisible: the source compiles to the same HTML
with the same reports. The line is neither in a block comment nor in a text
block, it says something and leaves no quote open. If the search for the end
of a block looks at it, then it does not close a block, and it counts as an
opener exactly if it does so with the comment. -/
theorem compile_commentLine
    (options : Options) (evaluator : Evaluator) (source : String)
    (index : Nat) (line comment : List Char)
    (oneLine : '\n' ∉ comment)
    (onLine : (sourceLines source.toList)[index]? = some line)
    (takes : Line.TakesComment line)
    (outsideComment :
      ¬ Cursor.InComment options ⟨1, sourceLines source.toList⟩ (index + 1))
    (outsideText :
      ¬ Cursor.InText options ⟨1, sourceLines source.toList⟩ (index + 1))
    (sameCount :
      Cursor.Counted options ⟨1, sourceLines source.toList⟩ (index + 1) →
        Cursor.closesBlock line = false ∧
          Cursor.opensBlock (Line.commented comment line) =
            Cursor.opensBlock line) :
    compile options evaluator (commentLine index comment source) =
      compile options evaluator source := by
  obtain ⟨before, after, kept, lines, length, commentedLines, same⟩ :=
    sourceLines_commentLine oneLine onLine
  have sameOpening : Cursor.opensBlock (Line.commented kept line) =
      Cursor.opensBlock (Line.commented comment line) := by
    rcases same with rfl | rfl
    · rfl
    · exact (Line.opensBlock_commented_return line kept).symm
  have unnoticed : Cursor.Unnoticed options ⟨1, sourceLines source.toList⟩
      (index + 1) line (Line.commented kept line) :=
    { plain := takes.opensComment_eq_false
      changedPlain := takes.opensComment_commented kept
      significant := takes.significant_ne_nil
      sameText := takes.significant_commented kept
      outsideComment := outsideComment
      outsideText := outsideText
      sameCount := by
        intro counted
        obtain ⟨notClosing, opening⟩ := sameCount counted
        rw [sameOpening, opening, notClosing,
          takes.closesBlock_commented kept]
        exact ⟨rfl, rfl⟩ }
  have sameParse : Document.parse options (commentLine index comment source) =
      Document.parse options source := by
    rw [Document.parse, commentedLines]
    exact unnoticed.invariant.parsed 0 ⟨1, sourceLines source.toList⟩ _ before
      after Cursor.Reads.start ⟨lines, by rw [length, Nat.add_comm]⟩
  rw [compile, compile, sameParse]

theorem compile_commentLine_quoted :
    let source :=
      "div\\\x7b\n p > a[title='x # y'] \n\\\x7d\n#\x7b\nraw\\\x7b\n#\x7d"
    let line := " p > a[title='x # y'] ".toList
    let comment := " it's \\\x7d #\x7d".toList
    (sourceLines source.toList)[1]? = some line ∧
      Line.TakesComment line ∧
      compile {} .unavailable (commentLine 1 comment source) =
        compile {} .unavailable source := by
  intro source line comment
  have onLine : (sourceLines source.toList)[1]? = some line := by
    decide +kernel
  have takes : Line.TakesComment line :=
    ⟨by decide +kernel, by decide +kernel, by decide +kernel⟩
  refine ⟨onLine, takes, ?_⟩
  apply compile_commentLine {} .unavailable source 1 line comment
  case oneLine => decide +kernel
  case onLine => exact onLine
  case takes => exact takes
  case outsideComment =>
    intro inComment
    exact absurd (Cursor.exists_opensComment inComment) (by decide +kernel)
  case outsideText =>
    intro inText
    exact absurd (Cursor.exists_textOpener inText) (by decide +kernel)
  case sameCount =>
    intro _
    decide +kernel

/-- A comment behind the closing line of a block leaves the block open. -/
theorem compile_commentLine_closing :
    ¬ ∀ (options : Options) (evaluator : Evaluator) (source : String)
        (index : Nat) (line comment : List Char),
      '\n' ∉ comment →
      (sourceLines source.toList)[index]? = some line →
      ¬ Cursor.InComment options ⟨1, sourceLines source.toList⟩
        (index + 1) →
      ¬ Cursor.InText options ⟨1, sourceLines source.toList⟩ (index + 1) →
      Text.trim line ≠ [] → (Text.trim line).head? ≠ some '#' →
      (Quoting.outside.run
        (Comment.keep .outside true (Text.trim line))).isOutside = true →
      compile options evaluator (commentLine index comment source) =
        compile options evaluator source := by
  intro always
  have same := always {} .unavailable "div\\\x7b\np\n\\\x7d" 2
    "\\\x7d".toList " end".toList (by decide) (by decide +kernel)
    (fun inComment =>
      absurd (Cursor.exists_opensComment inComment) (by decide +kernel))
    (fun inText =>
      absurd (Cursor.exists_textOpener inText) (by decide +kernel))
    (by decide +kernel) (by decide +kernel) (by decide +kernel)
  exact absurd same (by decide +kernel)

end TerseMarkup
