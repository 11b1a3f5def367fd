import TerseMarkup.Proofs.Document.Steps
import TerseMarkup.Proofs.Source.BlockBody
import TerseMarkup.Proofs.Source.Skipping

/-!
# The segments of a scope

The lines of a scope fall into segments that follow each other without gap or
overlap: lines that say nothing, block comments, blocks, stray closing lines
and other significant lines. A block or a block comment that is never closed
is the last segment and runs to the end. There is only one such way to take
the lines apart. The document of the scope has one node for every block and
every other significant line, with the number of the first line of its
segment.
-/

namespace TerseMarkup

/-- Some consecutive lines of a scope that belong together. -/
inductive Segment where
  | empty (line : Line)
  | comment (opener : Line) (inside : List Line) (closer : Line)
  | block (opener : Line) (body : List Line) (closer : Line)
  | strayClosing (line : Line)
  | content (line : Line)
  | unclosedBlock (opener : Line) (rest : List Line)
  | unclosedComment (opener : Line) (rest : List Line)
  deriving DecidableEq, Repr

namespace Segment

def lines : Segment → List Line
  | empty line => [line]
  | comment opener inside closer => opener :: (inside ++ [closer])
  | block opener body closer => opener :: (body ++ [closer])
  | strayClosing line => [line]
  | content line => [line]
  | unclosedBlock opener rest => opener :: rest
  | unclosedComment opener rest => opener :: rest

/-- Whether a line opens a block: it is not in a comment, and what it says is
the head of a block. -/
def IsOpener (line : Line) : Prop :=
  Cursor.opensComment line = false ∧
    (Element.readOpener? line.significant).isSome = true

/-- What makes lines a segment of each sort. -/
def Valid : Segment → Prop
  | empty line =>
      Cursor.opensComment line = false ∧ line.significant = []
  | comment opener inside closer =>
      Cursor.opensComment opener = true ∧
        (∀ line ∈ inside, Cursor.closesComment line = false) ∧
        Cursor.closesComment closer = true
  | block opener body closer =>
      IsOpener opener ∧ Cursor.IsBody 0 body closer
  | strayClosing line =>
      Cursor.opensComment line = false ∧ line.significant = closingLine
  | content line =>
      Cursor.opensComment line = false ∧ line.significant ≠ [] ∧
        Element.readOpener? line.significant = none ∧
        line.significant ≠ closingLine
  | unclosedBlock opener rest =>
      IsOpener opener ∧ Cursor.StaysOpen 0 rest
  | unclosedComment opener rest =>
      Cursor.opensComment opener = true ∧
        ∀ line ∈ rest, Cursor.closesComment line = false

def isUnclosed : Segment → Bool
  | unclosedBlock _ _ => true
  | unclosedComment _ _ => true
  | _ => false

/-- Whether a segment is a block or a significant line other than a stray
closing line. -/
def makesNode : Segment → Bool
  | block _ _ _ => true
  | content _ => true
  | _ => false

/-- The node of a segment whose first line has the given number. -/
def node? (options : Options) (depth number : Nat) : Segment → Option Node
  | block opener body _ =>
      (Element.readOpener? opener.significant).map fun head =>
        (Cursor.parseBlock options depth number head ⟨number + 1, body⟩).1
  | content line => some (Node.ofLine ⟨number, line.significant⟩).1
  | _ => none

def numbered (number : Nat) : List Segment → List (Nat × Segment)
  | [] => []
  | segment :: rest =>
      (number, segment) :: numbered (number + segment.lines.length) rest

/-- `Partition lines segments` says that the segments are valid, that their
lines are all the lines in order, and that only the last one may be
unclosed. -/
structure Partition (lines : List Line) (segments : List Segment) : Prop where
  covers : segments.flatMap Segment.lines = lines
  valid : ∀ segment ∈ segments, segment.Valid
  closed : ∀ segment ∈ segments.dropLast, segment.isUnclosed = false

theorem Partition.nil : Partition [] [] where
  covers := rfl
  valid := fun _ member => absurd member List.not_mem_nil
  closed := fun _ member => absurd member List.not_mem_nil

theorem Partition.cons
    {segment : Segment} {lines : List Line} {segments : List Segment}
    (valid : segment.Valid) (closed : segment.isUnclosed = false)
    (later : Partition lines segments) :
    Partition (segment.lines ++ lines) (segment :: segments) where
  covers := by
    rw [List.flatMap_cons, later.covers]
  valid := by
    intro other member
    rcases List.mem_cons.mp member with rfl | member
    · exact valid
    · exact later.valid other member
  closed := by
    intro other member
    cases segments with
    | nil => exact absurd member List.not_mem_nil
    | cons next rest =>
        rw [List.dropLast_cons_cons] at member
        rcases List.mem_cons.mp member with rfl | member
        · exact closed
        · exact later.closed other member

theorem Partition.last {segment : Segment} (valid : segment.Valid) :
    Partition segment.lines [segment] where
  covers := List.flatMap_singleton Segment.lines segment
  valid := by
    intro other member
    rw [List.mem_singleton] at member
    exact member ▸ valid
  closed := fun _ member => absurd member List.not_mem_nil

/-! ## The segments are the only ones -/

def first? : List Line → Option (Segment × List Line)
  | [] => none
  | line :: rest =>
      if Cursor.opensComment line then
        match rest.dropWhile (!Cursor.closesComment ·) with
        | [] => some (unclosedComment line rest, [])
        | closer :: after =>
            some
              (comment line (rest.takeWhile (!Cursor.closesComment ·)) closer,
                after)
      else if line.significant = [] then some (empty line, rest)
      else if line.significant = closingLine then
        some (strayClosing line, rest)
      else if (Element.readOpener? line.significant).isSome then
        match Cursor.splitBody 0 rest with
        | none => some (unclosedBlock line rest, [])
        | some (body, after) =>
            (rest.drop body.length).head?.map fun closer =>
              (block line body closer, after)
      else some (content line, rest)

theorem IsOpener.significant_ne {line : Line} (opener : IsOpener line) :
    line.significant ≠ [] ∧ line.significant ≠ closingLine := by
  constructor
  · intro blank
    have isSome := opener.2
    rw [blank] at isSome
    exact absurd isSome (by decide +kernel)
  · intro closing
    have isSome := opener.2
    rw [closing] at isSome
    exact absurd isSome (by decide +kernel)

/-- A valid segment is the one that its lines start with, whatever comes
after it. -/
theorem first?_of_valid {segment : Segment} {after : List Line}
    (valid : segment.Valid)
    (toEnd : segment.isUnclosed = true → after = []) :
    first? (segment.lines ++ after) = some (segment, after) := by
  cases segment with
  | empty line =>
      obtain ⟨plain, blank⟩ := valid
      simp [first?, lines, plain, blank]
  | comment opener inside closer =>
      obtain ⟨opening, unclosed, closing⟩ := valid
      have insideOpen :
          ∀ line ∈ inside, (!Cursor.closesComment line) = true := by
        simpa using unclosed
      have before :
          (inside ++ closer :: after).takeWhile (!Cursor.closesComment ·) =
            inside := by
        rw [List.takeWhile_append_of_pos insideOpen]
        simp [closing]
      have behind :
          (inside ++ closer :: after).dropWhile (!Cursor.closesComment ·) =
            closer :: after := by
        rw [List.dropWhile_append_of_pos insideOpen]
        simp [closing]
      simp [first?, lines, opening, before, behind]
  | block opener body closer =>
      obtain ⟨opening, isBody⟩ := valid
      obtain ⟨notBlank, notClosing⟩ := opening.significant_ne
      have found : Cursor.splitBody 0 (body ++ closer :: after) =
          some (body, after) :=
        Cursor.splitBody_of_isBody isBody
      simp [first?, lines, opening.1, opening.2, notBlank, notClosing, found]
  | strayClosing line =>
      obtain ⟨plain, closing⟩ := valid
      simp [first?, lines, plain, closing, closingLine]
  | content line =>
      obtain ⟨plain, notBlank, notOpener, notClosing⟩ := valid
      simp [first?, lines, plain, notBlank, notOpener, notClosing]
  | unclosedBlock opener rest =>
      obtain ⟨opening, staysOpen⟩ := valid
      obtain ⟨notBlank, notClosing⟩ := opening.significant_ne
      have missing : Cursor.splitBody 0 rest = none :=
        Cursor.splitBody_eq_none_iff.mpr staysOpen
      simp [first?, lines, toEnd rfl, opening.1, opening.2, notBlank,
        notClosing, missing]
  | unclosedComment opener rest =>
      obtain ⟨opening, unclosed⟩ := valid
      have restOpen : ∀ line ∈ rest, (!Cursor.closesComment line) = true := by
        simpa using unclosed
      have behind : rest.dropWhile (!Cursor.closesComment ·) = [] := by
        rw [← List.append_nil rest, List.dropWhile_append_of_pos restOpen,
          List.dropWhile_nil]
      simp [first?, lines, toEnd rfl, opening, behind]

theorem Partition.tail {lines : List Line} {segment : Segment}
    {rest : List Segment} (partition : Partition lines (segment :: rest)) :
    Partition (rest.flatMap Segment.lines) rest where
  covers := rfl
  valid := fun other member =>
    partition.valid other (List.mem_cons_of_mem segment member)
  closed := by
    intro other member
    cases rest with
    | nil => exact absurd member List.not_mem_nil
    | cons next more =>
        exact partition.closed other (List.mem_cons_of_mem segment member)

theorem Partition.first?_eq {lines : List Line} {segment : Segment}
    {rest : List Segment} (partition : Partition lines (segment :: rest)) :
    first? lines = some (segment, rest.flatMap Segment.lines) := by
  rw [← partition.covers, List.flatMap_cons]
  apply first?_of_valid (partition.valid segment List.mem_cons_self)
  intro unclosed
  cases rest with
  | nil => rfl
  | cons next more =>
      rw [partition.closed segment List.mem_cons_self] at unclosed
      contradiction

/-- Lines fall into segments in at most one way. -/
theorem Partition.unique {lines : List Line} {segments others : List Segment}
    (partition : Partition lines segments)
    (otherPartition : Partition lines others) :
    others = segments := by
  induction segments generalizing lines others with
  | nil =>
      cases others with
      | nil => rfl
      | cons other more =>
          have found := otherPartition.first?_eq
          rw [← partition.covers] at found
          contradiction
  | cons segment rest inductionHypothesis =>
      cases others with
      | nil =>
          have found := partition.first?_eq
          rw [← otherPartition.covers] at found
          contradiction
      | cons other more =>
          have found := otherPartition.first?_eq
          rw [partition.first?_eq] at found
          obtain ⟨sameFirst, sameLines⟩ :=
            Prod.mk.inj (Option.some.inj found)
          have otherTail := otherPartition.tail
          rw [← sameLines] at otherTail
          rw [sameFirst, inductionHypothesis partition.tail otherTail]

/-! ## The nodes of segments -/

theorem node?_isSome (options : Options) (depth number : Nat)
    {segment : Segment} (valid : segment.Valid) :
    (segment.node? options depth number).isSome = segment.makesNode := by
  cases segment with
  | block opener body closer =>
      rw [node?, Option.isSome_map, makesNode]
      exact valid.1.2
  | _ => rfl

theorem line_of_node? {options : Options} {depth number : Nat}
    {segment : Segment} {node : Node}
    (made : segment.node? options depth number = some node) :
    node.line = number := by
  cases segment with
  | block opener body closer =>
      obtain ⟨head, _, rfl⟩ := Option.map_eq_some_iff.mp made
      exact Cursor.line_parseBlock options depth number head _
  | content line =>
      rw [← Option.some.inj made]
      exact Node.line_ofLine _
  | _ => contradiction

/-- The nodes of segments carry the numbers of the segments that make one. -/
theorem map_line_filterMap_node? {options : Options} {depth : Nat}
    {segments : List Segment} (valid : ∀ segment ∈ segments, segment.Valid)
    (number : Nat) :
    ((numbered number segments).filterMap fun placed =>
        placed.2.node? options depth placed.1).map Node.line =
      ((numbered number segments).filter (·.2.makesNode)).map (·.1) := by
  induction segments generalizing number with
  | nil => rfl
  | cons segment rest inductionHypothesis =>
      have later :=
        inductionHypothesis
          (fun other member => valid other (List.mem_cons_of_mem segment member))
          (number + segment.lines.length)
      have made :=
        node?_isSome options depth number (valid segment List.mem_cons_self)
      rw [numbered, List.filterMap_cons, List.filter_cons]
      cases result : segment.node? options depth number with
      | none =>
          rw [result, Option.isSome_none] at made
          simp only [← made, if_neg Bool.false_ne_true, later]
      | some node =>
          rw [result, Option.isSome_some] at made
          simp only [← made, if_pos, List.map_cons, later,
            line_of_node? result]

/-! ## The segments of the lines that were read -/

/-- `Describes options depth number lines document segments` says that the
lines, the first of which has the given number, fall into the segments and
that the document has the nodes of these. -/
structure Describes
    (options : Options) (depth number : Nat) (lines : List Line)
    (document : Document) (segments : List Segment) : Prop where
  partition : Partition lines segments
  nodes : document =
    (numbered number segments).filterMap fun placed =>
      placed.2.node? options depth placed.1

section Describing

variable {options : Options} {depth number : Nat}
  {lines : List Line} {document : Document} {segments : List Segment}

theorem Describes.nil : Describes options depth number [] [] [] where
  partition := Partition.nil
  nodes := rfl

theorem Describes.last {segment : Segment} (valid : segment.Valid)
    (unclosed : segment.isUnclosed = true) :
    Describes options depth number segment.lines [] [segment] where
  partition := Partition.last valid
  nodes := by
    cases segment with
    | unclosedBlock opener rest => rfl
    | unclosedComment opener rest => rfl
    | _ => contradiction

theorem Describes.cons {segment : Segment} (valid : segment.Valid)
    (closed : segment.isUnclosed = false)
    (later :
      Describes options depth (number + segment.lines.length) lines document
        segments) :
    Describes options depth number (segment.lines ++ lines)
      ((segment.node? options depth number).toList ++ document)
      (segment :: segments) where
  partition := later.partition.cons valid closed
  nodes := by
    rw [numbered, List.filterMap_cons, later.nodes]
    cases segment.node? options depth number with
    | none => rfl
    | some node => rfl

/-- Lines that are passed over are segments without a node. -/
theorem Describes.skip {skipped : List Line}
    (isSkipped : Cursor.Skipped skipped)
    (later :
      ∃ segments,
        Describes options depth (number + skipped.length) lines document
          segments) :
    ∃ segments,
      Describes options depth number (skipped ++ lines) document
        segments := by
  induction isSkipped generalizing number with
  | nil => exact later
  | @blank line rest plain blank _ inductionHypothesis =>
      have valid : (Segment.empty line).Valid := ⟨plain, blank⟩
      have start :
          number + (line :: rest).length =
            number + (Segment.empty line).lines.length + rest.length := by
        simp only [Segment.lines, List.length_cons, List.length_nil]
        omega
      rw [start] at later
      obtain ⟨segments, described⟩ := inductionHypothesis later
      exact ⟨_, described.cons valid rfl⟩
  | @comment opener closer inside rest opening unclosed closing _
      inductionHypothesis =>
      have valid : (Segment.comment opener inside closer).Valid :=
        ⟨opening, unclosed, closing⟩
      have start :
          number + (opener :: (inside ++ closer :: rest)).length =
            number + (Segment.comment opener inside closer).lines.length +
              rest.length := by
        simp only [Segment.lines, List.length_cons, List.length_append,
          List.length_nil]
        omega
      have split :
          opener :: (inside ++ closer :: rest) ++ lines =
            (Segment.comment opener inside closer).lines ++
              (rest ++ lines) := by
        simp [Segment.lines]
      rw [start] at later
      obtain ⟨segments, described⟩ := inductionHypothesis later
      rw [split]
      exact ⟨_, described.cons valid rfl⟩

end Describing

end Segment

namespace Cursor

theorem describes_invariant (options : Options) :
    Invariant options
      (fun depth cursor parsed =>
        ∃ segments,
          Segment.Describes options depth cursor.number cursor.remaining
            parsed.document segments)
      (fun _ _ _ _ _ => True) where
  nothing found := by
    have next := nextIs_of_next found
    cases next with
    | nothing skipped =>
        simpa using Segment.Describes.skip skipped ⟨_, .nil⟩
  comment found := by
    have next := nextIs_of_next found
    cases next with
    | @unclosedComment skipped rest opener isSkipped split opening unclosed =>
        have valid : (Segment.unclosedComment opener rest).Valid :=
          ⟨opening, unclosed⟩
        rw [split]
        exact Segment.Describes.skip isSkipped ⟨_, .last valid rfl⟩
  unclosed found opener unclosed := by
    have next := nextIs_of_next found
    cases next with
    | @line skipped rest raw isSkipped split plain nonempty =>
        have valid : (Segment.unclosedBlock raw rest).Valid :=
          ⟨⟨plain, Option.isSome_of_eq_some opener⟩,
            takeBody?_eq_none_iff.mp unclosed⟩
        rw [split]
        exact Segment.Describes.skip isSkipped ⟨_, .last valid rfl⟩
  closed {depth cursor after body rest line head} found opener taken _
      restDescribed := by
    have next := nextIs_of_next found
    obtain ⟨closer, bodySplit, isBody, bodyNumber, restNumber⟩ :=
      isBody_of_takeBody? taken
    cases next with
    | @line skipped inside raw isSkipped split plain nonempty =>
        have valid :
            (Segment.block raw body.remaining closer).Valid :=
          ⟨⟨plain, Option.isSome_of_eq_some opener⟩, isBody⟩
        have whole :
            raw :: inside =
              (Segment.block raw body.remaining closer).lines ++
                rest.remaining := by
          simpa [Segment.lines] using bodySplit
        have start :
            rest.number =
              cursor.number + skipped.length +
                (Segment.block raw body.remaining closer).lines.length := by
          rw [restNumber]
          simp only [Segment.lines, List.length_cons, List.length_append,
            List.length_nil]
          omega
        have place :
            (⟨cursor.number + skipped.length + 1, body.remaining⟩ : Cursor) =
              body :=
          congrArg (Cursor.mk · body.remaining) bodyNumber.symm
        have made :
            (Segment.block raw body.remaining closer).node? options depth
                (cursor.number + skipped.length) =
              some (parseBlock options depth
                (cursor.number + skipped.length) head body).1 := by
          rw [Segment.node?, opener, Option.map_some, place]
        obtain ⟨segments, described⟩ := restDescribed
        rw [start] at described
        have extended := described.cons valid rfl
        rw [made, ← whole] at extended
        rw [split]
        exact Segment.Describes.skip isSkipped ⟨_, extended⟩
  closing found _ closing restDescribed := by
    have next := nextIs_of_next found
    cases next with
    | @line skipped rest raw isSkipped split plain nonempty =>
        have valid : (Segment.strayClosing raw).Valid := ⟨plain, closing⟩
        obtain ⟨segments, described⟩ := restDescribed
        rw [split]
        exact Segment.Describes.skip isSkipped ⟨_, described.cons valid rfl⟩
  line found notOpener notClosing restDescribed := by
    have next := nextIs_of_next found
    cases next with
    | @line skipped rest raw isSkipped split plain nonempty =>
        have valid : (Segment.content raw).Valid :=
          ⟨plain, nonempty, notOpener, notClosing⟩
        obtain ⟨segments, described⟩ := restDescribed
        rw [split]
        exact Segment.Describes.skip isSkipped ⟨_, described.cons valid rfl⟩
  verbatim _ := trivial
  raw _ := trivial
  deep _ _ _ := trivial
  markup _ _ _ _ := trivial

/-- The lines of a scope fall into segments in one way, and reading it gives
the nodes of these, each with the number of the first line of its segment. -/
theorem parse_partition (options : Options) (depth : Nat) (cursor : Cursor) :
    ∃ segments,
      Segment.Partition cursor.remaining segments ∧
        (∀ others, Segment.Partition cursor.remaining others →
          others = segments) ∧
        (cursor.parse options depth).document =
          ((Segment.numbered cursor.number segments).filterMap fun placed =>
            placed.2.node? options depth placed.1) ∧
        (cursor.parse options depth).document.map Node.line =
          ((Segment.numbered cursor.number segments).filter
            (·.2.makesNode)).map (·.1) := by
  obtain ⟨segments, described⟩ :=
    (describes_invariant options).parsed depth cursor
  refine ⟨segments, described.partition, ?_, described.nodes, ?_⟩
  · intro others otherPartition
    exact described.partition.unique otherPartition
  · rw [described.nodes]
    exact Segment.map_line_filterMap_node? described.partition.valid
      cursor.number

end Cursor

end TerseMarkup
