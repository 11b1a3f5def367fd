import TerseMarkup.Source.Comment

/-!
# Reading the significant lines of a scope

A cursor stands before the lines of a scope that are still to be read. Blank
lines, comments and whole block comments are passed over. A block comment
starts at a line that begins with `#{` and ends with the first later line that
ends with `#}`.
-/

namespace TerseMarkup

/-- A line that has something to say, without comment and surrounding blanks,
with its number in the source. -/
structure SignificantLine where
  number : Nat
  text : Line
  deriving DecidableEq, Repr

/-- The lines still to be read, with the number of the first of them. -/
structure Cursor where
  number : Nat
  remaining : List Line
  deriving DecidableEq, Repr

namespace Cursor

/-- What a reading step comes to. A block comment that is never closed is found
with the line that opens it. -/
inductive Found where
  | line (line : SignificantLine)
  | unclosedComment (line : Nat)
  | nothing
  deriving DecidableEq, Repr

def opensComment (line : Line) : Bool :=
  ['#', '{'].isPrefixOf (Text.trim line)

def closesComment (line : Line) : Bool :=
  Text.endsWith ['#', '}'] (Text.trim line)

theorem opensComment_iff {line : Line} :
    opensComment line = true ↔ ['#', '{'] <+: Text.trim line :=
  List.isPrefixOf_iff_prefix

theorem closesComment_iff {line : Line} :
    closesComment line = true ↔ ['#', '}'] <:+ Text.trim line :=
  List.isSuffixOf_iff_suffix

theorem opensComment_eq_false_of_ne {line rest : Line} {first : Char}
    (trimmed : Text.trim line = first :: rest) (notHash : first ≠ '#') :
    opensComment line = false := by
  rw [← Bool.not_eq_true, opensComment_iff, trimmed]
  intro opening
  exact notHash (List.cons_prefix_cons.mp opening).1.symm

/-- Moves past the next `count` lines, or to the end of the scope. -/
def advance (cursor : Cursor) (count : Nat) : Cursor where
  number := cursor.number + min count cursor.remaining.length
  remaining := cursor.remaining.drop count

def exhaust (cursor : Cursor) : Cursor :=
  cursor.advance cursor.remaining.length

/-- Reads up to and with the next significant line. `opened` is the line of
the block comment that the reading is inside of. -/
def nextFrom (number : Nat) (opened : Option Nat) :
    List Line → Found × Cursor
  | [] =>
      match opened with
      | some opener => (.unclosedComment opener, ⟨number, []⟩)
      | none => (.nothing, ⟨number, []⟩)
  | line :: rest =>
      match opened with
      | some opener =>
          nextFrom (number + 1)
            (if closesComment line then none else some opener) rest
      | none =>
          if opensComment line then nextFrom (number + 1) (some number) rest
          else
            let text := Comment.strip (Text.trim line)
            if text = [] then nextFrom (number + 1) none rest
            else (.line ⟨number, text⟩, ⟨number + 1, rest⟩)

def next (cursor : Cursor) : Found × Cursor :=
  nextFrom cursor.number none cursor.remaining

theorem length_nextFrom
    {number : Nat} {opened : Option Nat} {lines : List Line}
    {line : SignificantLine} {after : Cursor}
    (found : nextFrom number opened lines = (.line line, after)) :
    after.remaining.length < lines.length := by
  induction lines generalizing number opened with
  | nil =>
      unfold nextFrom at found
      split at found <;> simp at found
  | cons first rest inductionHypothesis =>
      unfold nextFrom at found
      simp only [List.length_cons]
      split at found
      · have := inductionHypothesis found
        omega
      · split at found
        · have := inductionHypothesis found
          omega
        · dsimp only at found
          split at found
          · have := inductionHypothesis found
            omega
          · simp only [Prod.mk.injEq] at found
            rw [← found.2]
            simp

theorem length_next
    {cursor after : Cursor} {line : SignificantLine}
    (found : cursor.next = (.line line, after)) :
    after.remaining.length < cursor.remaining.length :=
  length_nextFrom found

/-- Everything that is found from the cursor to the end of the scope. A block
comment that is never closed is the last thing found. -/
def all (cursor : Cursor) : List Found :=
  match found : cursor.next with
  | (.line line, after) =>
      have : after.remaining.length < cursor.remaining.length :=
        length_next found
      .line line :: after.all
  | (.unclosedComment line, _) => [.unclosedComment line]
  | (.nothing, _) => []
termination_by cursor.remaining.length

/-! ## Blocks -/

def opensBlock (line : Line) : Bool :=
  Text.endsWith ['\\', '{'] (Text.trim line)

def closesBlock (line : Line) : Bool :=
  Text.trim line == ['\\', '}']

theorem opensBlock_iff {line : Line} :
    opensBlock line = true ↔ ['\\', '{'] <:+ Text.trim line :=
  List.isSuffixOf_iff_suffix

theorem closesBlock_iff {line : Line} :
    closesBlock line = true ↔ Text.trim line = ['\\', '}'] :=
  beq_iff_eq

/-- Splits lines at the one that closes a block of which `depth` further
blocks are open: the lines before it and the lines after it. -/
def splitBody (depth : Nat) : List Line → Option (List Line × List Line)
  | [] => none
  | line :: rest =>
      if closesBlock line then
        match depth with
        | 0 => some ([], rest)
        | outer + 1 =>
            (splitBody outer rest).map fun (body, after) =>
              (line :: body, after)
      else
        (splitBody (if opensBlock line then depth + 1 else depth) rest).map
          fun (body, after) => (line :: body, after)

/-- The body of a block that was opened just before the cursor, and the
cursor after the line that closes it. -/
def takeBody? (cursor : Cursor) : Option (Cursor × Cursor) :=
  (splitBody 0 cursor.remaining).map fun (body, after) =>
    (⟨cursor.number, body⟩, ⟨cursor.number + body.length + 1, after⟩)

theorem length_splitBody
    {depth : Nat} {lines body after : List Line}
    (found : splitBody depth lines = some (body, after)) :
    lines.length = body.length + after.length + 1 := by
  induction lines generalizing depth body after with
  | nil => simp [splitBody] at found
  | cons line rest inductionHypothesis =>
      unfold splitBody at found
      split at found
      · split at found
        · simp only [Option.some.injEq, Prod.mk.injEq] at found
          obtain ⟨rfl, rfl⟩ := found
          simp
        · simp only [Option.map_eq_some_iff, Prod.mk.injEq] at found
          obtain ⟨⟨inner, later⟩, split, rfl, rfl⟩ := found
          have := inductionHypothesis split
          simp only [List.length_cons]
          omega
      · simp only [Option.map_eq_some_iff, Prod.mk.injEq] at found
        obtain ⟨⟨inner, later⟩, split, rfl, rfl⟩ := found
        have := inductionHypothesis split
        simp only [List.length_cons]
        omega

theorem length_takeBody?
    {cursor body after : Cursor}
    (taken : cursor.takeBody? = some (body, after)) :
    cursor.remaining.length =
      body.remaining.length + after.remaining.length + 1 := by
  simp only [takeBody?, Option.map_eq_some_iff, Prod.mk.injEq] at taken
  obtain ⟨⟨inner, later⟩, split, rfl, rfl⟩ := taken
  exact length_splitBody split

end Cursor

end TerseMarkup
