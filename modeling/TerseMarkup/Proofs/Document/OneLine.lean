import TerseMarkup.Proofs.Document.Steps
import TerseMarkup.Proofs.Source.Lines
import TerseMarkup.Proofs.Source.Skipping
import TerseMarkup.Proofs.Text.Trimming

/-!
# Plain lines

A line without comment and without blanks around it is found as it stands,
whatever lines come after it. A source that is such a line makes one node,
unless the line opens or closes a block.
-/

namespace TerseMarkup

/-- No line that closes a block starts with a name. -/
theorem cons_ne_closingLine {first : Char} (rest : List Char)
    (nameChar : Token.isNameChar first = true) :
    first :: rest ≠ closingLine := by
  intro closing
  rw [(List.cons.inj closing).1] at nameChar
  exact absurd nameChar (by decide)

/-- One line, not empty, that has neither a comment nor blanks around it. -/
structure Line.IsPlain (line : Line) : Prop where
  oneLine : '\n' ∉ line
  visible : line ≠ []
  uncommented : Comment.strip line = line

namespace Line.IsPlain

variable {line : Line} (plain : line.IsPlain)

include plain

theorem isTrimmed : Text.IsTrimmed line := by
  have trimmed : Text.IsTrimmed (Comment.strip line) :=
    Text.isTrimmed_trim _
  rw [plain.uncommented] at trimmed
  exact trimmed

theorem trim_eq : Text.trim line = line :=
  Text.trim_of_isTrimmed plain.isTrimmed

theorem significant_eq : line.significant = line := by
  rw [Line.significant, plain.trim_eq, plain.uncommented]

theorem opensComment_eq_false : Cursor.opensComment line = false := by
  obtain ⟨first, rest, shape⟩ := List.exists_cons_of_ne_nil plain.visible
  -- A `#` at the start of the line would be the start of a comment.
  have notHash : first ≠ '#' := by
    rintro rfl
    have stripped := plain.uncommented
    rw [shape] at stripped
    exact absurd stripped (by simp [Comment.strip, Comment.keep,
      Quoting.isOutside, Quoting.outside])
  exact Cursor.opensComment_eq_false_of_ne (plain.trim_eq.trans shape) notHash

theorem sourceLines_eq : sourceLines line = [line] := by
  apply sourceLines_of_not_mem plain.oneLine
  intro last
  exact absurd (plain.isTrimmed.stop '\r' last) (by decide)

theorem next_cons (number : Nat) (lines : List Line) :
    (Cursor.mk number (line :: lines)).next =
      (.line ⟨number, line⟩, ⟨number + 1, lines⟩) := by
  have visible : line.significant ≠ [] := by
    rw [plain.significant_eq]
    exact plain.visible
  rw [Cursor.next, Cursor.nextFrom_of_significant _ _
    plain.opensComment_eq_false visible, plain.significant_eq]

theorem parse_eq (options : Options)
    (notOpener : Element.readOpener? line = none)
    (notClosing : line ≠ closingLine) :
    Document.parse options (String.ofList line) =
      { document := [(Node.ofLine ⟨1, line⟩).1]
        diagnostics := (Node.ofLine ⟨1, line⟩).2 } := by
  have nothing : Cursor.parse options 0 ⟨2, []⟩ = {} :=
    Cursor.parse_of_nothing rfl
  rw [Document.parse, String.toList_ofList, plain.sourceLines_eq,
    Cursor.parse_of_line (plain.next_cons 1 []) notOpener notClosing,
    nothing, List.append_nil]

end Line.IsPlain

end TerseMarkup
