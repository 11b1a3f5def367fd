import TerseMarkup.Source.Line
import TerseMarkup.Source.Quoting

/-!
# Comments at the end of a line

A comment starts at a `#` that is neither quoted nor escaped and that comes
first in the line or right after a blank.
-/

namespace TerseMarkup.Comment

/-- The part of a line before its comment. `afterBlank` tells whether a `#`
at the start of the text would follow a blank or the start of the line. -/
def keep (quoting : Quoting) (afterBlank : Bool) : List Char → List Char
  | [] => []
  | character :: rest =>
      if character = '#' ∧ afterBlank ∧ quoting.isOutside then []
      else
        character ::
          keep (quoting.step character) (Text.isBlank character) rest

def strip (line : Line) : Line :=
  Text.trim (keep .outside true line)

@[simp] theorem keep_nil (quoting : Quoting) (afterBlank : Bool) :
    keep quoting afterBlank [] = [] := rfl

@[simp] theorem strip_nil : strip [] = [] := rfl

end TerseMarkup.Comment
