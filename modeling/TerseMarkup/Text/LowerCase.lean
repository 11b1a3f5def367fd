import TerseMarkup.Text.LowerCase.Context
import TerseMarkup.Text.LowerCase.Mapping

/-!
# Small letters

The full Unicode mapping of a text to small letters. It follows the
one-to-one mapping except at two letters: the dotted capital I becomes two
characters, and a capital sigma takes its final form at the end of a word.
-/

namespace TerseMarkup.Text

namespace LowerCase

/-- The small letter of a character that does not depend on its
neighbours. -/
def charOf (character : Char) : Char :=
  if character.toNat < 0x80 then character.toLower
  else Char.ofNat (codeOf character.toNat)

/-- Maps the rest of a text; `before` holds the text so far, last character
first. -/
def mapFrom (before : List Char) : List Char → List Char
  | [] => []
  | character :: rest =>
      let mapped :=
        if character = '\u0130' then ['i', '\u0307']
        else if character = '\u03A3' then
          if startsCased before && !startsCased rest then ['\u03C2']
          else ['\u03C3']
        else [charOf character]
      mapped ++ mapFrom (character :: before) rest

end LowerCase

def lowerCase (text : List Char) : List Char :=
  LowerCase.mapFrom [] text

@[simp] theorem lowerCase_nil : lowerCase [] = [] := rfl

end TerseMarkup.Text
