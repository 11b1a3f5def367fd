import TerseMarkup.Text.Blank

/-!
# Lines of a source

A source is cut at every line feed, and a carriage return that ends a line
belongs to its ending. The empty source is one empty line.
-/

namespace TerseMarkup

/-- One line of a source, without its ending. -/
abbrev Line := List Char

namespace Line

def dropReturn (line : Line) : Line :=
  if line.getLast? = some '\r' then line.dropLast else line

/-- The stretches between the line feeds of a text: the first one and the
others. -/
def split (text : List Char) : Line × List Line :=
  text.foldr
    (fun character (first, others) =>
      if character = '\n' then ([], first :: others)
      else (character :: first, others))
    ([], [])

end Line

def sourceLines (source : List Char) : List Line :=
  let (first, others) := Line.split source
  (first :: others).map Line.dropReturn

@[simp] theorem Line.split_nil : Line.split [] = ([], []) := rfl

theorem Line.split_cons (character : Char) (rest : List Char) :
    Line.split (character :: rest) =
      if character = '\n' then ([], (Line.split rest).1 :: (Line.split rest).2)
      else (character :: (Line.split rest).1, (Line.split rest).2) := rfl

end TerseMarkup
