/-!
# Quotes and backslashes

A scan over a line keeps track of the quote it is inside of and of a
backslash just before. A backslash takes the meaning from the character
after it, inside quotes as well; a quote lasts until the next unescaped mark
of the same kind.
-/

namespace TerseMarkup

/-- Where a scan stands with regard to quotes and backslashes: the mark of the
quote it is inside of, and whether a backslash stands just before. -/
structure Quoting where
  mark : Option Char := none
  escaped : Bool := false
  deriving DecidableEq, Repr

namespace Quoting

def outside : Quoting := {}

/-- Whether the next character keeps its meaning. -/
def isOutside (quoting : Quoting) : Bool :=
  quoting.mark.isNone && !quoting.escaped

def isMark (character : Char) : Bool :=
  character == '"' || character == '\''

def step (quoting : Quoting) (character : Char) : Quoting :=
  if quoting.escaped then
    { quoting with escaped := false }
  else if character = '\\' then
    { quoting with escaped := true }
  else
    match quoting.mark with
    | none =>
        if isMark character then { quoting with mark := some character }
        else quoting
    | some mark =>
        if character = mark then { quoting with mark := none } else quoting

def run (quoting : Quoting) (text : List Char) : Quoting :=
  text.foldl step quoting

@[simp] theorem run_nil (quoting : Quoting) : quoting.run [] = quoting := rfl

@[simp] theorem run_cons
    (quoting : Quoting) (character : Char) (text : List Char) :
    quoting.run (character :: text) = (quoting.step character).run text := rfl

theorem run_append (quoting : Quoting) (first second : List Char) :
    quoting.run (first ++ second) = (quoting.run first).run second := by
  simp [run]

end Quoting

end TerseMarkup
