import TerseMarkup.Source.Line
import TerseMarkup.Source.Quoting

/-!
# Cutting a line at its combinators

`+` separates chains and `>` separates the tokens of a chain. Only a
combinator outside of quotes and braces and not after a backslash separates
anything.
-/

namespace TerseMarkup

/-- Where a scan for separators stands: its quoting and the number of open
braces around it. -/
structure Enclosure where
  quoting : Quoting := .outside
  depth : Nat := 0
  deriving DecidableEq, Repr

namespace Enclosure

def outermost : Enclosure := {}

/-- The state after one more character. A closing brace without an open one
changes nothing. -/
def step (enclosure : Enclosure) (character : Char) : Enclosure where
  quoting := enclosure.quoting.step character
  depth :=
    if enclosure.quoting.isOutside then
      if character = '{' then enclosure.depth + 1
      else if character = '}' then enclosure.depth - 1
      else enclosure.depth
    else enclosure.depth

def run (enclosure : Enclosure) (text : List Char) : Enclosure :=
  text.foldl step enclosure

/-- Characters that a scan reads for its own sake, so that they never
separate. -/
def isReserved (character : Char) : Bool :=
  character == '\\' || Quoting.isMark character ||
    character == '{' || character == '}'

def separates (enclosure : Enclosure) (delimiter character : Char) : Bool :=
  enclosure.quoting.isOutside && enclosure.depth == 0 &&
    character == delimiter && !isReserved character

end Enclosure

namespace Combinator

/-- The stretches between the separators of a text: the first one and the
others. -/
def cut (delimiter : Char) (enclosure : Enclosure) :
    List Char → List Char × List (List Char)
  | [] => ([], [])
  | character :: rest =>
      let (first, others) := cut delimiter (enclosure.step character) rest
      if enclosure.separates delimiter character then ([], first :: others)
      else (character :: first, others)

/-- Cuts a line at every separator, trims the parts and drops the empty
ones. -/
def split (delimiter : Char) (line : Line) : List Line :=
  let (first, others) := cut delimiter .outermost line
  ((first :: others).map Text.trim).filter (· ≠ [])

/-- Separates the chains of a line. -/
def sibling : Char := '+'

/-- Separates the tokens of a chain. -/
def nesting : Char := '>'

/-- The chains of a line, each with its tokens. A chain without tokens is
dropped. -/
def chains (line : Line) : List (List Line) :=
  ((split sibling line).map (split nesting)).filter (· ≠ [])

@[simp] theorem cut_nil (delimiter : Char) (enclosure : Enclosure) :
    cut delimiter enclosure [] = ([], []) := rfl

theorem cut_cons
    (delimiter : Char) (enclosure : Enclosure)
    (character : Char) (rest : List Char) :
    cut delimiter enclosure (character :: rest) =
      if enclosure.separates delimiter character then
        ([], (cut delimiter (enclosure.step character) rest).1 ::
          (cut delimiter (enclosure.step character) rest).2)
      else
        (character :: (cut delimiter (enclosure.step character) rest).1,
          (cut delimiter (enclosure.step character) rest).2) := rfl

end Combinator

end TerseMarkup
