import TerseMarkup.Element

/-!
# Documents

A document is a list of nodes, one for every block and every other line that
says something. A node keeps the number of the line it comes from.
-/

namespace TerseMarkup

/-- One step of a chain: an element, with the rest of the chain inside of it,
or a token that is not an element, kept as text. -/
inductive Link where
  | element (element : Element)
  | literal (text : String)
  deriving DecidableEq, Repr

/-- Elements nested in each other, outermost first. -/
abbrev Chain := List Link

/-- How the text of a block is used: copied as it is, or escaped, so that it
shows as written. -/
inductive TextForm where
  | verbatim
  | raw
  deriving DecidableEq, Repr

/-- A block of text, a block with a document of its own inside, or a line with
one element, one chain or several. -/
inductive Node where
  | passage (line : Nat) (head : Element) (form : TextForm) (text : String)
  | markup (line : Nat) (head : Element) (body : List Node)
  | inline (line : Nat) (element : Element)
  | nesting (line : Nat) (chain : Chain)
  | siblings (line : Nat) (parent : Chain) (others : List Chain)
  deriving Repr

abbrev Document := List Node

def Node.line : Node → Nat
  | passage line _ _ _ => line
  | markup line _ _ => line
  | inline line _ => line
  | nesting line _ => line
  | siblings line _ _ => line

end TerseMarkup
