import TerseMarkup.Html.Escape

/-!
# Fragments of HTML

The pieces that rendering puts together, the text that they are written as,
and the number of nodes that they are made of.
-/

namespace TerseMarkup

/-- A piece of HTML. Attributes are given with the blank before them, and
`markup` is written as it is. -/
inductive Fragment where
  | element (tag attributes content : String) (children : List Fragment)
  | block (tag attributes : String) (body : List Fragment)
  | passage (tag attributes inside : String)
  | text (words : String)
  | markup (written : String)
  deriving Repr

namespace Fragment

mutual

/-- Writes a fragment at the end of `out`. -/
def appendTo (out : String) : Fragment → String
  | element tag attributes content children =>
      let opened := out ++ "<" ++ tag ++ attributes ++ ">" ++ content
      let filled :=
        if children.isEmpty then opened
        else appendAllTo (opened ++ "\n") children
      filled ++ "</" ++ tag ++ ">\n"
  | block tag attributes body =>
      let filled :=
        appendAllTo (out ++ "<" ++ tag ++ attributes ++ ">\n") body
      filled ++ "</" ++ tag ++ ">\n"
  | passage tag attributes inside =>
      out ++ "<" ++ tag ++ attributes ++ ">\n" ++ inside ++ "</" ++ tag ++
        ">\n"
  | text words => out ++ words ++ "\n"
  | markup written => out ++ written

def appendAllTo (out : String) : List Fragment → String
  | [] => out
  | fragment :: rest => appendAllTo (fragment.appendTo out) rest

end

def html (fragment : Fragment) : String :=
  fragment.appendTo ""

def htmlAll (fragments : List Fragment) : String :=
  appendAllTo "" fragments

mutual

/-- The number of nodes of a fragment. What is inside of a block does not
count. -/
def size : Fragment → Nat
  | element _ _ _ children => 1 + sizeAll children
  | block _ _ _ => 1
  | passage _ _ _ => 1
  | text _ => 1
  | markup _ => 1

def sizeAll : List Fragment → Nat
  | [] => 0
  | fragment :: rest => fragment.size + sizeAll rest

end

end Fragment

end TerseMarkup
