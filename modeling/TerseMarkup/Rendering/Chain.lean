import TerseMarkup.Document
import TerseMarkup.Html.Fragment
import TerseMarkup.Options
import TerseMarkup.Rendering.Budget
import TerseMarkup.Rendering.Copy

/-!
# Rendering elements and chains

An element is rendered as many times as its repeat count says, with the rest
of its chain inside of every copy. Further chains on a line go inside of the
last copy of the first chain's outermost element.
-/

namespace TerseMarkup

/-- How many copies of an element are asked for, after the limit. -/
def Element.copyCount (options : Options) (line : Nat) (element : Element) :
    Render Nat :=
  if element.count ≤ options.maxRepeat then pure element.count
  else do
    Render.report
      (.tooManyCopies element.count element.tag options.maxRepeat line)
    pure options.maxRepeat

/-- The fragments of the copy of an element with the given index. The content
of a raw element is shown as text, with what is inside next to it. -/
def Element.copyAt
    (element : Element) (children : List Fragment) (index : Nat) :
    List Fragment :=
  let content := element.contentAt index
  if element.isRaw then
    if content = "" then children
    else .text (Html.escape content) :: children
  else
    [.element element.tag (element.attributesAt index) content children]

def Element.render
    (options : Options) (line : Nat) (element : Element)
    (children : List Fragment) : Render (List Fragment) := do
  let count ← element.copyCount options line
  -- Each copy pays again for the fragments inside of it.
  let paid ← Render.chargeCopies line (1 + Fragment.sizeAll children) count
  pure ((List.range' 1 paid).flatMap (element.copyAt children))

/-- Renders a chain. A literal leaves the rest of the chain at its own
level. -/
def Chain.render (options : Options) (line : Nat) :
    Chain → Render (List Fragment)
  | [] => pure []
  | .literal text :: rest => do
      let paid ← Render.charge line 1
      let after ← Chain.render options line rest
      pure (if paid then .text (Html.escape text) :: after else after)
  | .element element :: rest => do
      let children ← Chain.render options line rest
      element.render options line children

def Chain.renderAll (options : Options) (line : Nat) :
    List Chain → Render (List Fragment)
  | [] => pure []
  | chain :: rest => do
      let first ← Chain.render options line chain
      let others ← Chain.renderAll options line rest
      pure (first ++ others)

/-- Whether further chains on the line go inside of this one: it has more than
one link, and the first one is an element that is not raw. -/
def Chain.encloses : Chain → Bool
  | .element element :: _ :: _ => !element.isRaw
  | _ => false

/-- Puts fragments inside of the last one if that is an element, and after it
otherwise. -/
def Fragment.insertLast (outer inserted : List Fragment) : List Fragment :=
  match outer.getLast? with
  | some (.element tag attributes content children) =>
      outer.dropLast ++
        [.element tag attributes content (children ++ inserted)]
  | _ => outer ++ inserted

def Chain.renderSiblings
    (options : Options) (line : Nat) (parent : Chain) (others : List Chain) :
    Render (List Fragment) := do
  let outer ← Chain.render options line parent
  let inserted ← Chain.renderAll options line others
  pure
    (if parent.encloses then Fragment.insertLast outer inserted
    else outer ++ inserted)

end TerseMarkup
