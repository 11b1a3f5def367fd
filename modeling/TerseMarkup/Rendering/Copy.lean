import TerseMarkup.Element

/-!
# Copies of an element

Every copy of a repeated element knows its number, counted from one. The
placeholder `&index;` stands for that number in attributes, id, classes and
content.
-/

namespace TerseMarkup

/-- Replaces every placeholder in a text by the digits of an index. -/
def fillIndex (index : Nat) : List Char → List Char
  | '&' :: 'i' :: 'n' :: 'd' :: 'e' :: 'x' :: ';' :: rest =>
      Nat.toDigits 10 index ++ fillIndex index rest
  | character :: rest => character :: fillIndex index rest
  | [] => []

def withIndex (index : Nat) (text : String) : String :=
  String.ofList (fillIndex index text.toList)

/-- The attributes of a tag as they are written, with a blank before each
part: the given attributes, the id and the classes. Empty parts are left
out. -/
def attributeText
    (attributes : String) (id : Option String) (classes : List String) :
    String :=
  let given := if attributes = "" then "" else " " ++ attributes
  let identity :=
    match id with
    | none => ""
    | some id => if id = "" then "" else " id=\"" ++ id ++ "\""
  let kinds :=
    if classes = [] then ""
    else " class=\"" ++ " ".intercalate classes ++ "\""
  given ++ identity ++ kinds

namespace Element

def attributesAt (element : Element) (index : Nat) : String :=
  attributeText (withIndex index element.attributes)
    (element.id.map (withIndex index))
    (element.classes.map (withIndex index))

def contentAt (element : Element) (index : Nat) : String :=
  withIndex index element.content

/-- The attributes of a block with this head. A block is never repeated, and
its classes are taken as written. -/
def headAttributes (element : Element) : String :=
  attributeText (withIndex 1 element.attributes)
    (element.id.map (withIndex 1)) element.classes

end Element

end TerseMarkup
