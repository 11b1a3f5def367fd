import TerseMarkup.Settings.Setting

/-!
# Key paths

A key path leads from a table to one of the settings in it: names joined by
points, and positions in brackets.
-/

namespace TerseMarkup

/-- A step from a setting into it: to the entry of a table with a name, or to a
position in a list, counted from the end if it is below zero. -/
inductive KeyStep where
  | name (name : String)
  | position (position : Int)
  deriving DecidableEq, Repr

/-- The steps to a setting; the first one is a name. -/
structure KeyPath where
  first : String
  steps : List KeyStep := []
  deriving DecidableEq, Repr

namespace KeyPath

/-! ## Reading -/

def isNameChar (character : Char) : Bool :=
  character.isAlphanum || character == '_' || character == '-' ||
    character == ' '

def takeName? (text : List Char) : Option (String × List Char) :=
  let name := text.takeWhile isNameChar
  if name.isEmpty then none
  else some (String.ofList name, text.dropWhile isNameChar)

/-- Takes a position and the bracket after it from the front of a text. -/
def takePosition? (text : List Char) : Option (Int × List Char) := do
  let isBlank (character : Char) : Bool := character == ' ' || character == '\t'
  let text := text.dropWhile isBlank
  let digits := dropSign ['-'] text
  let value ← natOfDigits? 10 (digits.takeWhile Char.isDigit)
  let position : Int := if text.head? = some '-' then -value else value
  if position < -0x8000000000000000 ∨ 0x7FFFFFFFFFFFFFFF < position then none
  else
    match (digits.dropWhile Char.isDigit).dropWhile isBlank with
    | ']' :: rest => some (position, rest)
    | _ => none

/-- Reads the steps after the first name, of which there are at most
`bound`. -/
def readSteps? : Nat → List Char → Option (List KeyStep)
  | _, [] => some []
  | bound + 1, '.' :: rest => do
      let (name, rest) ← takeName? rest
      return .name name :: (← readSteps? bound rest)
  | bound + 1, '[' :: rest => do
      let (position, rest) ← takePosition? rest
      return .position position :: (← readSteps? bound rest)
  | _, _ => none

def read? (text : List Char) : Option KeyPath := do
  let (first, rest) ← takeName? text
  return ⟨first, ← readSteps? rest.length rest⟩

/-! ## Setting what a path leads to -/

/-- Changes the item of a list at a position; the list is made long enough for
it. -/
def updateItem
    (position : Int) (change : Setting → Setting) (items : List Setting) :
    List Setting :=
  let index :=
    if position < 0 then items.length - (-position).toNat
    else position.toNat
  let filled := items ++ List.replicate (index + 1 - items.length) .unset
  filled.modify index change

/-- Sets what steps from a setting lead to. What is on the way is replaced by
a table or a list where it is something else. -/
def setSteps (value : Setting) : List KeyStep → Setting → Setting
  | [], _ => value
  | [.name name], setting => Setting.put name value setting
  | .name name :: rest, setting =>
      setting.update name fun present =>
        setSteps value rest (present.getD .unset)
  | .position position :: rest, setting =>
      .list (updateItem position (setSteps value rest) setting.items)

def set (path : KeyPath) (value root : Setting) : Setting :=
  setSteps value (.name path.first :: path.steps) root

end KeyPath

/-- Lays a table over the settings: each of its names is a key path if it can
be read as one. -/
def Setting.overlay (settings : Setting) (layer : Setting) : Setting :=
  layer.entries.foldl
    (fun settings (name, value) =>
      let path := (KeyPath.read? name.toList).getD ⟨name, []⟩
      path.set value settings)
    settings

end TerseMarkup
