import TerseMarkup.Output.Datum
import TerseMarkup.Output.Yaml.Scalar

/-!
# YAML

Data as YAML in block style. The items of a list stand below the key of the
list, and the case of a variant is written as a tag.
-/

namespace TerseMarkup.Yaml

/-- What a value is written after: the start of the document, the key of a
field or the dash of an item. -/
inductive Place where
  | start
  | key
  | dash
  deriving DecidableEq, Repr

def endLine (text : List Char) : List Char :=
  if text.getLast?.any isBreak then text else text ++ ['\n']

/-- A value on the line of its key or dash. -/
def onLine (place : Place) (text : List Char) : List Char :=
  match place with
  | .start => endLine text
  | .key => ' ' :: endLine text
  | .dash => ' ' :: endLine text

def tagged (place : Place) (name : String) : List Char :=
  match place with
  | .start => '!' :: name.toList
  | .key => ' ' :: '!' :: name.toList
  | .dash => ' ' :: '!' :: name.toList

mutual

/-- A value at a place. `indent` is the column of the key or the dash before
it. -/
def write (indent : Nat) (place : Place) : Datum → List Char
  | .null => onLine place "null".toList
  | .number value => onLine place (toString value).toList
  | .text value => onLine place (scalar (indent + 2) value)
  | .list [] => onLine place "[]".toList
  | .list (first :: rest) =>
      match place with
      | .start =>
          '-' :: (write indent .dash first ++ writeItems indent rest)
      | .key => '\n' :: writeItems indent (first :: rest)
      | .dash =>
          ' ' :: '-' ::
            (write (indent + 2) .dash first ++ writeItems (indent + 2) rest)
  | .record [] => onLine place ['\x7b', '\x7d']
  | .record ((name, value) :: rest) =>
      match place with
      | .start =>
          name.toList ++ ':' ::
            (write indent .key value ++ writeFields indent rest)
      | .key => '\n' :: writeFields (indent + 2) ((name, value) :: rest)
      | .dash =>
          ' ' :: (name.toList ++ ':' ::
            (write (indent + 2) .key value ++ writeFields (indent + 2) rest))
  | .variant name payload =>
      tagged place name ++ write indent .key payload

def writeItems (indent : Nat) : List Datum → List Char
  | [] => []
  | item :: rest =>
      blanks indent ++ '-' ::
        (write indent .dash item ++ writeItems indent rest)

def writeFields (indent : Nat) : List (String × Datum) → List Char
  | [] => []
  | (name, value) :: rest =>
      blanks indent ++ name.toList ++ ':' ::
        (write indent .key value ++ writeFields indent rest)

end

def document (datum : Datum) : String :=
  String.ofList (write 0 .start datum)

end TerseMarkup.Yaml
