import TerseMarkup.Toml.Number
import TerseMarkup.Toml.Quoted
import TerseMarkup.Toml.Table

/-!
# Keys and values in TOML

A key is a row of names joined by points. A value is a text, a number, a truth
value, a moment, a list in brackets or a table in braces.
-/

namespace TerseMarkup.Toml

/-- A key: the names that lead to a table, and the name in it. -/
structure Key where
  path : List String
  name : String
  deriving DecidableEq, Repr

def isBareChar (character : Char) : Bool :=
  character.isAlphanum || character == '_' || character == '-'

def keyName : Reader String := do
  let bare : Reader (List Char) := do
    let first ← Reader.one isBareChar
    let others ← Reader.all isBareChar
    pure (first :: others)
  let name ← basicText <|> literalText <|> bare
  pure (String.ofList name)

/-- The number of names that a key stays below, and the number of lists and
tables around a value. -/
def depthLimit : Nat := 80

def key : Reader Key := do
  let name : Reader String := do
    blanks
    let read ← keyName
    blanks
    pure read
  let first ← name
  let others ← Reader.many (do Reader.exactly ['.']; name)
  let names := first :: others
  if names.length < depthLimit then
    pure ⟨names.dropLast, names.getLast (by simp [names])⟩
  else failure

def list (value : Reader Item) : Reader Item := do
  Reader.exactly ['[']
  filler
  let first ← Reader.optional value
  match first with
  | none => do
      Reader.exactly [']']
      pure (.list [])
  | some first => do
      let others ← Reader.many (do filler; Reader.exactly [',']; filler; value)
      filler
      discard (Reader.optional (Reader.exactly [',']))
      filler
      Reader.exactly [']']
      pure (.list (first :: others))

def assignment (value : Reader Item) : Reader (Key × Item) := do
  let name ← key
  Reader.exactly ['=']
  blanks
  let given ← value
  blanks
  pure (name, given)

def inlineTable (value : Reader Item) : Reader Item := do
  Reader.exactly ['\x7b']
  let first ← Reader.optional (assignment value)
  let others ←
    match first with
    | none => pure []
    | some _ =>
        Reader.many (do Reader.exactly [',']; assignment value)
  blanks
  Reader.exactly ['\x7d']
  let assignments := (first.toList ++ others).map fun (name, given) =>
    ((name.path, name.name), given)
  match Item.ofAssignments? assignments with
  | some table => pure table
  | none => failure

def momentOrNumber : Reader Item :=
  (do return .moment (String.ofList (← moment))) <|>
    (do return .value (.double (← decimalDouble))) <|>
    (do return .value (.double (← specialDouble))) <|>
    (do return .value (.integer (← integer)))

/-- Reads a value that is neither a list nor a table. -/
def simpleValue : Reader Item := do
  match ← Reader.peek? with
  | some '"' => return .value (.text (String.ofList (← quotedText)))
  | some '\'' => return .value (.text (String.ofList (← quotedText)))
  | some 't' => do
      Reader.exactly ['t', 'r', 'u', 'e']
      pure (.value (.boolean true))
  | some 'f' => do
      Reader.exactly ['f', 'a', 'l', 's', 'e']
      pure (.value (.boolean false))
  | _ => momentOrNumber

/-- Reads a value with at most `depth` lists and tables inside of each
other. -/
def value : Nat → Reader Item
  | 0 => simpleValue
  | depth + 1 => do
      match ← Reader.peek? with
      | some '[' => list (value depth)
      | some '\x7b' => inlineTable (value depth)
      | _ => simpleValue

end TerseMarkup.Toml
