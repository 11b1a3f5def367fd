import TerseMarkup.Toml.Value

/-!
# TOML documents

A document is a row of statements: headers, which open tables, and keys with
their values, which belong to the table opened last.
-/

namespace TerseMarkup.Toml

/-- A statement of a document. A `rowHeader` is the header of one more table of
several. -/
inductive Statement where
  | nothing
  | header (key : Key)
  | rowHeader (key : Key)
  | assignment (key : Key) (item : Item)

/-- Reads a statement up to the end of its line. -/
def statement : Reader Statement := do
  match ← get with
  | '#' :: _ => do
      comment
      lineEnd
      pure .nothing
  | '[' :: '[' :: _ => do
      Reader.exactly ['[', '[']
      let opened ← key
      Reader.exactly [']', ']']
      trailing
      pure (.rowHeader opened)
  | '[' :: _ => do
      Reader.exactly ['[']
      let opened ← key
      Reader.exactly [']']
      trailing
      pure (.header opened)
  | '\n' :: _ => do
      newline
      pure .nothing
  | '\r' :: _ => do
      newline
      pure .nothing
  | _ => do
      let (name, given) ← assignment (value (depthLimit - 1))
      trailing
      pure (.assignment name given)

def statements : Reader (List Statement) := do
  discard (Reader.optional (Reader.exactly ['\uFEFF']))
  blanks
  let read ← Reader.many (do let one ← statement; blanks; pure one)
  Reader.atEnd
  pure read

/-- A document while its statements are carried out, with the names that lead
to the table opened last. -/
structure Building where
  root : Item := .root
  opened : List String := []

def Building.step (building : Building) : Statement → Option Building
  | .nothing => some building
  | .header key => do
      return {
        root := ← building.root.openTable key.path key.name
        opened := key.path ++ [key.name] }
  | .rowHeader key => do
      return {
        root := ← building.root.addTable key.path key.name
        opened := key.path ++ [key.name] }
  | .assignment key item => do
      let insert := Item.insert key.path key.name item
      return { building with
        root := ← building.root.modify false insert building.opened }

/-- The table of settings that a text in TOML gives, if it is one. -/
def read? (text : List Char) : Option Setting := do
  let (statements, _) ← statements.run text
  let built ← statements.foldlM Building.step {}
  match ← built.root.setting? with
  | .table entries => some (.table entries)
  | _ => none

end TerseMarkup.Toml
