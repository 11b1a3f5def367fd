import TerseMarkup.Toml.Moment

/-!
# Building tables

A TOML document fills its tables from several places: under headers, by keys
with several names and in braces. A table that is complete in one place cannot
be added to in another, and no key is given twice. A table whose first key is
a reserved one stands for a moment.
-/

namespace TerseMarkup.Toml

/-- A part of a document while it is being read. Of a table, `implied` tells
that it came to be on the way to another one, and `dotted` that it came to be
by a key with several names. `tables` are the ones under one header, in order.
-/
inductive Item where
  | value (setting : Setting)
  | moment (text : String)
  | list (items : List Item)
  | braced (entries : List (String × Item))
  | table (implied dotted : Bool) (entries : List (String × Item))
  | tables (rows : List Item)

namespace Item

def root : Item := table false false []

def updateEntry
    (name : String) (change : Option Item → Option Item) :
    List (String × Item) → Option (List (String × Item))
  | [] => do return [(name, ← change none)]
  | (other, item) :: rest => do
      if other = name then return (name, ← change (some item)) :: rest
      else return (other, item) :: (← updateEntry name change rest)

/-- Changes what lies at a path. Tables that are missing on the way are added.
A path by a key with several names leads through no table that is complete,
and no path leads through a value. -/
def modify
    (dotted : Bool) (change : Item → Option Item) :
    List String → Item → Option Item
  | [], item => change item
  | name :: path, table implied wasDotted entries => do
      let enter (present : Option Item) : Option Item :=
        match present.getD (table true dotted []) with
        | tables rows => do
            let last ← rows.getLast?
            return tables (rows.dropLast ++ [← modify dotted change path last])
        | table childImplied childDotted children =>
            if dotted && !childImplied then none
            else
              modify dotted change path
                (table childImplied childDotted children)
        | _ => none
      return table implied wasDotted (← updateEntry name enter entries)
  | _ :: _, _ => none

def insert (path : List String) (name : String) (item : Item) :
    Item → Option Item :=
  modify true
    (fun
      | table implied dotted entries => do
          if dotted == path.isEmpty then none
          else
            let add (present : Option Item) : Option Item :=
              match present with
              | none => some item
              | some _ => none
            return table implied dotted (← updateEntry name add entries)
      | _ => none)
    path

/-- Opens the table of a header, which becomes the last one in its place. Only
a table that is there because it was on the way to another one may be there
already. -/
def openTable (path : List String) (name : String) : Item → Option Item :=
  modify false
    (fun
      | table implied dotted entries =>
          let others := entries.filter (·.1 ≠ name)
          match entries.lookup name with
          | none =>
              some (table implied dotted
                (others ++ [(name, table false false [])]))
          | some (table true false children) =>
              some (table implied dotted
                (others ++ [(name, table false false children)]))
          | some _ => none
      | _ => none)
    path

def addTable (path : List String) (name : String) : Item → Option Item :=
  modify false
    (fun
      | table implied dotted entries => do
          let enter (present : Option Item) : Option Item :=
            match present with
            | none => some (tables [table false false []])
            | some (tables rows) =>
                some (tables (rows ++ [table false false []]))
            | some _ => none
          return table implied dotted (← updateEntry name enter entries)
      | _ => none)
    path

/-- A table in braces with the given entries, each under a key that may have
several names. -/
def ofAssignments? (assignments : List ((List String × String) × Item)) :
    Option Item := do
  match ← assignments.foldlM
      (fun built ((path, name), item) => insert path name item built) root with
  | table _ _ entries => return braced entries
  | _ => none

/-! ## Settings -/

/-- The key whose table stands for a moment if it is the first one. -/
def momentKey : String := "$__toml_private_datetime"

def momentOf? : Item → Option Setting
  | value (.text text) => (momentOfText? text).map .text
  | _ => none

mutual

/-- The setting that a part of a document comes to. -/
def setting? : Item → Option Setting
  | value given => some given
  | moment text => some (.text text)
  | list items => (settings? items).map .list
  | braced entries => tableSetting? entries
  | table _ _ entries => tableSetting? entries
  | tables rows => (settings? rows).map .list

def settings? : List Item → Option (List Setting)
  | [] => some []
  | item :: rest => do return (← item.setting?) :: (← settings? rest)

def tableSetting? : List (String × Item) → Option Setting
  | [] => some (.table [])
  | (name, item) :: rest =>
      if name = momentKey then item.momentOf?
      else do
        return .table ((name, ← item.setting?) :: (← entrySettings? rest))

def entrySettings? : List (String × Item) → Option (List (String × Setting))
  | [] => some []
  | (name, item) :: rest => do
      return (name, ← item.setting?) :: (← entrySettings? rest)

end

end Item

end TerseMarkup.Toml
