/-!
# Paths

A path is a row of parts with slashes between them. Each part is a step from
folder to folder: a name leads into a folder or to a file, `..` leads out of a
folder, and `.` or nothing stays in it.
-/

namespace TerseMarkup.Path

/-- What a part of a path does: it stays in the folder, leaves it for the one
around it, or goes on to what has a name in it. -/
inductive Step where
  | stay
  | leave
  | enter (name : String)
  deriving DecidableEq, Repr

/-- The stretches of a text between its slashes. -/
def split : List Char → List (List Char)
  | [] => [[]]
  | character :: rest =>
      if character = '/' then [] :: split rest
      else
        match split rest with
        | [] => [[character]]
        | first :: others => (character :: first) :: others

def stepOf (part : List Char) : Step :=
  if part = [] ∨ part = ['.'] then .stay
  else if part = ['.', '.'] then .leave
  else .enter (String.ofList part)

def steps (path : String) : List Step :=
  (split path.toList).map stepOf

def isAbsolute (path : String) : Bool :=
  path.toList.head? == some '/'

/-- The path with an ending after its last name. What comes after that name
and stays where it leads is dropped. A path that ends by leaving a folder, or
has no name, has no such form. -/
def withEnding? (ending : String) (path : String) : Option String :=
  match (split path.toList).reverse.dropWhile (stepOf · == .stay) with
  | [] => none
  | last :: before =>
      match stepOf last with
      | .enter name =>
          some (String.ofList
            (List.intercalate ['/']
              (before.reverse ++ [name.toList ++ ending.toList])))
      | _ => none

end TerseMarkup.Path
