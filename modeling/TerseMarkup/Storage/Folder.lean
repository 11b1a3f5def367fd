import TerseMarkup.Storage.Path
import TerseMarkup.Storage.ReadError

/-!
# Folders

A folder that holds just some files, and how a path that starts from it is
followed. The folders around it are there, with nothing else in them.
-/

namespace TerseMarkup

/-- Files, each with the names that lead to it. -/
structure Folder where
  files : List (List String × ByteArray) := []

namespace Folder

/-- Where following a path has come to. -/
inductive Place where
  | inside (names : List String)
  | outside
  | file (content : ByteArray)

def ofFiles (files : List (String × ByteArray)) : Folder where
  files := files.map fun (path, content) =>
    ((Path.steps path).filterMap fun
      | .enter name => some name
      | _ => none,
    content)

/-- The greatest numbers of bytes of a name and of a path. -/
def longestName : Nat := 255

def longestPath : Nat := 4095

def enter (folder : Folder) (names : List String) (name : String) :
    Except ReadError Place :=
  let reached := names ++ [name]
  match folder.files.lookup reached with
  | some content => .ok (.file content)
  | none =>
      if folder.files.any fun (path, _) => reached.isPrefixOf path then
        .ok (.inside reached)
      else .error .missing

def follow (folder : Folder) : Place → Path.Step → Except ReadError Place
  | .file _, _ => .error .notFolder
  | place, .stay => .ok place
  | .outside, .leave => .ok .outside
  | .inside [], .leave => .ok .outside
  | .inside names, .leave => .ok (.inside names.dropLast)
  | place, .enter name =>
      if longestName < name.utf8ByteSize then .error .longName
      else
        match place with
        | .inside names => folder.enter names name
        | _ => .error .missing

def read (folder : Folder) (path : String) : Except ReadError ByteArray := do
  if path = "" then throw .missing
  if longestPath < path.utf8ByteSize then throw .longName
  let start : Place := if Path.isAbsolute path then .outside else .inside []
  match ← (Path.steps path).foldlM folder.follow start with
  | .file content => return content
  | _ => throw .folder

end Folder

end TerseMarkup
