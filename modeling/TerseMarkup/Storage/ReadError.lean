/-!
# Why a file cannot be read
-/

namespace TerseMarkup

/-- Why what a path leads to cannot be read. With `notFolder` the path goes on
after a file; with `unreadable` a file is there. -/
inductive ReadError where
  | missing
  | notFolder
  | folder
  | longName
  | unreadable (reason : String)
  deriving DecidableEq, Repr

namespace ReadError

def message : ReadError → String
  | missing => "No such file or directory (os error 2)"
  | notFolder => "Not a directory (os error 20)"
  | folder => "Is a directory (os error 21)"
  | longName => "File name too long (os error 36)"
  | unreadable reason => reason

/-- Whether there is no file at the path. -/
def isAbsence : ReadError → Bool
  | unreadable _ => false
  | _ => true

end ReadError

end TerseMarkup
