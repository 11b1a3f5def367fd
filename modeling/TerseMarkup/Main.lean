import TerseMarkup.Command.Outcome

/-!
# The program

Reads the files and the input that the command line asks for, and prints what
it comes to.
-/

namespace TerseMarkup.Command

def readFile (name : String) : IO (Except ReadError ByteArray) := do
  try
    return .ok (← IO.FS.readBinFile name)
  catch
    | .noFileOrDirectory .. => return .error .missing
    | .inappropriateType _ 20 _ => return .error .notFolder
    | .inappropriateType _ 21 _ => return .error .folder
    | error => return .error (.unreadable (toString error))

/-- Everything that carrying out a command line reads. -/
def collect (arguments : List String) : IO Surroundings := do
  match Invocation.read arguments with
  | .error _ => return .ofFolder .empty {}
  | .ok invocation =>
      let files ← invocation.files.mapM fun name => do
        return (name, ← readFile name)
      let input ←
        if invocation.readsInput then (← IO.getStdin).readBinToEnd
        else pure .empty
      return {
        input := input
        file := fun name => (files.lookup name).getD (.error .missing) }

end TerseMarkup.Command

open TerseMarkup.Command in
def main (arguments : List String) : IO UInt32 := do
  let outcome := run arguments (← collect arguments)
  IO.print outcome.output
  IO.eprint outcome.errors
  return outcome.code.toUInt32
