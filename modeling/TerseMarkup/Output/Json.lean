import TerseMarkup.Output.Datum

/-!
# JSON

Data as indented JSON, two blanks a level. A variant is an object with one
member, named for its case.
-/

namespace TerseMarkup.Json

/-- The digit of a number below sixteen, in small letters. -/
def hexDigit (value : Nat) : Char :=
  if value < 10 then Char.ofNat ('0'.toNat + value)
  else Char.ofNat ('a'.toNat + (value - 10))

def escapeChar (character : Char) : List Char :=
  if character = '"' then ['\\', '"']
  else if character = '\\' then ['\\', '\\']
  else if character = '\n' then ['\\', 'n']
  else if character = '\r' then ['\\', 'r']
  else if character = '\t' then ['\\', 't']
  else if character.toNat = 0x08 then ['\\', 'b']
  else if character.toNat = 0x0C then ['\\', 'f']
  else if character.toNat < 0x20 then
    ['\\', 'u', '0', '0', hexDigit (character.toNat / 16),
      hexDigit (character.toNat % 16)]
  else [character]

def quote (text : String) : String :=
  "\"" ++ String.ofList (text.toList.flatMap escapeChar) ++ "\""

def lineStart (level : Nat) : String :=
  "\n" ++ String.ofList (List.replicate (2 * level) ' ')

mutual

/-- Data at a level of indentation. -/
def write (level : Nat) : Datum → String
  | .null => "null"
  | .number value => toString value
  | .text value => quote value
  | .list [] => "[]"
  | .list (first :: rest) =>
      "[" ++ lineStart (level + 1) ++ write (level + 1) first ++
        writeItems (level + 1) rest ++ lineStart level ++ "]"
  | .record [] => "\x7b\x7d"
  | .record ((name, value) :: rest) =>
      "\x7b" ++ lineStart (level + 1) ++ quote name ++ ": " ++
        write (level + 1) value ++ writeFields (level + 1) rest ++
        lineStart level ++ "\x7d"
  | .variant name payload =>
      "\x7b" ++ lineStart (level + 1) ++ quote name ++ ": " ++
        write (level + 1) payload ++ lineStart level ++ "\x7d"

/-- Further items of a list, each after a comma. -/
def writeItems (level : Nat) : List Datum → String
  | [] => ""
  | item :: rest =>
      "," ++ lineStart level ++ write level item ++ writeItems level rest

def writeFields (level : Nat) : List (String × Datum) → String
  | [] => ""
  | (name, value) :: rest =>
      "," ++ lineStart level ++ quote name ++ ": " ++ write level value ++
        writeFields level rest

end

def document (datum : Datum) : String :=
  write 0 datum ++ "\n"

end TerseMarkup.Json
