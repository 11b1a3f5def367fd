import TerseMarkup.Settings.Setting

/-!
# Reading TOML from left to right

A reader takes something from the front of a text and leaves the rest of it.
Here are the readers for single characters and for what stands between the
parts of a document: blanks, line ends and comments.
-/

namespace TerseMarkup.Toml

/-- Reads something from the front of a text, or fails. -/
abbrev Reader (α : Type) := StateT (List Char) Option α

namespace Reader

def one (property : Char → Bool) : Reader Char := do
  match ← get with
  | character :: rest =>
      if property character then
        set rest
        pure character
      else failure
  | [] => failure

/-- Reads the characters at the front that have a property. -/
def all (property : Char → Bool) : Reader (List Char) := do
  let text ← get
  set (text.dropWhile property)
  pure (text.takeWhile property)

def exactly (wanted : List Char) : Reader Unit := do
  let text ← get
  if wanted.isPrefixOf text then set (text.drop wanted.length) else failure

def optional {α : Type} (item : Reader α) : Reader (Option α) :=
  (some <$> item) <|> pure none

/-- Reads items as long as there are any, at most `bound` of them. -/
def atMost {α : Type} (item : Reader α) : Nat → Reader (List α)
  | 0 => pure []
  | bound + 1 =>
      (do
        let first ← item
        let others ← atMost item bound
        pure (first :: others)) <|> pure []

/-- Reads items, none of them empty, as long as there are any. -/
def many {α : Type} (item : Reader α) : Reader (List α) := do
  atMost item (← get).length

/-- The next character, which is not read. -/
def peek? : Reader (Option Char) := do
  return (← get).head?

def atEnd : Reader Unit := do
  if (← get).isEmpty then pure () else failure

end Reader

/-! ## Between the parts -/

def isBlank (character : Char) : Bool :=
  character == ' ' || character == '\t'

def isCommentChar (character : Char) : Bool :=
  character == '\t' || (0x20 ≤ character.toNat && character.toNat != 0x7F)

def blanks : Reader Unit := do
  discard (Reader.all isBlank)

def newline : Reader Unit :=
  Reader.exactly ['\n'] <|> Reader.exactly ['\r', '\n']

def comment : Reader Unit := do
  Reader.exactly ['#']
  discard (Reader.all isCommentChar)

/-- Reads the end of a line or of the text. -/
def lineEnd : Reader Unit :=
  newline <|> Reader.atEnd

def trailing : Reader Unit := do
  blanks
  discard (Reader.optional comment)
  lineEnd

/-- Reads blanks, line ends and comments with their line ends. -/
def filler : Reader Unit := do
  let piece : Reader Unit :=
    discard (Reader.one isBlank) <|> newline <|> (do comment; newline)
  discard (Reader.many piece)

end TerseMarkup.Toml
