import TerseMarkup.Toml.Reader

/-!
# Texts in TOML

Texts stand in double quotes, where a backslash starts an escape, or in single
quotes, where every character counts for itself. Three marks instead of one
allow line breaks.
-/

namespace TerseMarkup.Toml

/-- Whether a character may stand in a text that ends with `mark`, for
itself. -/
def isTextChar (mark character : Char) : Bool :=
  isCommentChar character && character != mark

def escapedChar? : Char → Option Char
  | 'b' => some '\x08'
  | 'f' => some '\x0C'
  | 'n' => some '\n'
  | 'r' => some '\r'
  | 't' => some '\t'
  | '"' => some '"'
  | '\\' => some '\\'
  | _ => none

def codePoint (count : Nat) : Reader Char := do
  let text ← get
  let digits := text.take count
  match natOfDigits? 16 digits with
  | some code =>
      if h : digits.length = count ∧ code.isValidChar then
        set (text.drop count)
        pure (Char.ofNatAux code h.2)
      else failure
  | none => failure

def escape : Reader Char := do
  Reader.exactly ['\\']
  let letter ← Reader.one fun _ => true
  if letter = 'u' then codePoint 4
  else if letter = 'U' then codePoint 8
  else
    match escapedChar? letter with
    | some character => pure character
    | none => failure

def basicText : Reader (List Char) := do
  Reader.exactly ['"']
  let content ←
    Reader.many
      (Reader.one (fun character =>
        isTextChar '"' character && character != '\\') <|> escape)
  Reader.exactly ['"']
  pure content

def literalText : Reader (List Char) := do
  Reader.exactly ['\'']
  let content ← Reader.all (isTextChar '\'')
  Reader.exactly ['\'']
  pure content

/-- Reads one or two marks that do not end a text of several lines. -/
def innerMarks (mark : Char) : Reader (List Char) := do
  let marks ← Reader.all (· == mark)
  if marks.length = 1 ∨ marks.length = 2 then pure marks else failure

/-- Reads the three marks that end a text of several lines, with up to two
that belong to the text before them. -/
def closingMarks (mark : Char) : Reader (List Char) := do
  let text ← get
  let count := (text.takeWhile (· == mark)).length
  if count < 3 then failure
  else
    let kept := min (count - 3) 2
    set (text.drop (kept + 3))
    pure (List.replicate kept mark)

/-- Reads a text of several lines. A line break right at its start is left
out, and line ends become line feeds. -/
def severalLines (mark : Char) (piece : Reader (List Char)) :
    Reader (List Char) := do
  Reader.exactly [mark, mark, mark]
  discard (Reader.optional newline)
  let lineFeed : Reader (List Char) := do
    newline
    pure ['\n']
  let pieces ← Reader.many (piece <|> lineFeed <|> innerMarks mark)
  let last ← closingMarks mark
  pure (pieces.flatten ++ last)

/-- Reads a backslash at the end of a line with the blanks and line ends after
it, which all count for nothing. -/
def continuation : Reader (List Char) := do
  Reader.exactly ['\\']
  blanks
  newline
  discard (Reader.many (discard (Reader.one isBlank) <|> newline))
  pure []

def basicLines : Reader (List Char) :=
  let plain : Reader (List Char) := do
    let character ←
      Reader.one fun character =>
        isTextChar '"' character && character != '\\'
    pure [character]
  let escaped : Reader (List Char) := do
    let character ← escape
    pure [character]
  severalLines '"' (plain <|> continuation <|> escaped)

def literalLines : Reader (List Char) :=
  let plain : Reader (List Char) := do
    let character ← Reader.one (isTextChar '\'')
    pure [character]
  severalLines '\'' plain

def quotedText : Reader (List Char) := do
  let text ← get
  if ['"', '"', '"'].isPrefixOf text then basicLines
  else if ['\'', '\'', '\''].isPrefixOf text then literalLines
  else basicText <|> literalText

end TerseMarkup.Toml
