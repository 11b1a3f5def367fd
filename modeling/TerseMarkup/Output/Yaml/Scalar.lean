import TerseMarkup.Output.Yaml.Plain

/-!
# Texts in YAML

A text is written plain, in single quotes, in double quotes or as a literal
block, in the simplest of these that keeps it. The choice depends on where
blanks and line breaks stand in it and on the characters that mean something
in YAML.
-/

namespace TerseMarkup.Yaml

/-! ## Characters -/

def isBreak (character : Char) : Bool :=
  character == '\n' || character == '\r' || character == '\u0085' ||
    character == '\u2028' || character == '\u2029'

/-- Whether a character separates what stands around it. -/
def isSeparator (character : Char) : Bool :=
  character == ' ' || character == '\t' || isBreak character ||
    character.toNat == 0

def isPrintable (character : Char) : Bool :=
  let code := character.toNat
  code == 0x0A || (0x20 ≤ code && code ≤ 0x7E) ||
    (0xA0 ≤ code && code ≤ 0xFFFD && code != 0xFEFF) || 0x10000 ≤ code

/-- Characters that mean something at the start of a text. -/
def leadIndicators : List Char :=
  ['#', ',', '[', ']', '{', '}', '&', '*', '!', '|', '>', '\'', '"', '%', '@',
    '\x60']

/-! ## What a text contains -/

/-- Whether two neighbours in a text have the given properties. -/
def hasNeighbours (first second : Char → Bool) (text : List Char) : Bool :=
  (text.zip text.tail).any fun (left, right) => first left && second right

/-- Whether a character of the text has the given property and ends the text
or is followed by a separator. -/
def hasBeforeSeparator (property : Char → Bool) (text : List Char) : Bool :=
  hasNeighbours property isSeparator text || text.getLast?.any property

/-- Whether the text starts like a key or an item. -/
def startsEntry (text : List Char) : Bool :=
  match text with
  | first :: rest =>
      (first == '?' || first == '-') && rest.head?.all isSeparator
  | [] => false

def hasIndicator (text : List Char) : Bool :=
  ['-', '-', '-'].isPrefixOf text || ['.', '.', '.'].isPrefixOf text ||
    text.head?.any leadIndicators.contains || startsEntry text ||
    hasBeforeSeparator (· == ':') text ||
    hasNeighbours isSeparator (· == '#') text

/-- Whether the text holds a character that can only be written as an escape,
or has a line that ends in a blank. -/
def needsEscapes (text : List Char) : Bool :=
  text.any (!isPrintable ·) || hasNeighbours (· == ' ') isBreak text

/-- Whether a line of the text, not the first one, starts with a blank. -/
def hasIndentedLine (text : List Char) : Bool :=
  hasNeighbours isBreak (· == ' ') text

def hasOuterBlank (text : List Char) : Bool :=
  let isOuter (character : Char) : Bool :=
    character == ' ' || isBreak character
  text.head?.any isOuter || text.getLast?.any isOuter

/-! ## Styles -/

inductive Style where
  | plain
  | singleQuoted
  | doubleQuoted
  | literal
  deriving DecidableEq, Repr

def allowsPlain (text : List Char) : Bool :=
  !(hasOuterBlank text || needsEscapes text || text.any isBreak ||
    hasIndicator text)

def allowsSingleQuoted (text : List Char) : Bool :=
  !(needsEscapes text || hasIndentedLine text)

def allowsLiteral (text : List Char) : Bool :=
  !(needsEscapes text || text.getLast? == some ' ')

def styleOf (text : String) : Style :=
  let characters := text.toList
  if characters.contains '\n' then
    if allowsLiteral characters then .literal else .doubleQuoted
  else if !readsAsOther text && allowsPlain characters then .plain
  else if allowsSingleQuoted characters then .singleQuoted
  else .doubleQuoted

/-! ## Writing -/

def blanks (count : Nat) : List Char :=
  List.replicate count ' '

/-- The digit of a number below sixteen, in capital letters. -/
def hexDigit (value : Nat) : Char :=
  if value < 10 then Char.ofNat ('0'.toNat + value)
  else Char.ofNat ('A'.toNat + (value - 10))

/-- The last `width` digits of a number in base sixteen. -/
def hexDigits (width value : Nat) : List Char :=
  (List.range width).reverse.map fun place =>
    hexDigit (value / Nat.pow 16 place % 16)

def escapeChar (character : Char) : List Char :=
  let code := character.toNat
  if isPrintable character && !isBreak character && character != '"' &&
      character != '\\' then
    [character]
  else
    '\\' ::
      (if code = 0x00 then ['0']
      else if code = 0x07 then ['a']
      else if code = 0x08 then ['b']
      else if code = 0x09 then ['t']
      else if code = 0x0A then ['n']
      else if code = 0x0B then ['v']
      else if code = 0x0C then ['f']
      else if code = 0x0D then ['r']
      else if code = 0x1B then ['e']
      else if code = 0x22 then ['"']
      else if code = 0x5C then ['\\']
      else if code = 0x85 then ['N']
      else if code = 0x2028 then ['L']
      else if code = 0x2029 then ['P']
      else if code ≤ 0xFF then 'x' :: hexDigits 2 code
      else if code ≤ 0xFFFF then 'u' :: hexDigits 4 code
      else 'U' :: hexDigits 8 code)

/-- The lines of a text, each one after the first starting with `indent`
blanks unless it is empty. `atStart` tells whether the text so far ends with
a line break. -/
def indentLines (indent : Nat) (atStart : Bool) : List Char → List Char
  | [] => []
  | character :: rest =>
      if isBreak character then
        character :: indentLines indent true rest
      else
        (if atStart then blanks indent else []) ++
          character :: indentLines indent false rest

/-- A text in single quotes, the marks in it doubled. -/
def singleQuoted (indent : Nat) (text : List Char) : List Char :=
  let doubled := text.flatMap fun character =>
    if character = '\'' then ['\'', '\''] else [character]
  let closing := if text.getLast?.any isBreak then blanks indent else []
  '\'' :: (indentLines indent false doubled ++ closing ++ ['\''])

def doubleQuoted (text : List Char) : List Char :=
  '"' :: (text.flatMap escapeChar ++ ['"'])

/-- What is said of a literal block before its lines: that it starts with a
blank or an empty line, and how it ends. -/
def literalHeader (text : List Char) : List Char :=
  let start :=
    if text.head?.any fun first => first == ' ' || isBreak first then ['2']
    else []
  let ending :=
    match text.reverse with
    | [] => ['-']
    | [last] => if isBreak last then ['+'] else ['-']
    | last :: previous :: _ =>
        if isBreak last then if isBreak previous then ['+'] else []
        else ['-']
  '|' :: (start ++ ending)

def literal (indent : Nat) (text : List Char) : List Char :=
  literalHeader text ++ '\n' :: indentLines indent true text

/-- A text as it is written, its further lines indented. -/
def scalar (indent : Nat) (text : String) : List Char :=
  match styleOf text with
  | .plain => text.toList
  | .singleQuoted => singleQuoted indent text.toList
  | .doubleQuoted => doubleQuoted text.toList
  | .literal => literal indent text.toList

end TerseMarkup.Yaml
