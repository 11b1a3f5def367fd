import TerseMarkup.Text.LowerCase
import TerseMarkup.Token

/-!
# Elements

An element is written as its tag, its attributes in brackets, ids and classes
in any order, its content in braces and a repeat count, all but the tag
optional. A line that opens a block is written as such a head followed by
`\{`.
-/

namespace TerseMarkup

/-- An element as the source describes it. The tag is in small letters;
attributes and content are as written between brackets and braces. -/
structure Element where
  tag : String
  attributes : String := ""
  id : Option String := none
  classes : List String := []
  content : String := ""
  count : Nat := 1
  deriving DecidableEq, Repr

namespace Element

/-- The element with a tag in small letters, without empty classes and with a
repeat count of at least one. -/
def normalize (element : Element) : Element :=
  { element with
    tag := String.ofList (Text.lowerCase element.tag.toList)
    classes := element.classes.filter (· ≠ "")
    count := max element.count 1 }

/-- The tag whose content is shown as text. -/
def rawTag : String := "raw"

/-- The tags whose blocks are copied as they are. -/
def verbatimTags : List String := ["script", "style", "html"]

def isRaw (element : Element) : Bool :=
  element.tag == rawTag

def isVerbatim (element : Element) : Bool :=
  verbatimTags.contains element.tag

/-! ## Reading -/

/-- The names after `#` and after `.` in a head, each in order. -/
structure Qualifiers where
  ids : List (List Char) := []
  classes : List (List Char) := []
  deriving DecidableEq, Repr

def takeQualifiers : List Token → Qualifiers × List Token
  | .hash :: .name text :: rest =>
      let (others, remaining) := takeQualifiers rest
      ({ others with ids := text :: others.ids }, remaining)
  | .dot :: .name text :: rest =>
      let (others, remaining) := takeQualifiers rest
      ({ others with classes := text :: others.classes }, remaining)
  | tokens => ({}, tokens)

def takeAttributes : List Token → List Char × List Token
  | .attributes text :: rest => (text, rest)
  | tokens => ([], tokens)

def takeContent : List Token → List Char × List Token
  | .content text :: rest => (text, rest)
  | tokens => ([], tokens)

def valueOfDigits (digits : List Char) : Nat :=
  digits.foldl (fun value digit => 10 * value + (digit.toNat - '0'.toNat)) 0

def largestCount : Nat := 0xFFFFFFFF

/-- A repeat count: digits with a value from one to `largestCount`. -/
def countOfName? (text : List Char) : Option Nat :=
  if text.all Char.isDigit then
    let value := valueOfDigits text
    if 0 < value ∧ value ≤ largestCount then some value else none
  else none

/-- Reads the tokens after the content: nothing, or a repeat count and nothing
more. -/
def readCount? : List Token → Option Nat
  | [] => some 1
  | [.star, .name text] => countOfName? text
  | _ => none

/-- Reads a tag, attributes, ids and classes. More than one id is refused. -/
def readHead? : List Token → Option (Element × List Token)
  | .name tag :: tokens =>
      let (attributes, tokens) := takeAttributes tokens
      let (qualifiers, tokens) := takeQualifiers tokens
      if qualifiers.ids.length ≤ 1 then
        some
          ({ tag := String.ofList (Text.lowerCase tag)
             attributes := String.ofList attributes
             id := qualifiers.ids.head?.map String.ofList
             classes := qualifiers.classes.map String.ofList },
            tokens)
      else none
  | _ => none

def ofTokens? (tokens : List Token) : Option Element :=
  match readHead? tokens with
  | none => none
  | some (head, tokens) =>
      let (content, tokens) := takeContent tokens
      match readCount? tokens with
      | none => none
      | some count =>
          some { head with content := String.ofList content, count := count }

def openerOfTokens? (tokens : List Token) : Option Element :=
  match readHead? tokens with
  | some (head, [.opening]) => some head
  | _ => none

def read? (text : List Char) : Option Element :=
  match Token.readAll? text with
  | some tokens => ofTokens? tokens
  | none => none

/-- The head of the block that a line opens. -/
def readOpener? (line : List Char) : Option Element :=
  match Token.readAll? line with
  | some tokens => openerOfTokens? tokens
  | none => none

end Element

end TerseMarkup
