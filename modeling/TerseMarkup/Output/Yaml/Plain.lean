import TerseMarkup.Number.Double

/-!
# Plain texts that would be taken for something else

A YAML text without quotes may read as null, as a truth value or as a number.
A row of digits with a zero in front is no number and is counted here as
well, since readers differ on it.
-/

namespace TerseMarkup.Yaml

/-- The spellings of null and of the truth values. -/
def keywords : List String :=
  ["null", "Null", "NULL", "~", "true", "True", "TRUE", "false", "False",
    "FALSE"]

def specialNumbers : List String :=
  [".inf", ".Inf", ".INF", "+.inf", "+.Inf", "+.INF", "-.inf", "-.Inf",
    "-.INF", ".nan", ".NaN", ".NAN"]

/-- Whether a text is a number in base sixteen, eight or two that fits into
128 bits. -/
def isPrefixedNumber (text : List Char) : Bool :=
  let fits (limit base : Nat) (digits : List Char) : Bool :=
    match natOfDigits? base digits with
    | some value => value ≤ limit
    | none => false
  let based (limit : Nat) : List Char → Bool
    | '0' :: 'x' :: digits => fits limit 16 digits
    | '0' :: 'o' :: digits => fits limit 8 digits
    | '0' :: 'b' :: digits => fits limit 2 digits
    | _ => false
  match text with
  | '-' :: rest => based (Nat.pow 2 127) rest
  | _ => based (Nat.pow 2 128 - 1) (dropSign ['+'] text)

def hasLeadingZero (text : List Char) : Bool :=
  match dropSign ['-', '+'] text with
  | '0' :: digit :: rest => (digit :: rest).all Char.isDigit
  | _ => false

/-- Whether a text is a decimal number that a double can hold. -/
def isDecimalNumber (text : List Char) : Bool :=
  match Decimal.read? (dropSign ['-', '+'] text) with
  | some decimal => (Double.ofDecimal false decimal).isFinite
  | none => false

/-- Whether a text without quotes would be taken for something else than a
text. -/
def readsAsOther (text : String) : Bool :=
  text == "" || keywords.contains text || specialNumbers.contains text ||
    isPrefixedNumber text.toList || hasLeadingZero text.toList ||
    isDecimalNumber text.toList

end TerseMarkup.Yaml
