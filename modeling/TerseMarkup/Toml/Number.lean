import TerseMarkup.Toml.Reader

/-!
# Numbers in TOML

Underscores may stand between digits. A decimal number has no zeros in front,
and other bases have no sign.
-/

namespace TerseMarkup.Toml

/-- Reads digits with underscores between them. -/
def digits (isDigit : Char → Bool) : Reader (List Char) := do
  let first ← Reader.one isDigit
  let others ←
    Reader.many
      (Reader.one isDigit <|> (do Reader.exactly ['_']; Reader.one isDigit))
  pure (first :: others)

/-- Reads a sign and tells whether it is a minus. -/
def sign : Reader Bool := do
  let found ← Reader.optional (Reader.one fun character =>
    character == '+' || character == '-')
  pure (found == some '-')

/-- Reads the digits of a decimal number: a zero, or digits with none in
front. -/
def decimalDigits : Reader (List Char) := do
  match ← Reader.peek? with
  | some '0' => do
      Reader.exactly ['0']
      pure ['0']
  | _ => digits Char.isDigit

def largestInteger : Nat := 0x7FFFFFFFFFFFFFFF

/-- Reads a whole number in another base, after the zero and the letter that
announce it. -/
def basedInteger (letter : Char) (base : Nat) : Reader Int := do
  Reader.exactly ['0', letter]
  let read ← digits fun digit => (digitValue? base digit).isSome
  match natOfDigits? base read with
  | some value => if value ≤ largestInteger then pure value else failure
  | none => failure

def decimalInteger : Reader Int := do
  let negative ← sign
  let read ← decimalDigits
  match natOfDigits? 10 read with
  | some value =>
      if negative then
        if value ≤ largestInteger + 1 then pure (-value) else failure
      else if value ≤ largestInteger then pure value
      else failure
  | none => failure

def integer : Reader Int :=
  basedInteger 'x' 16 <|> basedInteger 'o' 8 <|> basedInteger 'b' 2 <|>
    decimalInteger

def exponent : Reader Int := do
  discard (Reader.one fun character => character == 'e' || character == 'E')
  let negative ← sign
  let read ← digits Char.isDigit
  match natOfDigits? 10 read with
  | some value => pure (if negative then -value else value)
  | none => failure

def fraction : Reader (List Char) := do
  Reader.exactly ['.']
  digits Char.isDigit

/-- Reads a number with a fraction or an exponent. A number that is too large
is refused, and one that is too far below zero is infinite. -/
def decimalDouble : Reader Double := do
  let negative ← sign
  let whole ← decimalDigits
  let after ← Reader.optional fraction
  let power ←
    match after with
    | some _ => Reader.optional exponent
    | none => some <$> exponent
  let fractionDigits := after.getD []
  match natOfDigits? 10 (whole ++ fractionDigits) with
  | some value =>
      let scale := power.getD 0 - fractionDigits.length
      let double := Double.ofDecimal negative ⟨value, scale⟩
      if double = .infinite false then failure else pure double
  | none => failure

def specialDouble : Reader Double := do
  let negative ← sign
  (do Reader.exactly ['i', 'n', 'f']; pure (.infinite negative)) <|>
    (do Reader.exactly ['n', 'a', 'n']; pure .undefined)

end TerseMarkup.Toml
