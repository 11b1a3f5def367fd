/-!
# Decimal numbers

Rows of digits in bases up to sixteen, and decimal numbers with a point and an
exponent.
-/

namespace TerseMarkup

def digitValue? (base : Nat) (digit : Char) : Option Nat :=
  let value :=
    if digit.isDigit then some (digit.toNat - '0'.toNat)
    else if 'a' ≤ digit ∧ digit ≤ 'f' then
      some (digit.toNat - 'a'.toNat + 10)
    else if 'A' ≤ digit ∧ digit ≤ 'F' then
      some (digit.toNat - 'A'.toNat + 10)
    else none
  value.filter (· < base)

/-- The value of a non-empty row of digits in a base. -/
def natOfDigits? (base : Nat) (digits : List Char) : Option Nat :=
  if digits.isEmpty then none
  else
    digits.foldl
      (fun value digit => do
        return base * (← value) + (← digitValue? base digit))
      (some 0)

/-- The text without a sign from `signs` in front. -/
def dropSign (signs text : List Char) : List Char :=
  match text with
  | first :: rest => if first ∈ signs then rest else text
  | [] => []

/-- `base` to the power of `exponent`, and one for an exponent below zero. The
two sides of an equation between fractions are multiplied by the powers of
opposite exponents. -/
def power (base : Nat) (exponent : Int) : Nat :=
  Nat.pow base exponent.toNat

/-- A decimal number without sign: `digits` times ten to the power of
`exponent`. -/
structure Decimal where
  digits : Nat
  exponent : Int
  deriving DecidableEq, Repr

namespace Decimal

def readExponent? : List Char → Option Int
  | [] => some 0
  | mark :: rest =>
      if mark = 'e' ∨ mark = 'E' then
        match rest with
        | '-' :: digits => (natOfDigits? 10 digits).map fun value => -value
        | _ => (natOfDigits? 10 (dropSign ['+'] rest)).map fun value => value
      else none

/-- Reads a decimal number without sign, with a point and an exponent or
without. At least one digit stands next to the point. -/
def read? (text : List Char) : Option Decimal := do
  let whole := text.takeWhile Char.isDigit
  let (fraction, rest) :=
    match text.dropWhile Char.isDigit with
    | '.' :: rest => (rest.takeWhile Char.isDigit, rest.dropWhile Char.isDigit)
    | rest => ([], rest)
  let digits ← natOfDigits? 10 (whole ++ fraction)
  let exponent ← readExponent? rest
  return ⟨digits, exponent - fraction.length⟩

/-- The number of places before the point. -/
def places (decimal : Decimal) : Int :=
  (Nat.toDigits 10 decimal.digits).length + decimal.exponent

end Decimal

end TerseMarkup
