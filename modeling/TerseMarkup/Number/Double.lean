import TerseMarkup.Number.Decimal

/-!
# Double precision numbers

The nearest double of a decimal number, and the shortest decimal text that
reads back as a double. Everything is computed in whole numbers.
-/

namespace TerseMarkup

/-- A double precision number. A finite one is `significand` times two to the
power of `exponent`. -/
inductive Double where
  | finite (negative : Bool) (significand : Nat) (exponent : Int)
  | infinite (negative : Bool)
  | undefined
  deriving DecidableEq, Repr

namespace Double

/-- The whole number nearest to a fraction; the even one of two. -/
def nearest (numerator denominator : Nat) : Nat :=
  let quotient := numerator / denominator
  let twice := 2 * (numerator % denominator)
  if denominator < twice ∨ (denominator = twice ∧ quotient % 2 = 1) then
    quotient + 1
  else quotient

/-- The least significand that fills its 53 bits. -/
def leastFull : Nat := 0x10000000000000

/-- The least significand that is too long. -/
def leastCarry : Nat := 0x20000000000000

def leastExponent : Int := -1074

def greatestExponent : Int := 971

/-- The double nearest to a positive fraction. -/
def ofFraction (negative : Bool) (numerator denominator : Nat) : Double :=
  let scaled (exponent : Int) : Nat × Nat :=
    (numerator * power 2 (-exponent), denominator * power 2 exponent)
  let guess : Int := (numerator.log2 : Int) - denominator.log2 - 53
  let (above, below) := scaled guess
  let exponent := max leastExponent
    (if leastCarry * below ≤ above then guess + 1 else guess)
  let (above, below) := scaled exponent
  let significand := nearest above below
  let (significand, exponent) :=
    if significand = leastCarry then (leastFull, exponent + 1)
    else (significand, exponent)
  if greatestExponent < exponent then infinite negative
  else finite negative significand exponent

def ofDecimal (negative : Bool) (decimal : Decimal) : Double :=
  if decimal.digits = 0 ∨ decimal.places < -400 then
    finite negative 0 leastExponent
  else if 400 < decimal.places then infinite negative
  else
    ofFraction negative (decimal.digits * power 10 decimal.exponent)
      (power 10 (-decimal.exponent))

def isFinite : Double → Bool
  | finite _ _ _ => true
  | _ => false

/-! ## Shortest text -/

/-- Compares `candidate` times ten to the power of `place` with a quarter of
`quarters` times two to the power of `exponent`. -/
def compareDecimal
    (candidate : Nat) (place : Int) (quarters : Nat) (exponent : Int) :
    Ordering :=
  compare
    (4 * candidate * power 10 place * power 2 (-exponent))
    (quarters * power 10 (-place) * power 2 exponent)

/-- Whether a decimal number reads back as the double with the given
significand and exponent. The bounds lie in the middle between neighbours and
belong to the even one. -/
def readsBack
    (significand : Nat) (exponent : Int) (candidate : Nat) (place : Int) :
    Bool :=
  -- Below the least full significand, neighbours are half as far apart.
  let below :=
    if significand = leastFull ∧ leastExponent < exponent then
      4 * significand - 1
    else 4 * significand - 2
  let above := 4 * significand + 2
  let even := significand % 2 = 0
  let low := compareDecimal candidate place below exponent
  let high := compareDecimal candidate place above exponent
  (low == .gt || (even && low == .eq)) && (high == .lt || (even && high == .eq))

def places (significand : Nat) (exponent : Int) : Int :=
  let whole := significand * power 2 exponent / power 2 (-exponent)
  if whole ≠ 0 then (Nat.toDigits 10 whole).length
  else
    let isPast (zeros : Nat) : Bool :=
      compareDecimal 1 (-(zeros : Int) - 1) (4 * significand) exponent != .gt
    let zeros : Int := ((List.range 400).find? isPast).getD 400
    0 - zeros

/-- The shortest decimal number with at most `count` digits that reads back as
the given double; of two with as many digits the nearer one, and the greater
one if they are equally near. -/
def shortestWithin
    (significand : Nat) (exponent : Int) (before : Int) (count : Nat) :
    Option Decimal :=
  let place := before - count
  let lower :=
    significand * power 2 exponent * power 10 (-place) /
      (power 2 (-exponent) * power 10 place)
  let fits := readsBack significand exponent
  match fits lower place, fits (lower + 1) place with
  | true, true =>
      let middle :=
        compareDecimal (2 * lower + 1) place (8 * significand) exponent
      some ⟨if middle = .gt then lower else lower + 1, place⟩
  | true, false => some ⟨lower, place⟩
  | false, true => some ⟨lower + 1, place⟩
  | false, false => none

def shortest (significand : Nat) (exponent : Int) : Decimal :=
  let before := places significand exponent
  let counts := (List.range 17).map (· + 1)
  (counts.findSome? (shortestWithin significand exponent before)).getD ⟨0, 0⟩

def positional (decimal : Decimal) : List Char :=
  let digits := Nat.toDigits 10 decimal.digits
  let kept := (digits.reverse.dropWhile (· == '0')).reverse
  let before := decimal.places
  if kept = [] then ['0']
  else if before ≤ 0 then
    '0' :: '.' :: (List.replicate (-before).toNat '0' ++ kept)
  else if kept.length ≤ before.toNat then
    kept ++ List.replicate (before.toNat - kept.length) '0'
  else kept.take before.toNat ++ '.' :: kept.drop before.toNat

/-- A double as text: the fewest digits that read back, without an
exponent. -/
def text : Double → List Char
  | finite negative significand exponent =>
      let sign := if negative then ['-'] else []
      if significand = 0 then sign ++ ['0']
      else sign ++ positional (shortest significand exponent)
  | infinite negative => (if negative then ['-'] else []) ++ ['i', 'n', 'f']
  | undefined => ['N', 'a', 'N']

/-- The whole number nearest to a double, halves going up. Numbers below zero
and undefined ones count as zero, and `largest` is kept for what is beyond
it. -/
def round (largest : Nat) : Double → Nat
  | finite negative significand exponent =>
      let value :=
        (2 * significand * power 2 exponent + power 2 (-exponent)) /
          (2 * power 2 (-exponent))
      if negative then 0 else min value largest
  | infinite negative => if negative then 0 else largest
  | undefined => 0

end Double

end TerseMarkup
