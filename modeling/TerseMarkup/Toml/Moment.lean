import TerseMarkup.Toml.Reader

/-!
# Dates and times in TOML

A date, a time of day, or both with a distance to universal time or without.
They are kept as text in one spelling.
-/

namespace TerseMarkup.Toml

/-- Reads a number of exactly `count` digits within bounds. -/
def fixedNumber (count least greatest : Nat) : Reader Nat := do
  let text ← get
  let digits := text.take count
  if digits.length = count ∧ digits.all Char.isDigit then
    match natOfDigits? 10 digits with
    | some value =>
        if least ≤ value ∧ value ≤ greatest then
          set (text.drop count)
          pure value
        else failure
    | none => failure
  else failure

def padded (width value : Nat) : List Char :=
  let digits := Nat.toDigits 10 value
  List.replicate (width - digits.length) '0' ++ digits

def isLeapYear (year : Nat) : Bool :=
  year % 4 == 0 && (year % 100 != 0 || year % 400 == 0)

def daysOfMonth (year month : Nat) : Nat :=
  if month = 2 then if isLeapYear year then 29 else 28
  else if month ∈ [4, 6, 9, 11] then 30
  else 31

def date : Reader (List Char) := do
  let year ← fixedNumber 4 0 9999
  Reader.exactly ['-']
  let month ← fixedNumber 2 1 12
  Reader.exactly ['-']
  let day ← fixedNumber 2 1 (daysOfMonth year month)
  pure (padded 4 year ++ '-' :: padded 2 month ++ '-' :: padded 2 day)

/-- Reads a fraction of a second. Nine digits count, and zeros at the end do
not. -/
def secondFraction : Reader (List Char) := do
  Reader.exactly ['.']
  let first ← Reader.one Char.isDigit
  let others ← Reader.all Char.isDigit
  let kept := (first :: others).take 9
  match (kept.reverse.dropWhile (· == '0')).reverse with
  | [] => pure []
  | digits => pure ('.' :: digits)

def time : Reader (List Char) := do
  let hour ← fixedNumber 2 0 23
  Reader.exactly [':']
  let minute ← fixedNumber 2 0 59
  Reader.exactly [':']
  let second ← fixedNumber 2 0 60
  let fraction ← Reader.optional secondFraction
  pure (padded 2 hour ++ ':' :: padded 2 minute ++ ':' :: padded 2 second ++
    fraction.getD [])

/-- Reads the distance to universal time. No distance at all counts as one
ahead. -/
def offset : Reader (List Char) := do
  let mark ← Reader.one fun character =>
    character ∈ ['Z', 'z', '+', '-']
  if mark = 'Z' ∨ mark = 'z' then pure ['Z']
  else
    let hour ← fixedNumber 2 0 23
    Reader.exactly [':']
    let minute ← fixedNumber 2 0 59
    let shown := if hour = 0 ∧ minute = 0 then '+' else mark
    pure (shown :: padded 2 hour ++ ':' :: padded 2 minute)

def timeAfterDate : Reader (List Char) := do
  discard (Reader.one fun character => character ∈ ['T', 't', ' '])
  let clock ← time
  let distance ← Reader.optional offset
  pure ('T' :: clock ++ distance.getD [])

def moment : Reader (List Char) :=
  (do
    let day ← date
    let clock ← Reader.optional timeAfterDate
    pure (day ++ clock.getD [])) <|> time

/-- The moment that a whole text is. -/
def momentOfText? (text : String) : Option String :=
  let whole : Reader (List Char) := do
    let read ← moment
    Reader.atEnd
    pure read
  (whole.run text.toList).map fun (read, _) => String.ofList read

end TerseMarkup.Toml
