import TerseMarkup.Number.Double
import TerseMarkup.Text.LowerCase

/-!
# Settings

A setting is a tree of tables and lists with simple values at the leaves. The
parts of a tree are put together without regard to capital letters in their
names.
-/

namespace TerseMarkup

/-- A setting or a table of settings, each name once. `unset` is a place in a
list that was never given a value. -/
inductive Setting where
  | unset
  | boolean (value : Bool)
  | integer (value : Int)
  | double (value : Double)
  | text (value : String)
  | list (items : List Setting)
  | table (entries : List (String × Setting))
  deriving Repr

namespace Setting

/-- The entries of a table; anything else has none. -/
def entries : Setting → List (String × Setting)
  | table entries => entries
  | _ => []

def items : Setting → List Setting
  | list items => items
  | _ => []

def get? (setting : Setting) (name : String) : Option Setting :=
  setting.entries.lookup name

def foldName (name : String) : String :=
  String.ofList (Text.lowerCase name.toList)

/-- Changes the entry with a name, or adds one. -/
def updateEntry
    (name : String) (change : Option Setting → Setting) :
    List (String × Setting) → List (String × Setting)
  | [] => [(name, change none)]
  | (other, value) :: rest =>
      if other = name then (name, change (some value)) :: rest
      else (other, value) :: updateEntry name change rest

/-- Changes the entry with a name in a table. Anything else than a table is
replaced by one. -/
def update
    (name : String) (change : Option Setting → Setting)
    (setting : Setting) : Setting :=
  table (updateEntry (foldName name) change setting.entries)

mutual

/-- Puts a value into a table under a name. A table is put into a table entry
by entry; any other value replaces what was there. -/
def put (name : String) : Setting → Setting → Setting
  | table incoming, setting =>
      setting.update name fun present =>
        putAll incoming (present.getD (table []))
  | value, setting => setting.update name fun _ => value

def putAll : List (String × Setting) → Setting → Setting
  | [], setting => setting
  | (name, value) :: rest, setting => putAll rest (put name value setting)

end

/-! ## Simple values -/

def largestNumber : Nat := 0xFFFFFFFFFFFFFFFF

/-- A text as a number of 64 bits, with a plus sign in front or without. -/
def natOfText? (text : List Char) : Option Nat :=
  (natOfDigits? 10 (dropSign ['+'] text)).filter (· ≤ largestNumber)

/-- A text as a number; words for truth values count as one and zero. -/
def numberOfText? (text : List Char) : Option Nat :=
  let word := String.ofList (Text.lowerCase text)
  if word ∈ ["true", "on", "yes"] then some 1
  else if word ∈ ["false", "off", "no"] then some 0
  else natOfText? text

/-- A setting as a number without sign. A fraction is rounded, and a fraction
beyond 64 bits counts as the largest number. -/
def number? : Setting → Option Nat
  | boolean value => some (if value then 1 else 0)
  | integer value => if value < 0 then none else some value.toNat
  | double value => some (value.round largestNumber)
  | text value => numberOfText? value.toList
  | _ => none

def text? : Setting → Option String
  | boolean value => some (if value then "true" else "false")
  | integer value => some (toString value)
  | double value => some (String.ofList value.text)
  | text value => some value
  | _ => none

end Setting

end TerseMarkup
