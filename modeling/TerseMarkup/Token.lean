import TerseMarkup.Text.Blank

/-!
# Tokens of an element

An element is written as names, bracketed attributes, braced content and four
signs, with nothing in between. The longest token is taken at each place, and
a text is refused as a whole where no token fits.
-/

namespace TerseMarkup

/-- A token of an element. Brackets and braces are not part of the texts. -/
inductive Token where
  | name (text : List Char)
  | attributes (text : List Char)
  | content (text : List Char)
  | hash
  | dot
  | star
  | opening
  deriving DecidableEq, Repr

namespace Token

def isNameChar (character : Char) : Bool :=
  character.isAlphanum || character == '_' || character == '-'

def written : Token → List Char
  | name text => text
  | attributes text => '[' :: (text ++ [']'])
  | content text => '{' :: (text ++ ['}'])
  | hash => ['#']
  | dot => ['.']
  | star => ['*']
  | opening => ['\\', '{']

/-- Splits a text at the first `closing` character: what stands before it and
what comes after it. -/
def upTo? (closing : Char) (text : List Char) :
    Option (List Char × List Char) :=
  match text.dropWhile (· ≠ closing) with
  | [] => none
  | _ :: rest => some (text.takeWhile (· ≠ closing), rest)

/-- The longest token at the start of a text, and the text after it. -/
def take? : List Char → Option (Token × List Char)
  | [] => none
  | '#' :: rest => some (hash, rest)
  | '.' :: rest => some (dot, rest)
  | '*' :: rest => some (star, rest)
  | '\\' :: '{' :: rest => some (opening, rest)
  | '[' :: text =>
      match upTo? ']' text with
      | some (inner, rest) =>
          if inner = [] then none else some (attributes inner, rest)
      | none => none
  | '{' :: text =>
      match upTo? '}' text with
      | some (inner, rest) => some (content inner, rest)
      | none => none
  | character :: text =>
      if isNameChar character then
        some
          (name (character :: text.takeWhile isNameChar),
            text.dropWhile isNameChar)
      else none

theorem length_upTo?
    {closing : Char} {text inner rest : List Char}
    (found : upTo? closing text = some (inner, rest)) :
    rest.length < text.length := by
  unfold upTo? at found
  split at found
  · contradiction
  · rename_i head tail dropped
    have bound :
        (text.dropWhile (fun character => decide (character ≠ closing))).length ≤
          text.length :=
      (List.dropWhile_sublist _).length_le
    rw [dropped] at bound
    simp only [Option.some.injEq, Prod.mk.injEq] at found
    rw [← found.2]
    simp only [List.length_cons] at bound
    omega

theorem length_take?
    {text rest : List Char} {token : Token}
    (taken : take? text = some (token, rest)) :
    rest.length < text.length := by
  unfold take? at taken
  split at taken
  · contradiction
  · simp_all
  · simp_all
  · simp_all
  · simp_all only [Option.some.injEq, Prod.mk.injEq, List.length_cons]
    omega
  · split at taken
    · rename_i inner _ found
      have bound := length_upTo? found
      split at taken
      · contradiction
      · simp_all only [Option.some.injEq, Prod.mk.injEq, List.length_cons]
        omega
    · contradiction
  · split at taken
    · rename_i inner _ found
      have bound := length_upTo? found
      simp_all only [Option.some.injEq, Prod.mk.injEq, List.length_cons]
      omega
    · contradiction
  · rename_i character text _ _ _ _ _ _
    split at taken
    · have bound : (text.dropWhile isNameChar).length ≤ text.length :=
        (List.dropWhile_sublist _).length_le
      simp_all only [Option.some.injEq, Prod.mk.injEq, List.length_cons]
      omega
    · contradiction

def readAll? (text : List Char) : Option (List Token) :=
  if text = [] then some []
  else
    match taken : take? text with
    | none => none
    | some (token, rest) =>
        have : rest.length < text.length := length_take? taken
        (readAll? rest).map (token :: ·)
termination_by text.length

def byteSize (text : List Char) : Nat :=
  text.foldr (fun character total => character.utf8Size + total) 0

/-- A token with the bytes it spans, from `start` up to `stop`. -/
structure Placed where
  token : Token
  start : Nat
  stop : Nat
  deriving DecidableEq, Repr

/-- Places tokens one after the other, the first one at `start`. -/
def placeFrom (start : Nat) : List Token → List Placed
  | [] => []
  | token :: rest =>
      let stop := start + byteSize token.written
      ⟨token, start, stop⟩ :: placeFrom stop rest

def tokenize? (text : List Char) : Option (List Placed) :=
  (readAll? text).map (placeFrom 0)

end Token

end TerseMarkup
