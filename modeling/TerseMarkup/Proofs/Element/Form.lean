import Mathlib.Data.Nat.Digits.Defs
import TerseMarkup.Element
import TerseMarkup.Proofs.Element.Tokens

/-!
# Written forms of elements

An element is written as a name, attributes in brackets, ids and classes in
any order with at most one id, content in braces and a repeat count after a
star; all but the name may be missing. A form holds these parts. Its text is
read as the element that the form stands for.
-/

namespace TerseMarkup

/-! ## Names and numbers -/

/-- A text that can stand as a name. -/
def IsNameText (text : List Char) : Prop :=
  text ≠ [] ∧ ∀ character ∈ text, Token.isNameChar character = true

/-- The value of decimal digits, the last one counting ones. -/
def decimalValue (digits : List Char) : Nat :=
  Nat.ofDigits 10 (digits.reverse.map fun digit => digit.toNat - '0'.toNat)

theorem Element.valueOfDigits_eq_decimalValue (digits : List Char) :
    Element.valueOfDigits digits = decimalValue digits := by
  induction digits using List.reverseRecOn with
  | nil => rfl
  | append_singleton initial digit inductionHypothesis =>
      have lastDigit :
          Element.valueOfDigits (initial ++ [digit]) =
            10 * Element.valueOfDigits initial +
              (digit.toNat - '0'.toNat) := by
        simp only [Element.valueOfDigits, List.foldl_append, List.foldl_cons,
          List.foldl_nil]
      rw [lastDigit, inductionHypothesis]
      simp only [decimalValue, List.reverse_append, List.reverse_cons,
        List.reverse_nil, List.nil_append, List.singleton_append,
        List.map_cons, Nat.ofDigits_cons]
      exact Nat.add_comm _ _

theorem Text.lowerCase_of_isNameText {text : List Char}
    (nameChars : ∀ character ∈ text, Token.isNameChar character = true) :
    Text.lowerCase text = text.map Char.toLower := by
  have mapped : ∀ before : List Char,
      Text.LowerCase.mapFrom before text = text.map Char.toLower := by
    induction text with
    | nil =>
        intro before
        rfl
    | cons character rest inductionHypothesis =>
        intro before
        have small : character.toNat < 0x80 := by
          have bound :=
            Token.toNat_of_isNameChar (nameChars character List.mem_cons_self)
          omega
        have notDotted : character ≠ 'İ' := by
          rintro rfl
          exact absurd small (by decide)
        have notSigma : character ≠ 'Σ' := by
          rintro rfl
          exact absurd small (by decide)
        have later := inductionHypothesis
          (fun other member =>
            nameChars other (List.mem_cons_of_mem character member))
          (character :: before)
        rw [Text.LowerCase.mapFrom, later]
        simp [notDotted, notSigma, Text.LowerCase.charOf, small]
  exact mapped []

/-! ## Written forms -/

inductive Qualifier where
  | id (name : List Char)
  | style (name : List Char)
  deriving DecidableEq, Repr

namespace Qualifier

def name : Qualifier → List Char
  | id name => name
  | style name => name

def id? : Qualifier → Option (List Char)
  | id name => some name
  | style _ => none

def style? : Qualifier → Option (List Char)
  | id _ => none
  | style name => some name

def text : Qualifier → List Char
  | id name => '#' :: name
  | style name => '.' :: name

def tokens : Qualifier → List Token
  | id name => [.hash, .name name]
  | style name => [.dot, .name name]

theorem name_mem_tokens {qualifiers : List Qualifier} {qualifier : Qualifier}
    (member : qualifier ∈ qualifiers) :
    Token.name qualifier.name ∈ qualifiers.flatMap tokens := by
  rw [List.mem_flatMap]
  refine ⟨qualifier, member, ?_⟩
  cases qualifier with
  | id name => simp [tokens, Qualifier.name]
  | style name => simp [tokens, Qualifier.name]

end Qualifier

/-- The parts of an element as they are written. -/
structure Form where
  tag : List Char
  attributes : Option (List Char) := none
  qualifiers : List Qualifier := []
  content : Option (List Char) := none
  digits : Option (List Char) := none
  tag_isName : IsNameText tag
  attributes_closed : ∀ inner ∈ attributes, inner ≠ [] ∧ ']' ∉ inner
  qualifiers_isName : ∀ qualifier ∈ qualifiers, IsNameText qualifier.name
  one_id : (qualifiers.filterMap Qualifier.id?).length ≤ 1
  content_closed : ∀ inner ∈ content, '}' ∉ inner
  digits_count : ∀ count ∈ digits,
    count ≠ [] ∧ (∀ digit ∈ count, digit.isDigit = true) ∧
      1 ≤ decimalValue count ∧ decimalValue count ≤ 4294967295

namespace Form

def text (form : Form) : List Char :=
  form.tag ++
    (form.attributes.elim [] (fun inner => '[' :: (inner ++ [']'])) ++
      (form.qualifiers.flatMap Qualifier.text ++
        (form.content.elim [] (fun inner => '{' :: (inner ++ ['}'])) ++
          form.digits.elim [] (fun count => '*' :: count))))

def element (form : Form) : Element where
  tag := String.ofList (form.tag.map Char.toLower)
  attributes := String.ofList (form.attributes.getD [])
  id := (form.qualifiers.findSome? Qualifier.id?).map String.ofList
  classes := (form.qualifiers.filterMap Qualifier.style?).map String.ofList
  content := String.ofList (form.content.getD [])
  count := form.digits.elim 1 decimalValue

/-! ## The tokens of a form -/

def countTokens (form : Form) : List Token :=
  form.digits.elim [] fun count => [.star, .name count]

/-- The content and what follows it as tokens. -/
def contentTokens (form : Form) : List Token :=
  (form.content.map Token.content).toList ++ form.countTokens

def qualifierTokens (form : Form) : List Token :=
  form.qualifiers.flatMap Qualifier.tokens ++ form.contentTokens

def tokens (form : Form) : List Token :=
  .name form.tag ::
    ((form.attributes.map Token.attributes).toList ++ form.qualifierTokens)

theorem flatMap_written_tokens (form : Form) :
    form.tokens.flatMap Token.written = form.text := by
  have qualifierText : ∀ qualifiers : List Qualifier,
      (qualifiers.flatMap Qualifier.tokens).flatMap Token.written =
        qualifiers.flatMap Qualifier.text := by
    intro qualifiers
    induction qualifiers with
    | nil => rfl
    | cons qualifier rest inductionHypothesis =>
        rw [List.flatMap_cons, List.flatMap_append, inductionHypothesis,
          List.flatMap_cons]
        cases qualifier with
        | id name => simp [Qualifier.tokens, Qualifier.text, Token.written]
        | style name => simp [Qualifier.tokens, Qualifier.text, Token.written]
  simp only [tokens, qualifierTokens, contentTokens, countTokens, text,
    List.flatMap_cons, List.flatMap_append, qualifierText]
  cases form.attributes <;> cases form.content <;> cases form.digits <;>
    simp [Token.written]

/-! ## The order of the parts -/

/-- The place of a token among the parts of an element. -/
def place : Token → Nat
  | .name _ => 0
  | .attributes _ => 1
  | .hash => 2
  | .dot => 2
  | .content _ => 3
  | .star => 4
  | .opening => 5

/-- The tokens do not start with one whose place is before the given one. -/
def StartsFrom (lowest : Nat) (tokens : List Token) : Prop :=
  ∀ token ∈ tokens.head?, lowest ≤ place token

theorem StartsFrom.mono {lowest lower : Nat} {tokens : List Token}
    (starts : StartsFrom lowest tokens) (less : lower ≤ lowest) :
    StartsFrom lower tokens := by
  intro token member
  exact Nat.le_trans less (starts token member)

theorem startsFrom_nil (lowest : Nat) : StartsFrom lowest [] := by
  intro token member
  contradiction

theorem startsFrom_cons {lowest : Nat} {token : Token} {rest : List Token}
    (bound : lowest ≤ place token) : StartsFrom lowest (token :: rest) := by
  intro first member
  rw [← Option.some.inj member]
  exact bound

theorem startsFrom_optional {lowest : Nat} {wrap : List Char → Token}
    {part : Option (List Char)} {rest : List Token}
    (bound : ∀ text, lowest ≤ place (wrap text))
    (starts : StartsFrom lowest rest) :
    StartsFrom lowest ((part.map wrap).toList ++ rest) := by
  cases part with
  | none => exact starts
  | some text => exact startsFrom_cons (bound text)

theorem startsFrom_countTokens (form : Form) :
    StartsFrom 4 form.countTokens := by
  unfold countTokens
  cases form.digits with
  | none => exact startsFrom_nil 4
  | some count => exact startsFrom_cons (Nat.le_refl 4)

theorem startsFrom_contentTokens (form : Form) :
    StartsFrom 3 form.contentTokens :=
  startsFrom_optional (fun _ => Nat.le_refl 3)
    (form.startsFrom_countTokens.mono (by decide))

theorem startsFrom_qualifierTokens (form : Form) :
    StartsFrom 2 form.qualifierTokens := by
  unfold qualifierTokens
  cases form.qualifiers with
  | nil => exact form.startsFrom_contentTokens.mono (by decide)
  | cons qualifier rest =>
      cases qualifier with
      | id name => exact startsFrom_cons (Nat.le_refl 2)
      | style name => exact startsFrom_cons (Nat.le_refl 2)

/-! ## A form is read as its tokens -/

theorem isChain_name_cons {text : List Char} {rest : List Token}
    (starts : StartsFrom 1 rest) (chain : rest.IsChain Token.Apart) :
    (Token.name text :: rest).IsChain Token.Apart := by
  rw [List.isChain_cons]
  refine ⟨?_, chain⟩
  intro next member _
  have bound := starts next member
  cases next with
  | name other => exact absurd bound (by simp [place])
  | _ => rfl

theorem isChain_other_cons {token : Token} {rest : List Token}
    (notName : token.isName = false) (chain : rest.IsChain Token.Apart) :
    (token :: rest).IsChain Token.Apart := by
  rw [List.isChain_cons]
  refine ⟨?_, chain⟩
  intro next _ isName
  rw [notName] at isName
  contradiction

theorem isChain_countTokens (form : Form) :
    form.countTokens.IsChain Token.Apart := by
  unfold countTokens
  cases form.digits with
  | none => exact List.IsChain.nil
  | some count =>
      exact isChain_other_cons rfl
        (isChain_name_cons (startsFrom_nil 1) List.IsChain.nil)

theorem isChain_contentTokens (form : Form) :
    form.contentTokens.IsChain Token.Apart := by
  unfold contentTokens
  cases form.content with
  | none => exact form.isChain_countTokens
  | some inner => exact isChain_other_cons rfl form.isChain_countTokens

theorem isChain_qualifierTokens (form : Form) :
    form.qualifierTokens.IsChain Token.Apart := by
  have extended : ∀ qualifiers : List Qualifier,
      StartsFrom 1
          (qualifiers.flatMap Qualifier.tokens ++ form.contentTokens) ∧
        (qualifiers.flatMap Qualifier.tokens ++
          form.contentTokens).IsChain Token.Apart := by
    intro qualifiers
    induction qualifiers with
    | nil =>
        exact ⟨form.startsFrom_contentTokens.mono (by decide),
          form.isChain_contentTokens⟩
    | cons qualifier rest inductionHypothesis =>
        obtain ⟨starts, chain⟩ := inductionHypothesis
        rw [List.flatMap_cons, List.append_assoc]
        cases qualifier with
        | id name =>
            exact ⟨startsFrom_cons (by decide),
              isChain_other_cons rfl (isChain_name_cons starts chain)⟩
        | style name =>
            exact ⟨startsFrom_cons (by decide),
              isChain_other_cons rfl (isChain_name_cons starts chain)⟩
  exact (extended form.qualifiers).2

theorem isChain_tokens (form : Form) : form.tokens.IsChain Token.Apart := by
  have starts : StartsFrom 1 form.qualifierTokens :=
    form.startsFrom_qualifierTokens.mono (by decide)
  unfold tokens
  cases form.attributes with
  | none => exact isChain_name_cons starts form.isChain_qualifierTokens
  | some inner =>
      exact isChain_name_cons (startsFrom_cons (Nat.le_refl 1))
        (isChain_other_cons rfl form.isChain_qualifierTokens)

theorem writable_tokens (form : Form) :
    ∀ token ∈ form.tokens, token.Writable := by
  intro token member
  -- one case for each part that the token can come from
  simp only [tokens, qualifierTokens, contentTokens, countTokens,
    List.mem_cons, List.mem_append, List.mem_flatMap] at member
  rcases member with rfl | attributes | ⟨qualifier, isQualifier, part⟩ |
    content | count
  · exact form.tag_isName
  · simp only [Option.mem_toList, Option.map_eq_some_iff] at attributes
    obtain ⟨inner, given, rfl⟩ := attributes
    exact form.attributes_closed inner given
  · have isName := form.qualifiers_isName qualifier isQualifier
    cases qualifier with
    | id name =>
        simp only [Qualifier.tokens, List.mem_cons, List.not_mem_nil,
          or_false] at part
        rcases part with rfl | rfl
        · trivial
        · exact isName
    | style name =>
        simp only [Qualifier.tokens, List.mem_cons, List.not_mem_nil,
          or_false] at part
        rcases part with rfl | rfl
        · trivial
        · exact isName
  · simp only [Option.mem_toList, Option.map_eq_some_iff] at content
    obtain ⟨inner, given, rfl⟩ := content
    exact form.content_closed inner given
  · cases given : form.digits with
    | none =>
        rw [given] at count
        contradiction
    | some digits =>
        obtain ⟨nonempty, allDigits, _⟩ := form.digits_count digits given
        rw [given] at count
        simp only [Option.elim_some, List.mem_cons, List.not_mem_nil,
          or_false] at count
        rcases count with rfl | rfl
        · trivial
        · exact ⟨nonempty, fun digit member =>
            Token.isNameChar_of_isDigit (allDigits digit member)⟩

theorem readAll?_text (form : Form) :
    Token.readAll? form.text = some form.tokens :=
  Token.readAll?_eq_some_iff.mpr
    ⟨form.flatMap_written_tokens, form.writable_tokens, form.isChain_tokens⟩

/-! ## The tokens of a form are read as its element -/

theorem takeAttributes_append {rest : List Token}
    (part : Option (List Char)) (starts : StartsFrom 2 rest) :
    Element.takeAttributes ((part.map Token.attributes).toList ++ rest) =
      (part.getD [], rest) := by
  cases part with
  | some inner => rfl
  | none =>
      cases rest with
      | nil => rfl
      | cons token others =>
          have bound := starts token rfl
          cases token with
          | attributes inner => exact absurd bound (by simp [place])
          | _ => rfl

theorem takeContent_append {rest : List Token}
    (part : Option (List Char)) (starts : StartsFrom 4 rest) :
    Element.takeContent ((part.map Token.content).toList ++ rest) =
      (part.getD [], rest) := by
  cases part with
  | some inner => rfl
  | none =>
      cases rest with
      | nil => rfl
      | cons token others =>
          have bound := starts token rfl
          cases token with
          | content inner => exact absurd bound (by simp [place])
          | _ => rfl

theorem takeQualifiers_append {rest : List Token}
    (qualifiers : List Qualifier) (starts : StartsFrom 3 rest) :
    Element.takeQualifiers (qualifiers.flatMap Qualifier.tokens ++ rest) =
      (⟨qualifiers.filterMap Qualifier.id?,
        qualifiers.filterMap Qualifier.style?⟩, rest) := by
  induction qualifiers with
  | nil =>
      cases rest with
      | nil => rfl
      | cons token others =>
          have bound := starts token rfl
          cases token with
          | hash => exact absurd bound (by simp [place])
          | dot => exact absurd bound (by simp [place])
          | _ => rfl
  | cons qualifier others inductionHypothesis =>
      rw [List.flatMap_cons, List.append_assoc]
      cases qualifier with
      | id name =>
          simp [Qualifier.tokens, Element.takeQualifiers, inductionHypothesis,
            List.filterMap_cons, Qualifier.id?, Qualifier.style?]
      | style name =>
          simp [Qualifier.tokens, Element.takeQualifiers, inductionHypothesis,
            List.filterMap_cons, Qualifier.id?, Qualifier.style?]

theorem countOfName?_eq_some_iff {text : List Char} {count : Nat} :
    Element.countOfName? text = some count ↔
      (∀ digit ∈ text, digit.isDigit = true) ∧
        1 ≤ decimalValue text ∧ decimalValue text ≤ 4294967295 ∧
        decimalValue text = count := by
  unfold Element.countOfName?
  rw [Element.valueOfDigits_eq_decimalValue]
  by_cases allDigits : text.all Char.isDigit = true
  · rw [if_pos allDigits]
    have eachDigit := List.all_eq_true.mp allDigits
    dsimp only
    split
    · rename_i inRange
      have bounds : 1 ≤ decimalValue text ∧
          decimalValue text ≤ 4294967295 := inRange
      constructor
      · intro same
        exact ⟨eachDigit, bounds.1, bounds.2, Option.some.inj same⟩
      · rintro ⟨_, _, _, same⟩
        rw [same]
    · rename_i outOfRange
      constructor
      · intro same
        contradiction
      · rintro ⟨_, lower, upper, _⟩
        exact absurd ⟨lower, upper⟩ outOfRange
  · rw [if_neg allDigits]
    constructor
    · intro same
      contradiction
    · rintro ⟨eachDigit, _⟩
      exact absurd (List.all_eq_true.mpr eachDigit) allDigits

theorem readCount?_countTokens (form : Form) :
    Element.readCount? form.countTokens =
      some (form.digits.elim 1 decimalValue) := by
  unfold countTokens
  cases given : form.digits with
  | none => rfl
  | some count =>
      obtain ⟨_, allDigits, lower, upper⟩ := form.digits_count count given
      exact countOfName?_eq_some_iff.mpr ⟨allDigits, lower, upper, rfl⟩

theorem ofTokens?_tokens (form : Form) :
    Element.ofTokens? form.tokens = some form.element := by
  have attributes :=
    takeAttributes_append form.attributes form.startsFrom_qualifierTokens
  have qualifiers :
      Element.takeQualifiers form.qualifierTokens =
        (⟨form.qualifiers.filterMap Qualifier.id?,
          form.qualifiers.filterMap Qualifier.style?⟩, form.contentTokens) :=
    takeQualifiers_append form.qualifiers form.startsFrom_contentTokens
  have content :
      Element.takeContent form.contentTokens =
        (form.content.getD [], form.countTokens) :=
    takeContent_append form.content form.startsFrom_countTokens
  have head :
      Element.readHead? form.tokens =
        some ({ form.element with content := "", count := 1 },
          form.contentTokens) := by
    rw [tokens, Element.readHead?]
    simp only [attributes, qualifiers, if_pos form.one_id,
      List.head?_filterMap,
      Text.lowerCase_of_isNameText form.tag_isName.2, element]
  rw [Element.ofTokens?, head]
  simp only [content, form.readCount?_countTokens]
  rfl

theorem read?_text (form : Form) :
    Element.read? form.text = some form.element := by
  rw [Element.read?, form.readAll?_text]
  exact form.ofTokens?_tokens

end Form

end TerseMarkup
