import Mathlib.Data.List.Chain
import Mathlib.Data.List.TakeWhile
import TerseMarkup.Token

/-!
# Texts and their tokens

A text is read into tokens exactly if it is what these tokens are written as,
each of them being one that can be written and no two names standing side by
side. The longest token at each place is thus the only one that can stand
there.
-/

namespace TerseMarkup.Token

def isName : Token → Bool
  | name _ => true
  | _ => false

/-- The tokens that can be written: a name has name characters only, and
nothing inside of brackets or braces closes them. -/
def Writable : Token → Prop
  | name text => text ≠ [] ∧ ∀ character ∈ text, isNameChar character = true
  | attributes text => text ≠ [] ∧ ']' ∉ text
  | content text => '}' ∉ text
  | _ => True

/-- `EndsName rest` says that a name before `rest` does not go on in it. -/
def EndsName (rest : List Char) : Prop :=
  ∀ character ∈ rest.head?, isNameChar character = false

/-- Two tokens may stand side by side if they are not both names. -/
def Apart (first second : Token) : Prop :=
  first.isName = true → second.isName = false

theorem endsName_nil : EndsName [] := by
  intro character member
  contradiction

theorem endsName_cons {character : Char} {rest : List Char}
    (notName : isNameChar character = false) :
    EndsName (character :: rest) := by
  intro first member
  rw [← Option.some.inj member]
  exact notName

/-- Name characters lie between `-` and `z`. -/
theorem toNat_of_isNameChar {character : Char}
    (nameChar : isNameChar character = true) :
    0x2D ≤ character.toNat ∧ character.toNat ≤ 0x7A := by
  change
    ((((decide ('A'.val ≤ character.val ∧ character.val ≤ 'Z'.val) ||
      'a'.val ≤ character.val && character.val ≤ 'z'.val) ||
      '0'.val ≤ character.val && character.val ≤ '9'.val) ||
      character == '_') || character == '-') = true at nameChar
  simp only [Bool.or_eq_true, Bool.and_eq_true, decide_eq_true_eq,
    beq_iff_eq, UInt32.le_iff_toNat_le] at nameChar
  change
    ((((65 ≤ character.toNat ∧ character.toNat ≤ 90) ∨
      (97 ≤ character.toNat ∧ character.toNat ≤ 122)) ∨
      (48 ≤ character.toNat ∧ character.toNat ≤ 57)) ∨
      character = '_') ∨ character = '-' at nameChar
  rcases nameChar with ((letter | digit) | rfl) | rfl
  · omega
  · omega
  · decide
  · decide

theorem isNameChar_of_isDigit {digit : Char} (isDigit : digit.isDigit = true) :
    isNameChar digit = true := by
  simp [isNameChar, Char.isAlphanum, isDigit]

/-! ## Brackets and braces -/

theorem upTo?_append {closing : Char} {inner : List Char}
    (notInside : closing ∉ inner) (rest : List Char) :
    upTo? closing (inner ++ closing :: rest) = some (inner, rest) := by
  have allOther :
      ∀ character ∈ inner, decide (character ≠ closing) = true := by
    intro character member
    rw [decide_eq_true_iff]
    rintro rfl
    exact notInside member
  unfold upTo?
  rw [List.dropWhile_append_of_pos allOther,
    List.takeWhile_append_of_pos allOther]
  simp

theorem eq_append_of_upTo? {closing : Char} {text inner rest : List Char}
    (found : upTo? closing text = some (inner, rest)) :
    text = inner ++ closing :: rest ∧ closing ∉ inner := by
  unfold upTo? at found
  split at found
  · contradiction
  · rename_i first others dropped
    obtain ⟨rfl, rfl⟩ := Prod.mk.inj (Option.some.inj found)
    have isClosing : first = closing := by
      have stopped := List.head?_dropWhile_not
        (fun character => decide (character ≠ closing)) text
      rw [dropped] at stopped
      simpa using stopped
    constructor
    · rw [← isClosing, ← dropped, isClosing]
      exact List.takeWhile_append_dropWhile.symm
    · intro member
      simpa using List.mem_takeWhile_imp member

/-! ## One token -/

theorem take?_of_isNameChar {character : Char} (text : List Char)
    (nameChar : isNameChar character = true) :
    take? (character :: text) =
      some (name (character :: text.takeWhile isNameChar),
        text.dropWhile isNameChar) := by
  have other : ∀ sign, isNameChar sign = false → character ≠ sign := by
    rintro sign notName rfl
    rw [nameChar] at notName
    contradiction
  have notHash := other '#' (by decide)
  have notDot := other '.' (by decide)
  have notStar := other '*' (by decide)
  have notBackslash := other '\\' (by decide)
  have notBracket := other '[' (by decide)
  have notBrace := other '{' (by decide)
  unfold take?
  split <;> simp_all

/-- A token is taken from the front of a text that starts with it. -/
theorem take?_written_append {token : Token} {rest : List Char}
    (writable : token.Writable)
    (ended : token.isName = true → EndsName rest) :
    take? (token.written ++ rest) = some (token, rest) := by
  cases token with
  | name text =>
      obtain ⟨nonempty, nameChars⟩ := writable
      cases text with
      | nil => exact absurd rfl nonempty
      | cons character others =>
          have othersName :
              ∀ other ∈ others, isNameChar other = true := by
            intro other member
            exact nameChars other (List.mem_cons_of_mem character member)
          have stops : rest.takeWhile isNameChar = [] ∧
              rest.dropWhile isNameChar = rest := by
            cases rest with
            | nil => exact ⟨rfl, rfl⟩
            | cons next more =>
                have notName := ended rfl next rfl
                simp [notName]
          rw [written, List.cons_append,
            take?_of_isNameChar _ (nameChars character List.mem_cons_self),
            List.takeWhile_append_of_pos othersName,
            List.dropWhile_append_of_pos othersName, stops.1, stops.2,
            List.append_nil]
  | attributes text =>
      obtain ⟨nonempty, notInside⟩ := writable
      have found := upTo?_append notInside rest
      simp [written, take?, found, nonempty]
  | content text =>
      have found := upTo?_append writable rest
      simp [written, take?, found]
  | hash => rfl
  | dot => rfl
  | star => rfl
  | opening => rfl

/-- What is taken from the front of a text is a token that it starts with. -/
theorem eq_append_of_take? {text rest : List Char} {token : Token}
    (taken : take? text = some (token, rest)) :
    text = token.written ++ rest ∧ token.Writable ∧
      (token.isName = true → EndsName rest) := by
  unfold take? at taken
  split at taken
  · contradiction
  · obtain ⟨rfl, rfl⟩ := Prod.mk.inj (Option.some.inj taken)
    exact ⟨rfl, trivial, nofun⟩
  · obtain ⟨rfl, rfl⟩ := Prod.mk.inj (Option.some.inj taken)
    exact ⟨rfl, trivial, nofun⟩
  · obtain ⟨rfl, rfl⟩ := Prod.mk.inj (Option.some.inj taken)
    exact ⟨rfl, trivial, nofun⟩
  · obtain ⟨rfl, rfl⟩ := Prod.mk.inj (Option.some.inj taken)
    exact ⟨rfl, trivial, nofun⟩
  · split at taken
    · rename_i inner after found
      split at taken
      · contradiction
      · rename_i nonempty
        obtain ⟨rfl, rfl⟩ := Prod.mk.inj (Option.some.inj taken)
        obtain ⟨rfl, notInside⟩ := eq_append_of_upTo? found
        exact ⟨by simp [written], ⟨nonempty, notInside⟩, nofun⟩
    · contradiction
  · split at taken
    · rename_i inner after found
      obtain ⟨rfl, rfl⟩ := Prod.mk.inj (Option.some.inj taken)
      obtain ⟨rfl, notInside⟩ := eq_append_of_upTo? found
      exact ⟨by simp [written], notInside, nofun⟩
    · contradiction
  · rename_i character others _ _ _ _ _ _
    split at taken
    · rename_i nameChar
      obtain ⟨rfl, rfl⟩ := Prod.mk.inj (Option.some.inj taken)
      refine ⟨?_, ⟨List.cons_ne_nil _ _, ?_⟩, ?_⟩
      · rw [written, List.cons_append, List.takeWhile_append_dropWhile]
      · intro other member
        rcases List.mem_cons.mp member with rfl | later
        · exact nameChar
        · exact List.mem_takeWhile_imp later
      · intro _ next member
        have stopped := List.head?_dropWhile_not isNameChar others
        rw [Option.mem_def.mp member] at stopped
        simpa using stopped
    · contradiction

/-! ## All tokens -/

theorem readAll?_nil : readAll? [] = some [] := by
  rw [readAll?, if_pos rfl]

theorem readAll?_of_take? {text rest : List Char} {token : Token}
    (taken : take? text = some (token, rest)) :
    readAll? text = (readAll? rest).map (token :: ·) := by
  have nonempty : text ≠ [] := by
    rintro rfl
    contradiction
  rw [readAll?, if_neg nonempty]
  split
  · simp_all
  · simp_all

theorem readAll?_of_take?_eq_none {text : List Char}
    (nonempty : text ≠ []) (missing : take? text = none) :
    readAll? text = none := by
  rw [readAll?, if_neg nonempty]
  split
  · rfl
  · simp_all

theorem readAll?_eq_some_nil_iff {text : List Char} :
    readAll? text = some [] ↔ text = [] := by
  constructor
  · intro read
    by_contra nonempty
    cases taken : take? text with
    | none =>
        rw [readAll?_of_take?_eq_none nonempty taken] at read
        contradiction
    | some result =>
        rw [readAll?_of_take? taken] at read
        simp at read
  · rintro rfl
    exact readAll?_nil

theorem readAll?_eq_some_cons_iff
    {text : List Char} {token : Token} {others : List Token} :
    readAll? text = some (token :: others) ↔
      ∃ rest, take? text = some (token, rest) ∧
        readAll? rest = some others := by
  constructor
  · intro read
    have nonempty : text ≠ [] := by
      rintro rfl
      rw [readAll?_nil] at read
      simp at read
    cases taken : take? text with
    | none =>
        rw [readAll?_of_take?_eq_none nonempty taken] at read
        contradiction
    | some result =>
        rw [readAll?_of_take? taken, Option.map_eq_some_iff] at read
        obtain ⟨later, laterRead, same⟩ := read
        obtain ⟨rfl, rfl⟩ := List.cons.inj same
        exact ⟨result.2, rfl, laterRead⟩
  · rintro ⟨rest, taken, laterRead⟩
    rw [readAll?_of_take? taken, laterRead, Option.map_some]

/-- A name does not go on in a token that is none. -/
theorem endsName_written_append {token : Token} (rest : List Char)
    (notName : token.isName = false) :
    EndsName (token.written ++ rest) := by
  cases token with
  | name text => contradiction
  | attributes text => exact endsName_cons (by decide)
  | content text => exact endsName_cons (by decide)
  | hash => exact endsName_cons (by decide)
  | dot => exact endsName_cons (by decide)
  | star => exact endsName_cons (by decide)
  | opening => exact endsName_cons (by decide)

/-- A name would go on in another one. -/
theorem not_endsName_written_append {token : Token} (rest : List Char)
    (writable : token.Writable) (isName : token.isName = true) :
    ¬ EndsName (token.written ++ rest) := by
  intro ended
  cases token with
  | name text =>
      obtain ⟨nonempty, nameChars⟩ := writable
      cases text with
      | nil => exact nonempty rfl
      | cons character others =>
          have nameChar := nameChars character List.mem_cons_self
          rw [ended character rfl] at nameChar
          contradiction
  | _ => contradiction

/-- Reading a text that goes on where no name does: first its tokens, then
those of the rest. -/
theorem readAll?_append {first rest : List Char} {tokens : List Token}
    (read : readAll? first = some tokens) (ended : EndsName rest) :
    readAll? (first ++ rest) = (readAll? rest).map (tokens ++ ·) := by
  induction tokens generalizing first with
  | nil =>
      rw [readAll?_eq_some_nil_iff.mp read]
      simp
  | cons token others inductionHypothesis =>
      obtain ⟨remaining, taken, laterRead⟩ :=
        readAll?_eq_some_cons_iff.mp read
      obtain ⟨rfl, writable, nameEnds⟩ := eq_append_of_take? taken
      have stillEnds :
          token.isName = true → EndsName (remaining ++ rest) := by
        intro isName
        cases remaining with
        | nil => exact ended
        | cons next more => exact nameEnds isName
      have takenAgain := take?_written_append writable stillEnds
      rw [List.append_assoc, readAll?_of_take? takenAgain,
        inductionHypothesis laterRead, Option.map_map]
      rfl

/-- A text is read into tokens exactly if it is what they are written as. -/
theorem readAll?_eq_some_iff {text : List Char} {tokens : List Token} :
    readAll? text = some tokens ↔
      tokens.flatMap written = text ∧
        (∀ token ∈ tokens, token.Writable) ∧ tokens.IsChain Apart := by
  induction tokens generalizing text with
  | nil =>
      rw [readAll?_eq_some_nil_iff]
      simp [eq_comm]
  | cons token others inductionHypothesis =>
      rw [readAll?_eq_some_cons_iff, List.isChain_cons, List.flatMap_cons]
      constructor
      · rintro ⟨rest, taken, laterRead⟩
        obtain ⟨rfl, writable, nameEnds⟩ := eq_append_of_take? taken
        obtain ⟨rfl, othersWritable, othersApart⟩ :=
          inductionHypothesis.mp laterRead
        refine ⟨rfl, List.forall_mem_cons.mpr ⟨writable, othersWritable⟩, ?_,
          othersApart⟩
        -- Taking the longest name leaves none behind it.
        intro next member isName
        obtain ⟨more, rfl⟩ := List.head?_eq_some_iff.mp member
        have nextWritable := othersWritable next List.mem_cons_self
        by_contra nextIsName
        exact not_endsName_written_append _ nextWritable
          (by simpa using nextIsName) (nameEnds isName)
      · rintro ⟨rfl, writable, apart, othersApart⟩
        obtain ⟨tokenWritable, othersWritable⟩ :=
          List.forall_mem_cons.mp writable
        refine ⟨others.flatMap written,
          take?_written_append tokenWritable ?_,
          inductionHypothesis.mpr ⟨rfl, othersWritable, othersApart⟩⟩
        intro isName
        cases others with
        | nil => exact endsName_nil
        | cons next more =>
            exact endsName_written_append _ (apart next rfl isName)

end TerseMarkup.Token
