import TerseMarkup.Proofs.Element.Grammar

/-!
# Where the text of an element begins and ends

The text of an element starts with a name and ends with a name, a bracket or a
brace. It does not go on over a blank or a combinator: no element starts with
the text of another one and one of these signs behind it.
-/

namespace TerseMarkup.Element

/-- A blank or a combinator, where no token starts. -/
def isForeign (character : Char) : Bool :=
  Text.isBlank character || character == '+' || character == '>'

/-- What the text of an element can end with. -/
def isEnding (character : Char) : Bool :=
  Token.isNameChar character || character == ']' || character == '}'

theorem not_isBlank_of_isNameChar {character : Char}
    (nameChar : Token.isNameChar character = true) :
    Text.isBlank character = false := by
  obtain ⟨lower, upper⟩ := Token.toNat_of_isNameChar nameChar
  simp only [Text.isBlank, Bool.or_eq_false_iff, Bool.and_eq_false_iff,
    decide_eq_false_iff_not, beq_eq_false_iff_ne]
  omega

theorem not_isBlank_of_isEnding {character : Char}
    (ending : isEnding character = true) :
    Text.isBlank character = false := by
  simp only [isEnding, Bool.or_eq_true, beq_iff_eq] at ending
  rcases ending with (nameChar | rfl) | rfl
  · exact not_isBlank_of_isNameChar nameChar
  · decide
  · decide

theorem not_isNameChar_of_isForeign {character : Char}
    (foreign : isForeign character = true) :
    Token.isNameChar character = false := by
  by_contra nameChar
  simp only [isForeign, Bool.or_eq_true, beq_iff_eq] at foreign
  rcases foreign with (blank | rfl) | rfl
  · rw [not_isBlank_of_isNameChar (by simpa using nameChar)] at blank
    contradiction
  · exact nameChar (by decide)
  · exact nameChar (by decide)

theorem take?_of_isForeign {character : Char} (rest : List Char)
    (foreign : isForeign character = true) :
    Token.take? (character :: rest) = none := by
  have other : ∀ sign, isForeign sign = false → character ≠ sign := by
    rintro sign notForeign rfl
    rw [foreign] at notForeign
    contradiction
  have notName := not_isNameChar_of_isForeign foreign
  have notHash := other '#' (by decide)
  have notDot := other '.' (by decide)
  have notStar := other '*' (by decide)
  have notBackslash := other '\\' (by decide)
  have notBracket := other '[' (by decide)
  have notBrace := other '{' (by decide)
  unfold Token.take?
  split <;> simp_all

/-- The text of an element does not go on over a foreign character. -/
theorem read?_append_eq_none {first rest : List Char} {character : Char}
    (isElement : (read? first).isSome = true)
    (foreign : isForeign character = true) :
    read? (first ++ character :: rest) = none := by
  obtain ⟨element, read⟩ := Option.isSome_iff_exists.mp isElement
  obtain ⟨form, rfl, _⟩ := Form.exists_of_read? read
  have ended : Token.EndsName (character :: rest) :=
    Token.endsName_cons (not_isNameChar_of_isForeign foreign)
  have stuck : Token.readAll? (character :: rest) = none :=
    Token.readAll?_of_take?_eq_none (List.cons_ne_nil character rest)
      (take?_of_isForeign rest foreign)
  rw [read?, Token.readAll?_append form.readAll?_text ended, stuck,
    Option.map_none]

/-- At the start of a text stands one element at most that is followed by a
foreign character or by nothing. -/
theorem eq_of_append_eq {first second firstRest secondRest : List Char}
    (firstElement : (read? first).isSome = true)
    (secondElement : (read? second).isSome = true)
    (firstForeign : ∀ character ∈ firstRest.head?, isForeign character = true)
    (secondForeign :
      ∀ character ∈ secondRest.head?, isForeign character = true)
    (same : first ++ firstRest = second ++ secondRest) :
    first = second := by
  rcases List.append_eq_append_iff.mp same with
    ⟨between, longer, shorter⟩ | ⟨between, longer, shorter⟩
  · cases between with
    | nil => rw [longer, List.append_nil]
    | cons character others =>
        have foreign : isForeign character = true := by
          apply firstForeign
          rw [shorter]
          rfl
        rw [longer, read?_append_eq_none firstElement foreign]
          at secondElement
        contradiction
  · cases between with
    | nil => rw [longer, List.append_nil]
    | cons character others =>
        have foreign : isForeign character = true := by
          apply secondForeign
          rw [shorter]
          rfl
        rw [longer, read?_append_eq_none secondElement foreign]
          at firstElement
        contradiction

/-! ## The first and the last character -/

theorem exists_first {text : List Char}
    (isElement : (read? text).isSome = true) :
    ∃ character rest,
      text = character :: rest ∧ Token.isNameChar character = true := by
  obtain ⟨element, read⟩ := Option.isSome_iff_exists.mp isElement
  obtain ⟨form, rfl, _⟩ := Form.exists_of_read? read
  obtain ⟨nonempty, nameChars⟩ := form.tag_isName
  cases tag : form.tag with
  | nil => exact absurd tag nonempty
  | cons character others =>
      have member : character ∈ form.tag := by
        rw [tag]
        exact List.mem_cons_self
      exact ⟨character, others ++ _, congrArg (· ++ _) tag,
        nameChars character member⟩

def EndsWell (text : List Char) : Prop :=
  ∃ initial character,
    text = initial ++ [character] ∧ isEnding character = true

theorem EndsWell.isEnding_of_mem {text : List Char} (endsWell : EndsWell text) :
    ∀ character ∈ text.getLast?, isEnding character = true := by
  obtain ⟨initial, last, rfl, ending⟩ := endsWell
  intro character member
  rw [List.getLast?_concat] at member
  rw [← Option.mem_some.mp member]
  exact ending

theorem EndsWell.append (before : List Char) {text : List Char}
    (endsWell : EndsWell text) : EndsWell (before ++ text) := by
  obtain ⟨initial, character, rfl, ending⟩ := endsWell
  exact ⟨before ++ initial, character, by rw [List.append_assoc], ending⟩

theorem EndsWell.append_optional {before text : List Char}
    (endsWell : EndsWell before) (optional : text = [] ∨ EndsWell text) :
    EndsWell (before ++ text) := by
  rcases optional with rfl | textEndsWell
  · rw [List.append_nil]
    exact endsWell
  · exact textEndsWell.append before

theorem optional_append {first second : List Char}
    (firstOptional : first = [] ∨ EndsWell first)
    (secondOptional : second = [] ∨ EndsWell second) :
    first ++ second = [] ∨ EndsWell (first ++ second) := by
  rcases firstOptional with rfl | firstEndsWell
  · exact secondOptional
  · exact Or.inr (firstEndsWell.append_optional secondOptional)

theorem endsWell_of_isNameText {text : List Char} (isName : IsNameText text) :
    EndsWell text := by
  obtain ⟨nonempty, nameChars⟩ := isName
  refine ⟨text.dropLast, text.getLast nonempty,
    (List.dropLast_append_getLast nonempty).symm, ?_⟩
  have nameChar := nameChars _ (List.getLast_mem nonempty)
  simp [isEnding, nameChar]

theorem endsWell_qualifiers {qualifiers : List Qualifier}
    (named : ∀ qualifier ∈ qualifiers, IsNameText qualifier.name) :
    qualifiers.flatMap Qualifier.text = [] ∨
      EndsWell (qualifiers.flatMap Qualifier.text) := by
  induction qualifiers with
  | nil => exact Or.inl rfl
  | cons qualifier rest inductionHypothesis =>
      have endsWell : EndsWell qualifier.text := by
        have name :=
          endsWell_of_isNameText (named qualifier List.mem_cons_self)
        cases qualifier with
        | id text => exact name.append ['#']
        | style text => exact name.append ['.']
      exact Or.inr (endsWell.append_optional
        (inductionHypothesis fun other member =>
          named other (List.mem_cons_of_mem qualifier member)))

theorem endsWell_wrapped (opening : Char) {closing : Char}
    (ending : isEnding closing = true) (part : Option (List Char)) :
    part.elim [] (fun inner => opening :: (inner ++ [closing])) = [] ∨
      EndsWell
        (part.elim [] fun inner => opening :: (inner ++ [closing])) := by
  cases part with
  | none => exact Or.inl rfl
  | some inner => exact Or.inr ⟨opening :: inner, closing, rfl, ending⟩

theorem endsWell_of_read? {text : List Char}
    (isElement : (read? text).isSome = true) : EndsWell text := by
  obtain ⟨element, read⟩ := Option.isSome_iff_exists.mp isElement
  obtain ⟨form, rfl, _⟩ := Form.exists_of_read? read
  have count :
      form.digits.elim [] (fun digits => '*' :: digits) = [] ∨
        EndsWell (form.digits.elim [] fun digits => '*' :: digits) := by
    cases given : form.digits with
    | none => exact Or.inl rfl
    | some digits =>
        obtain ⟨nonempty, allDigits, _⟩ := form.digits_count digits given
        have isName : IsNameText digits :=
          ⟨nonempty, fun digit member =>
            Token.isNameChar_of_isDigit (allDigits digit member)⟩
        exact Or.inr ((endsWell_of_isNameText isName).append ['*'])
  exact (endsWell_of_isNameText form.tag_isName).append_optional
    (optional_append (endsWell_wrapped '[' (by decide) form.attributes)
      (optional_append (endsWell_qualifiers form.qualifiers_isName)
        (optional_append (endsWell_wrapped '{' (by decide) form.content)
          count)))

/-- No line that ends as an element does opens a block. -/
theorem readOpener?_of_endsWell {text : List Char} (endsWell : EndsWell text) :
    readOpener? text = none := by
  cases read : readOpener? text with
  | none => rfl
  | some head =>
      obtain ⟨initial, split⟩ := Form.suffix_of_readOpener? read
      have last : '{' ∈ text.getLast? := by
        rw [← split, List.getLast?_append]
        rfl
      exact absurd (endsWell.isEnding_of_mem '{' last) (by decide)

end TerseMarkup.Element
