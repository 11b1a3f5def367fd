import TerseMarkup.Proofs.Element.Form

/-!
# The grammar of elements

A text is read as an element exactly if it can be taken apart into the parts
of a form, and then in one way only, which also says which element it is.
-/

namespace TerseMarkup

namespace Form

/-! ## What is read has a form -/

theorem exists_of_takeAttributes (tokens : List Token) :
    ∃ part : Option (List Char),
      tokens =
          (part.map Token.attributes).toList ++
            (Element.takeAttributes tokens).2 ∧
        (Element.takeAttributes tokens).1 = part.getD [] := by
  unfold Element.takeAttributes
  split
  · rename_i inner rest
    exact ⟨some inner, rfl, rfl⟩
  · exact ⟨none, rfl, rfl⟩

theorem exists_of_takeContent (tokens : List Token) :
    ∃ part : Option (List Char),
      tokens =
          (part.map Token.content).toList ++
            (Element.takeContent tokens).2 ∧
        (Element.takeContent tokens).1 = part.getD [] := by
  unfold Element.takeContent
  split
  · rename_i inner rest
    exact ⟨some inner, rfl, rfl⟩
  · exact ⟨none, rfl, rfl⟩

theorem exists_of_takeQualifiers (tokens : List Token) :
    ∃ qualifiers : List Qualifier,
      tokens =
          qualifiers.flatMap Qualifier.tokens ++
            (Element.takeQualifiers tokens).2 ∧
        (Element.takeQualifiers tokens).1 =
          ⟨qualifiers.filterMap Qualifier.id?,
            qualifiers.filterMap Qualifier.style?⟩ := by
  fun_induction Element.takeQualifiers tokens with
  | case1 name rest others remaining taken inductionHypothesis =>
      rw [taken] at inductionHypothesis
      dsimp only at inductionHypothesis
      obtain ⟨qualifiers, rfl, rfl⟩ := inductionHypothesis
      exact ⟨.id name :: qualifiers, rfl, rfl⟩
  | case2 name rest others remaining taken inductionHypothesis =>
      rw [taken] at inductionHypothesis
      dsimp only at inductionHypothesis
      obtain ⟨qualifiers, rfl, rfl⟩ := inductionHypothesis
      exact ⟨.style name :: qualifiers, rfl, rfl⟩
  | case3 rest => exact ⟨[], rfl, rfl⟩

theorem exists_of_readCount? {tokens : List Token} {count : Nat}
    (read : Element.readCount? tokens = some count) :
    ∃ digits : Option (List Char),
      tokens = digits.elim [] (fun text => [.star, .name text]) ∧
        digits.elim 1 decimalValue = count ∧
        ∀ text ∈ digits, (∀ digit ∈ text, digit.isDigit = true) ∧
          1 ≤ decimalValue text ∧ decimalValue text ≤ 4294967295 := by
  unfold Element.readCount? at read
  split at read
  · exact ⟨none, rfl, Option.some.inj read, nofun⟩
  · rename_i text
    obtain ⟨allDigits, lower, upper, same⟩ := countOfName?_eq_some_iff.mp read
    refine ⟨some text, rfl, same, ?_⟩
    intro other member
    rw [← Option.some.inj member]
    exact ⟨allDigits, lower, upper⟩
  · contradiction

theorem exists_of_readHead? {tokens rest : List Token} {head : Element}
    (read : Element.readHead? tokens = some (head, rest)) :
    ∃ (tag : List Char) (attributes : Option (List Char))
        (qualifiers : List Qualifier),
      tokens =
          .name tag ::
            ((attributes.map Token.attributes).toList ++
              (qualifiers.flatMap Qualifier.tokens ++ rest)) ∧
        (qualifiers.filterMap Qualifier.id?).length ≤ 1 ∧
        head =
          { tag := String.ofList (Text.lowerCase tag)
            attributes := String.ofList (attributes.getD [])
            id := (qualifiers.findSome? Qualifier.id?).map String.ofList
            classes :=
              (qualifiers.filterMap Qualifier.style?).map String.ofList } := by
  unfold Element.readHead? at read
  split at read
  · rename_i tag others
    obtain ⟨attributes, afterTag, attributesRead⟩ :=
      exists_of_takeAttributes others
    obtain ⟨qualifiers, afterAttributes, qualifiersRead⟩ :=
      exists_of_takeQualifiers (Element.takeAttributes others).2
    dsimp only at read
    rw [qualifiersRead, attributesRead] at read
    split at read
    · rename_i oneId
      obtain ⟨rfl, rfl⟩ := Prod.mk.inj (Option.some.inj read)
      refine ⟨tag, attributes, qualifiers, ?_, oneId, ?_⟩
      · rw [← afterAttributes, ← afterTag]
      · rw [List.head?_filterMap]
    · contradiction
  · contradiction

theorem exists_of_ofTokens? {tokens : List Token} {element : Element}
    (writable : ∀ token ∈ tokens, token.Writable)
    (read : Element.ofTokens? tokens = some element) :
    ∃ form : Form, form.tokens = tokens ∧ form.element = element := by
  unfold Element.ofTokens? at read
  split at read
  · contradiction
  rename_i head rest headRead
  obtain ⟨tag, attributes, qualifiers, rfl, oneId, rfl⟩ :=
    exists_of_readHead? headRead
  obtain ⟨content, afterQualifiers, contentRead⟩ := exists_of_takeContent rest
  dsimp only at read
  split at read
  · contradiction
  rename_i count countRead
  obtain ⟨digits, afterContent, rfl, inRange⟩ := exists_of_readCount? countRead
  rw [afterContent] at afterQualifiers
  subst afterQualifiers
  -- The tokens were read from a text, which gives the conditions on the parts.
  have tagIsName : IsNameText tag := writable _ List.mem_cons_self
  let form : Form :=
    { tag, attributes, qualifiers, content, digits
      tag_isName := tagIsName
      attributes_closed := by
        intro inner given
        rw [Option.mem_def.mp given] at writable
        exact writable (.attributes inner) (by simp)
      qualifiers_isName := by
        intro qualifier member
        have named := Qualifier.name_mem_tokens member
        exact writable (.name qualifier.name) (by simp [named])
      one_id := oneId
      content_closed := by
        intro inner given
        rw [Option.mem_def.mp given] at writable
        exact writable (.content inner) (by simp)
      digits_count := by
        intro text given
        have named : IsNameText text := by
          rw [Option.mem_def.mp given] at writable
          exact writable (.name text) (by simp)
        exact ⟨named.1, inRange text given⟩ }
  refine ⟨form, rfl, ?_⟩
  rw [← Option.some.inj read, contentRead,
    Text.lowerCase_of_isNameText tagIsName.2]
  rfl

theorem exists_of_read? {text : List Char} {element : Element}
    (read : Element.read? text = some element) :
    ∃ form : Form, form.text = text ∧ form.element = element := by
  unfold Element.read? at read
  split at read
  · rename_i tokens tokensRead
    obtain ⟨whole, writable, _⟩ := Token.readAll?_eq_some_iff.mp tokensRead
    obtain ⟨form, rfl, rfl⟩ := exists_of_ofTokens? writable read
    rw [form.flatMap_written_tokens] at whole
    exact ⟨form, whole, rfl⟩
  · contradiction

/-- A line that opens a block ends with the sign for it. -/
theorem suffix_of_readOpener? {line : List Char} {head : Element}
    (read : Element.readOpener? line = some head) : ['\\', '{'] <:+ line := by
  unfold Element.readOpener? at read
  split at read
  · rename_i tokens tokensRead
    unfold Element.openerOfTokens? at read
    split at read
    · rename_i described headRead
      obtain ⟨tag, attributes, qualifiers, rfl, _, _⟩ :=
        exists_of_readHead? headRead
      obtain ⟨whole, _, _⟩ := Token.readAll?_eq_some_iff.mp tokensRead
      rw [← whole]
      refine ⟨(Token.name tag ::
        ((attributes.map Token.attributes).toList ++
          qualifiers.flatMap Qualifier.tokens)).flatMap Token.written, ?_⟩
      simp [Token.written]
    · contradiction
  · contradiction

/-! ## A text has one form -/

theorem optional_append_inj {wrap : List Char → Token} {lowest : Nat}
    {first second : Option (List Char)} {rest other : List Token}
    (injective : ∀ one two, wrap one = wrap two → one = two)
    (placed : ∀ text, place (wrap text) < lowest)
    (restStarts : StartsFrom lowest rest)
    (otherStarts : StartsFrom lowest other)
    (same : (first.map wrap).toList ++ rest =
      (second.map wrap).toList ++ other) :
    first = second ∧ rest = other := by
  cases first with
  | none =>
      cases second with
      | none => exact ⟨rfl, same⟩
      | some text =>
          have starts : rest = wrap text :: other := same
          have bound := restStarts (wrap text) (by rw [starts]; rfl)
          exact absurd bound (Nat.not_le_of_lt (placed text))
  | some text =>
      cases second with
      | none =>
          have starts : wrap text :: rest = other := same
          have bound := otherStarts (wrap text) (by rw [← starts]; rfl)
          exact absurd bound (Nat.not_le_of_lt (placed text))
      | some otherText =>
          obtain ⟨sameText, sameRest⟩ := List.cons.inj same
          rw [injective text otherText sameText]
          exact ⟨rfl, sameRest⟩

theorem qualifiers_append_inj {first second : List Qualifier}
    {rest other : List Token} (restStarts : StartsFrom 3 rest)
    (otherStarts : StartsFrom 3 other)
    (same : first.flatMap Qualifier.tokens ++ rest =
      second.flatMap Qualifier.tokens ++ other) :
    first = second ∧ rest = other := by
  have noQualifier : ∀ {qualifier : Qualifier} {tokens later : List Token},
      StartsFrom 3 tokens → tokens ≠ qualifier.tokens ++ later := by
    rintro qualifier tokens later starts rfl
    cases qualifier with
    | id name => exact absurd (starts .hash rfl) (by decide)
    | style name => exact absurd (starts .dot rfl) (by decide)
  induction first generalizing second with
  | nil =>
      cases second with
      | nil => exact ⟨rfl, same⟩
      | cons qualifier others =>
          rw [List.flatMap_cons, List.append_assoc] at same
          exact absurd same (noQualifier restStarts)
  | cons qualifier others inductionHypothesis =>
      cases second with
      | nil =>
          rw [List.flatMap_cons, List.append_assoc] at same
          exact absurd same.symm (noQualifier otherStarts)
      | cons otherQualifier more =>
          rw [List.flatMap_cons, List.flatMap_cons, List.append_assoc,
            List.append_assoc] at same
          have sameParts :
              qualifier = otherQualifier ∧
                others.flatMap Qualifier.tokens ++ rest =
                  more.flatMap Qualifier.tokens ++ other := by
            cases qualifier <;> cases otherQualifier <;>
              simp_all [Qualifier.tokens]
          obtain ⟨rfl, sameRest⟩ := inductionHypothesis sameParts.2
          exact ⟨by rw [sameParts.1], sameRest⟩

theorem eq_of_tokens_eq {form other : Form}
    (same : form.tokens = other.tokens) : form = other := by
  -- The parts come off one by one: behind a part no token starts that could
  -- belong to it.
  obtain ⟨sameTag, afterTag⟩ := List.cons.inj same
  obtain ⟨sameAttributes, afterAttributes⟩ :=
    optional_append_inj (fun _ _ => Token.attributes.inj)
      (fun _ => Nat.lt_succ_self 1) form.startsFrom_qualifierTokens
      other.startsFrom_qualifierTokens afterTag
  obtain ⟨sameQualifiers, afterQualifiers⟩ :=
    qualifiers_append_inj form.startsFrom_contentTokens
      other.startsFrom_contentTokens afterAttributes
  obtain ⟨sameContent, afterContent⟩ :=
    optional_append_inj (fun _ _ => Token.content.inj)
      (fun _ => Nat.lt_succ_self 3) form.startsFrom_countTokens
      other.startsFrom_countTokens afterQualifiers
  have sameDigits : form.digits = other.digits := by
    unfold countTokens at afterContent
    cases formDigits : form.digits <;> cases otherDigits : other.digits <;>
      simp_all
  cases form
  cases other
  simp_all

theorem eq_of_text_eq {form other : Form} (same : form.text = other.text) :
    form = other := by
  have read := form.readAll?_text
  rw [same, other.readAll?_text] at read
  exact eq_of_tokens_eq (Option.some.inj read).symm

end Form

/-- A text is read as an element exactly if it has a form that stands for that
element, and it has at most one form. -/
theorem Element.read?_iff_form (text : List Char) :
    (∀ element, Element.read? text = some element ↔
      ∃ form : Form, form.text = text ∧ form.element = element) ∧
    (∀ form other : Form,
      form.text = text → other.text = text → form = other) := by
  constructor
  · intro element
    constructor
    · exact Form.exists_of_read?
    · rintro ⟨form, rfl, rfl⟩
      exact form.read?_text
  · rintro form other rfl same
    exact (Form.eq_of_text_eq same).symm

end TerseMarkup
