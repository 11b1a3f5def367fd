import TerseMarkup.Proofs.Element.Grammar

/-!
# Names of elements

The tag, the id and the classes of an element that was read are names, those
of a block's head as well.
-/

namespace TerseMarkup

/-- What holds of the name characters among the first 128 characters holds of
all name characters. -/
theorem Token.forall_isNameChar (holds : Char → Prop)
    (checked : ∀ code < 0x80,
      isNameChar (Char.ofNat code) = true → holds (Char.ofNat code))
    {character : Char} (nameChar : isNameChar character = true) :
    holds character := by
  have bounds := toNat_of_isNameChar nameChar
  have atCode := checked character.toNat (by omega)
  rw [Char.ofNat_toNat] at atCode
  exact atCode nameChar

theorem Token.isNameChar_toLower {character : Char}
    (nameChar : isNameChar character = true) :
    isNameChar character.toLower = true :=
  forall_isNameChar (fun character => isNameChar character.toLower = true)
    (by decide) nameChar

theorem IsNameText.map_toLower {text : List Char} (isName : IsNameText text) :
    IsNameText (text.map Char.toLower) := by
  refine ⟨?_, ?_⟩
  · intro empty
    exact isName.1 (List.map_eq_nil_iff.mp empty)
  · intro lowered member
    obtain ⟨character, written, rfl⟩ := List.mem_map.mp member
    exact Token.isNameChar_toLower (isName.2 character written)

namespace Element

structure IsNamed (element : Element) : Prop where
  tag : IsNameText element.tag.toList
  id : ∀ id ∈ element.id, IsNameText id.toList
  classes : ∀ kind ∈ element.classes, IsNameText kind.toList

/-- A head is named if the names it was read from are. -/
theorem isNamed_of_readHead? {tokens rest : List Token} {head : Element}
    (writable : ∀ token ∈ tokens, token.Writable)
    (read : readHead? tokens = some (head, rest)) : head.IsNamed := by
  obtain ⟨tag, attributes, qualifiers, rfl, _, rfl⟩ :=
    Form.exists_of_readHead? read
  have tagIsName : IsNameText tag := writable (.name tag) List.mem_cons_self
  have qualifierIsName :
      ∀ qualifier ∈ qualifiers, IsNameText qualifier.name := by
    intro qualifier member
    have named := Qualifier.name_mem_tokens member
    exact writable (.name qualifier.name) (by simp [named])
  refine ⟨?_, ?_, ?_⟩
  · rw [String.toList_ofList, Text.lowerCase_of_isNameText tagIsName.2]
    exact tagIsName.map_toLower
  · intro id given
    obtain ⟨name, found, rfl⟩ := Option.map_eq_some_iff.mp given
    obtain ⟨qualifier, member, isId⟩ := List.exists_of_findSome?_eq_some found
    rw [String.toList_ofList]
    cases qualifier with
    | id other =>
        rw [← Option.some.inj isId]
        exact qualifierIsName _ member
    | style other => contradiction
  · intro kind given
    obtain ⟨name, found, rfl⟩ := List.mem_map.mp given
    obtain ⟨qualifier, member, isStyle⟩ := List.mem_filterMap.mp found
    rw [String.toList_ofList]
    cases qualifier with
    | id other => contradiction
    | style other =>
        rw [← Option.some.inj isStyle]
        exact qualifierIsName _ member

theorem isNamed_of_read? {text : List Char} {element : Element}
    (read : read? text = some element) : element.IsNamed := by
  unfold read? at read
  split at read
  · rename_i tokens tokensRead
    obtain ⟨_, writable, _⟩ := Token.readAll?_eq_some_iff.mp tokensRead
    unfold ofTokens? at read
    split at read
    · contradiction
    · rename_i head rest headRead
      have named := isNamed_of_readHead? writable headRead
      dsimp only at read
      split at read
      · contradiction
      · rw [← Option.some.inj read]
        exact ⟨named.tag, named.id, named.classes⟩
  · contradiction

theorem isNamed_of_readOpener? {line : List Char} {head : Element}
    (read : readOpener? line = some head) : head.IsNamed := by
  unfold readOpener? at read
  split at read
  · rename_i tokens tokensRead
    obtain ⟨_, writable, _⟩ := Token.readAll?_eq_some_iff.mp tokensRead
    unfold openerOfTokens? at read
    split at read
    · rename_i described headRead
      rw [← Option.some.inj read]
      exact isNamed_of_readHead? writable headRead
    · contradiction
  · contradiction

end Element

end TerseMarkup
