import TerseMarkup.Proofs.Html.Tags

/-!
# Escaping as an encoding

No character is written as the start of what another one is written as, so
that a text can be read back from its escaped form, also if it looks like
references itself. In an escaped text the five special characters are gone,
except for the ampersands at the start of references.
-/

namespace TerseMarkup.Html

/-- The characters that mean something in HTML. -/
def specials : List Char := ['&', '<', '>', '"', '\'']

def references : List (List Char) :=
  ["&amp;".toList, "&lt;".toList, "&gt;".toList, "&quot;".toList,
    "&#039;".toList]

/-! ## One character -/

theorem eq_of_mem_specials {character : Char}
    (special : character ∈ specials) :
    character = '&' ∨ character = '<' ∨ character = '>' ∨
      character = '"' ∨ character = '\'' := by
  simpa [specials] using special

theorem escapeChar_of_not_mem {character : Char}
    (plain : character ∉ specials) : escapeChar character = [character] := by
  unfold escapeChar
  split <;> simp_all [specials]

/-- A reference has its only ampersand in front. -/
theorem escapeChar_of_mem {character : Char}
    (special : character ∈ specials) :
    escapeChar character ∈ references ∧
      ∃ name, name ≠ [] ∧ '&' ∉ name ∧ escapeChar character = '&' :: name := by
  rcases eq_of_mem_specials special with rfl | rfl | rfl | rfl | rfl
  · exact ⟨by decide, "amp;".toList, by decide, by decide, rfl⟩
  · exact ⟨by decide, "lt;".toList, by decide, by decide, rfl⟩
  · exact ⟨by decide, "gt;".toList, by decide, by decide, rfl⟩
  · exact ⟨by decide, "quot;".toList, by decide, by decide, rfl⟩
  · exact ⟨by decide, "#039;".toList, by decide, by decide, rfl⟩

theorem escapeChar_ne_nil (character : Char) : escapeChar character ≠ [] := by
  by_cases special : character ∈ specials
  · obtain ⟨_, name, _, _, written⟩ := escapeChar_of_mem special
    rw [written]
    exact List.cons_ne_nil _ _
  · rw [escapeChar_of_not_mem special]
    exact List.cons_ne_nil _ _

theorem escapeChar_prefixFree_of_mem {first second : Char}
    (firstSpecial : first ∈ specials) (secondSpecial : second ∈ specials)
    (starts : escapeChar first <+: escapeChar second) : first = second := by
  rcases eq_of_mem_specials firstSpecial with rfl | rfl | rfl | rfl | rfl <;>
    rcases eq_of_mem_specials secondSpecial with rfl | rfl | rfl | rfl | rfl <;>
    simp_all [escapeChar]

/-- No character is written as the start of what another one is written
as. -/
theorem escapeChar_prefixFree {first second : Char}
    (starts : escapeChar first <+: escapeChar second) : first = second := by
  by_cases firstSpecial : first ∈ specials
  · by_cases secondSpecial : second ∈ specials
    · exact escapeChar_prefixFree_of_mem firstSpecial secondSpecial starts
    · obtain ⟨_, name, nonempty, _, written⟩ := escapeChar_of_mem firstSpecial
      rw [written, escapeChar_of_not_mem secondSpecial] at starts
      obtain ⟨_, later⟩ := List.cons_prefix_cons.mp starts
      exact absurd (List.prefix_nil.mp later) nonempty
  · rw [escapeChar_of_not_mem firstSpecial] at starts
    by_cases secondSpecial : second ∈ specials
    · obtain ⟨_, name, _, _, written⟩ := escapeChar_of_mem secondSpecial
      rw [written] at starts
      obtain ⟨rfl, _⟩ := List.cons_prefix_cons.mp starts
      exact absurd (by decide : '&' ∈ specials) firstSpecial
    · rw [escapeChar_of_not_mem secondSpecial] at starts
      exact (List.cons_prefix_cons.mp starts).1

/-- An ampersand in what a character is written as stands in front of a
reference. -/
theorem ampersand_first {character : Char} {before after : List Char}
    (written : escapeChar character = before ++ '&' :: after) :
    before = [] ∧ escapeChar character ∈ references := by
  by_cases special : character ∈ specials
  · obtain ⟨isReference, name, _, nowhereElse, shape⟩ :=
      escapeChar_of_mem special
    refine ⟨?_, isReference⟩
    cases before with
    | nil => rfl
    | cons first more =>
        rw [written, List.cons_append] at shape
        have inName : '&' ∈ name := by
          rw [← (List.cons.inj shape).2]
          exact List.mem_append_right more List.mem_cons_self
        exact absurd inName nowhereElse
  · rw [escapeChar_of_not_mem special] at written
    have isAmpersand : '&' ∈ [character] := by
      rw [written]
      exact List.mem_append_right before List.mem_cons_self
    rw [← List.mem_singleton.mp isAmpersand] at special
    exact absurd (by decide) special

/-! ## Texts -/

theorem escapeChars_cons (character : Char) (rest : List Char) :
    escapeChars (character :: rest) =
      escapeChar character ++ escapeChars rest :=
  List.flatMap_cons

theorem escapeChars_injective {first second : List Char}
    (same : escapeChars first = escapeChars second) : first = second := by
  induction first generalizing second with
  | nil =>
      cases second with
      | nil => rfl
      | cons character rest =>
          rw [escapeChars_nil, escapeChars_cons] at same
          exact absurd (List.append_eq_nil_iff.mp same.symm).1
            (escapeChar_ne_nil character)
  | cons character rest inductionHypothesis =>
      cases second with
      | nil =>
          rw [escapeChars_nil, escapeChars_cons] at same
          exact absurd (List.append_eq_nil_iff.mp same).1
            (escapeChar_ne_nil character)
      | cons other others =>
          rw [escapeChars_cons, escapeChars_cons] at same
          have sameCharacter : character = other := by
            have otherStarts : escapeChar other <+:
                escapeChar character ++ escapeChars rest := by
              rw [same]
              exact List.prefix_append _ _
            rcases List.prefix_or_prefix_of_prefix
                (List.prefix_append _ _) otherStarts with starts | starts
            · exact escapeChar_prefixFree starts
            · exact (escapeChar_prefixFree starts).symm
          rw [sameCharacter, List.append_cancel_left_eq] at same
          rw [sameCharacter, inductionHypothesis same]

theorem length_le_length_escapeChars (text : List Char) :
    text.length ≤ (escapeChars text).length := by
  induction text with
  | nil => exact Nat.le_refl 0
  | cons character rest inductionHypothesis =>
      have nonempty : 0 < (escapeChar character).length :=
        List.length_pos_of_ne_nil (escapeChar_ne_nil character)
      rw [escapeChars_cons, List.length_append, List.length_cons]
      omega

theorem escapeChars_eq_self_iff {text : List Char} :
    escapeChars text = text ↔
      ∀ character ∈ text, character ∉ specials := by
  induction text with
  | nil => simp
  | cons character rest inductionHypothesis =>
      rw [escapeChars_cons, List.forall_mem_cons, ← inductionHypothesis]
      by_cases special : character ∈ specials
      · obtain ⟨_, name, nonempty, _, written⟩ := escapeChar_of_mem special
        have nameLength := List.length_pos_of_ne_nil nonempty
        have restLength := length_le_length_escapeChars rest
        constructor
        · -- A reference makes the text longer.
          intro same
          have sameLength := congrArg List.length same
          rw [written, List.length_append, List.length_cons,
            List.length_cons] at sameLength
          omega
        · intro plain
          exact absurd special plain.1
      · rw [escapeChar_of_not_mem special, List.singleton_append,
          List.cons.injEq]
        simp [special]

/-- Every ampersand of an escaped text starts a reference. -/
theorem reference_prefix_of_ampersand {text before after : List Char}
    (place : escapeChars text = before ++ '&' :: after) :
    ∃ reference ∈ references, reference <+: '&' :: after := by
  induction text generalizing before with
  | nil => simp at place
  | cons character rest inductionHypothesis =>
      rw [escapeChars_cons] at place
      rcases List.append_eq_append_iff.mp place with
        ⟨passed, _, later⟩ | ⟨inside, written, later⟩
      · exact inductionHypothesis later
      · cases inside with
        | nil =>
            have next : escapeChars rest = [] ++ '&' :: after := later.symm
            exact inductionHypothesis next
        | cons sign others =>
            obtain ⟨rfl, behind⟩ := List.cons.inj later
            obtain ⟨rfl, isReference⟩ := ampersand_first written
            refine ⟨escapeChar character, isReference, ?_⟩
            rw [written, behind]
            exact List.prefix_append _ _

/-- Escaping goes through a text piece by piece, no two texts have the same
escaped form, and what it yields has no special character except for the
ampersands of references. The texts without special characters are those that
stay as they are. -/
theorem escape_safe_injective (first second : String) :
    escape (first ++ second) = escape first ++ escape second ∧
      (escape first = escape second → first = second) ∧
      (∀ character ∈ (escape first).toList,
        character ∉ ['<', '>', '"', '\'']) ∧
      (∀ before after, (escape first).toList = before ++ '&' :: after →
        ∃ reference ∈ references, reference <+: '&' :: after) ∧
      (escape first = first ↔
        ∀ character ∈ first.toList, character ∉ specials) := by
  refine ⟨?_, ?_, ?_, ?_, ?_⟩
  · apply String.toList_injective
    rw [toList_escape, String.toList_append, String.toList_append,
      escapeChars_append, toList_escape, toList_escape]
  · intro same
    apply String.toList_injective
    apply escapeChars_injective
    rw [← toList_escape, ← toList_escape, same]
  · intro character member isSign
    rw [toList_escape] at member
    have signless := List.filter_eq_nil_iff.mp
      (markupSigns_escapeChars first.toList) character member
    exact signless (List.contains_iff_mem.mpr isSign)
  · intro before after place
    rw [toList_escape] at place
    exact reference_prefix_of_ampersand place
  · rw [← escapeChars_eq_self_iff, ← toList_escape, String.toList_inj]

example : escape "<&lt;" = "&lt;&amp;lt;" := by
  decide

end TerseMarkup.Html
