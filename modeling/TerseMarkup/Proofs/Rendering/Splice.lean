import TerseMarkup.Proofs.Html.Writing
import TerseMarkup.Proofs.Rendering.Emission

/-!
# Chains put inside of another one

The further chains of a line are put into the tree of the first one, as the
last children of the last copy of its outermost element. In the text this is
an insertion before the last closing tag of that element.
-/

namespace TerseMarkup

/-! ## The last place of a word -/

/-- The text has the word between `before` and `after`, and the word stands
nowhere further back in it. -/
structure LastPlace (word text before after : String) : Prop where
  split : text = before ++ word ++ after
  last : ∀ earlier later : String,
    text = earlier ++ word ++ later → earlier.length ≤ before.length

/-- A word that does not start with two equal characters cannot be moved back
by one place. -/
theorem length_le_of_append_eq {first second last : Char}
    {word before earlier later : List Char} (different : second ≠ first)
    (same : before ++ (first :: second :: word ++ [last]) =
      earlier ++ (first :: second :: word ++ later)) :
    earlier.length ≤ before.length := by
  rcases List.append_eq_append_iff.mp same with
    ⟨between, longer, shifted⟩ | ⟨between, longer, _⟩
  · cases between with
    | nil => simp [longer]
    | cons moved others =>
        have sameLength := congrArg List.length shifted
        simp only [List.length_append, List.length_cons, List.length_nil]
          at sameLength
        have noOthers : others = [] := List.eq_nil_of_length_eq_zero (by omega)
        subst noOthers
        simp only [List.cons_append, List.nil_append, List.cons.injEq]
          at shifted
        exact absurd shifted.2.1 different
  · simp [longer]

theorem lastPlace_closing (before tag : String) :
    LastPlace ("</" ++ tag ++ ">") (before ++ ("</" ++ tag ++ ">") ++ "\n")
      before "\n" where
  split := rfl
  last := by
    intro earlier later same
    have characters :
        before.toList ++ ('<' :: '/' :: (tag.toList ++ ['>']) ++ ['\n']) =
          earlier.toList ++
            ('<' :: '/' :: (tag.toList ++ ['>']) ++ later.toList) := by
      simpa using congrArg String.toList same
    have bound := length_le_of_append_eq (by decide) characters
    rwa [String.length_toList, String.length_toList] at bound

/-! ## The last copy of an element -/

namespace Fragment

/-- The text of fragments before the closing tag of the last one. -/
def openText (before : List Fragment) (tag attributes content : String)
    (children : List Fragment) : String :=
  htmlAll before ++ "<" ++ tag ++ attributes ++ ">" ++ content ++
    (if children = [] then "" else "\n" ++ htmlAll children)

theorem htmlAll_concat_element (before : List Fragment)
    (tag attributes content : String) (children : List Fragment) :
    htmlAll (before ++ [element tag attributes content children]) =
      openText before tag attributes content children ++
        ("</" ++ tag ++ ">") ++ "\n" := by
  rw [htmlAll_append, htmlAll_cons, htmlAll_nil, html_element, openText]
  simp only [String.append_assoc, String.append_empty, String.reduceAppend]

/-- What is put inside of an element comes behind its children, on a line of
its own if it has none. -/
theorem openText_append (before : List Fragment)
    (tag attributes content : String) (children inserted : List Fragment) :
    openText before tag attributes content (children ++ inserted) =
      openText before tag attributes content children ++
        (if children = [] ∧ inserted ≠ [] then "\n" else "") ++
        htmlAll inserted := by
  unfold openText
  cases children with
  | nil =>
      cases inserted with
      | nil => simp
      | cons fragment rest => simp [String.append_assoc]
  | cons child others => simp [String.append_assoc]

theorem insertLast_concat_element (before : List Fragment)
    (tag attributes content : String) (children inserted : List Fragment) :
    insertLast (before ++ [element tag attributes content children]) inserted =
      before ++ [element tag attributes content (children ++ inserted)] := by
  unfold insertLast
  rw [List.getLast?_concat, List.dropLast_concat]

/-- Putting fragments inside of the last element is putting their text before
its closing tag. -/
theorem htmlAll_insertLast (before : List Fragment)
    (tag attributes content : String) (children inserted : List Fragment) :
    htmlAll
        (insertLast (before ++ [element tag attributes content children])
          inserted) =
      openText before tag attributes content children ++
        (if children = [] ∧ inserted ≠ [] then "\n" else "") ++
        htmlAll inserted ++ ("</" ++ tag ++ ">") ++ "\n" := by
  rw [insertLast_concat_element, htmlAll_concat_element, openText_append]

end Fragment

/-- The copies of an element that is not raw are elements with its tag. -/
theorem Element.exists_of_mem_render {options : Options} {line : Nat}
    {element : Element} {children : List Fragment} {budget : Budget}
    {fragment : Fragment} (notRaw : element.isRaw = false)
    (member :
      fragment ∈ (element.render options line children budget).value) :
    ∃ index, fragment =
      .element element.tag (element.attributesAt index)
        (element.contentAt index) children := by
  obtain ⟨index, _, copied⟩ := List.mem_flatMap.mp member
  unfold Element.copyAt at copied
  simp only [notRaw, Bool.false_eq_true, if_false, List.mem_singleton]
    at copied
  exact ⟨index, copied⟩

namespace Chain

theorem encloses_iff {parent : Chain} :
    parent.encloses = true ↔
      2 ≤ parent.length ∧ ∃ element,
        parent.head? = some (.element element) ∧ element.isRaw = false := by
  unfold encloses
  split
  · simp
  · rename_i other
    simp only [Bool.false_eq_true, false_iff, not_and, not_exists]
    intro several element starts
    match parent, several, starts with
    | link :: next :: rest, _, starts =>
        obtain rfl := Option.some.inj starts
        exact absurd rfl (other element next rest)

/-- If a chain that starts with an element gives anything, it gives a copy of
that element last. -/
theorem exists_render_eq_concat {options : Options} {line : Nat}
    {parent : Chain} {budget : Budget} {element : Element}
    (starts : parent.head? = some (.element element))
    (notRaw : element.isRaw = false)
    (nonempty : (Chain.render options line parent budget).value ≠ []) :
    ∃ before attributes content children,
      (Chain.render options line parent budget).value =
        before ++ [.element element.tag attributes content children] := by
  cases parent with
  | nil => contradiction
  | cons link rest =>
      obtain rfl := Option.some.inj starts
      obtain ⟨index, last⟩ :=
        Element.exists_of_mem_render notRaw (List.getLast_mem nonempty)
      have split := List.dropLast_concat_getLast nonempty
      rw [last] at split
      exact ⟨_, _, _, _, split.symm⟩

/-- A line of several chains is made of as many nodes as its chains. Where the
first chain has a second link, starts with an element that is not raw and
gives anything, the last fragment it gives is that element, and the text of
the other chains stands before its closing tag, which is the last one of that
name, on a new line if the element has nothing else inside. In every other
case the text of the other chains comes behind that of the first one. -/
theorem renderSiblings_splice (options : Options) (line : Nat)
    (parent : Chain) (others : List Chain) (budget : Budget) :
    let outer := Chain.render options line parent budget
    let inserted := Chain.renderAll options line others outer.budget
    let joined := Chain.renderSiblings options line parent others budget
    Fragment.sizeAll joined.value =
        Fragment.sizeAll outer.value + Fragment.sizeAll inserted.value ∧
      (∀ element : Element, 2 ≤ parent.length →
        parent.head? = some (.element element) → element.isRaw = false →
        outer.value ≠ [] →
        ∃ attributes content children before after,
          outer.value.getLast? =
              some (.element element.tag attributes content children) ∧
            LastPlace ("</" ++ element.tag ++ ">")
              (Fragment.htmlAll outer.value) before after ∧
            Fragment.htmlAll joined.value =
              before ++
                (if children = [] ∧ inserted.value ≠ [] then "\n" else "") ++
                Fragment.htmlAll inserted.value ++
                ("</" ++ element.tag ++ ">") ++ after) ∧
      ((¬ ∃ element : Element, 2 ≤ parent.length ∧
          parent.head? = some (.element element) ∧ element.isRaw = false ∧
          outer.value ≠ []) →
        Fragment.htmlAll joined.value =
          Fragment.htmlAll outer.value ++ Fragment.htmlAll inserted.value) := by
  intro outer inserted joined
  have value : joined.value =
      if parent.encloses then Fragment.insertLast outer.value inserted.value
      else outer.value ++ inserted.value := rfl
  refine ⟨?size, ?inside, ?behind⟩
  case size =>
    rw [value]
    split
    · exact Fragment.sizeAll_insertLast _ _
    · exact Fragment.sizeAll_append _ _
  case inside =>
    intro element several starts notRaw nonempty
    have encloses : parent.encloses = true :=
      encloses_iff.mpr ⟨several, element, starts, notRaw⟩
    obtain ⟨before, attributes, content, children, split⟩ :=
      exists_render_eq_concat starts notRaw nonempty
    have outerSplit : outer.value = before ++
      [.element element.tag attributes content children] := split
    rw [value, if_pos encloses, outerSplit]
    refine ⟨attributes, content, children,
      Fragment.openText before element.tag attributes content children, "\n",
      List.getLast?_concat, ?_, Fragment.htmlAll_insertLast _ _ _ _ _ _⟩
    rw [Fragment.htmlAll_concat_element]
    exact lastPlace_closing _ element.tag
  case behind =>
    intro other
    rw [value]
    split
    · rename_i encloses
      obtain ⟨several, element, starts, notRaw⟩ := encloses_iff.mp encloses
      have nothing : outer.value = [] :=
        Classical.byContradiction fun nonempty =>
          other ⟨element, several, starts, notRaw, nonempty⟩
      rw [nothing, ← Fragment.htmlAll_append]
      rfl
    · exact Fragment.htmlAll_append _ _

/-- Nothing is inside of the last copy, and the budget cuts off what is put
there. -/
theorem renderSiblings_splice_childless :
    let parent : Chain :=
      [.element { tag := "ul", id := some "l", count := 2 },
        .element { tag := "raw" }]
    let others : List Chain := [[.element { tag := "li", count := 9 }]]
    let outer := Chain.render {} 1 parent (.full 4)
    outer.value ≠ [] ∧
      ∃ before after,
        LastPlace "</ul>" (Fragment.htmlAll outer.value) before after ∧
          Fragment.htmlAll
              (Chain.renderSiblings {} 1 parent others (.full 4)).value =
            before ++ "\n" ++ "<li></li>\n" ++ "</ul>" ++ after := by
  intro parent others outer
  have nonempty : outer.value ≠ [] := List.cons_ne_nil _ _
  obtain ⟨attributes, content, children, before, after, last, place, text⟩ :=
    (Chain.renderSiblings_splice {} 1 parent others (.full 4)).2.1
      { tag := "ul", id := some "l", count := 2 } (by decide) rfl rfl nonempty
  have childless : children = [] := by
    have shape : outer.value.getLast? =
        some (.element "ul" " id=\"l\"" "" []) := by
      rfl
    have same := Option.some.inj (last.symm.trans shape)
    exact (Fragment.element.inj same).2.2.2
  have insertedText : Fragment.htmlAll
      (Chain.renderAll {} 1 others outer.budget).value = "<li></li>\n" := by
    decide +kernel
  have someInserted :
      (Chain.renderAll {} 1 others outer.budget).value ≠ [] := by
    decide
  refine ⟨nonempty, before, after, place, ?_⟩
  rw [text, insertedText, if_pos ⟨childless, someInserted⟩]
  rfl

end Chain

end TerseMarkup
