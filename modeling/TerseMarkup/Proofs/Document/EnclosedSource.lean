import TerseMarkup.Proofs.Document.OneLine
import TerseMarkup.Proofs.Document.Sequence
import TerseMarkup.Proofs.Element.Grammar
import TerseMarkup.Proofs.Limits

/-!
# A source inside of a block

A source that opens and closes its blocks evenly can be put inside of a block.
It is then compiled as it is by itself, one line further down, and its HTML
stands between the tags of the block. The source may have comments or tokens
in it that are reported, also comments that are never closed.
-/

namespace TerseMarkup

/-- Over every initial stretch of the lines no more blocks are closed than
opened, and over all of them as many. -/
structure Cursor.Balanced (lines : List Line) : Prop where
  nonnegative : ∀ initial, initial <+: lines → closes initial ≤ opens initial
  total : closes lines = opens lines

theorem Cursor.Balanced.isBody {lines : List Line} (balanced : Balanced lines) :
    IsBody 0 lines closingLine where
  closing := by decide
  level := balanced.total
  staysOpen := balanced.nonnegative

/-- The opener, the source and a closing line, each on lines of their own. -/
def enclosedSource (opener : List Char) (source : String) : String :=
  String.ofList opener ++ "\n" ++ source ++ "\n" ++ String.ofList closingLine

/-! ## The opener -/

/-- A line without comment that opens a block with the given head. -/
structure IsPlainOpener (opener : Line) (head : Element) : Prop where
  oneLine : '\n' ∉ opener
  uncommented : Comment.strip opener = opener
  opens : Element.readOpener? opener = some head

namespace IsPlainOpener

variable {opener : Line} {head : Element} (isOpener : IsPlainOpener opener head)

include isOpener

theorem ne_nil : opener ≠ [] := by
  obtain ⟨initial, rfl⟩ := Form.suffix_of_readOpener? isOpener.opens
  simp

theorem isPlain : opener.IsPlain where
  oneLine := isOpener.oneLine
  visible := isOpener.ne_nil
  uncommented := isOpener.uncommented

theorem sourceLines_enclosed (source : String) :
    sourceLines (enclosedSource opener source).toList =
      opener :: (sourceLines source.toList ++ [closingLine]) := by
  have text : (enclosedSource opener source).toList =
      opener ++ '\n' :: (source.toList ++ '\n' :: closingLine) := by
    simp [enclosedSource]
  have closing : sourceLines closingLine = [closingLine] :=
    sourceLines_of_not_mem (by decide) (by decide)
  rw [text, sourceLines_append, sourceLines_append, isOpener.isPlain.sourceLines_eq,
    closing, List.singleton_append]

/-- An enclosed source is one block. -/
theorem parse_enclosed (options : Options) {source : String}
    (balanced : Cursor.Balanced (sourceLines source.toList)) :
    Document.parse options (enclosedSource opener source) =
      { document :=
          [(Cursor.parseBlock options 0 1 head
            ⟨2, sourceLines source.toList⟩).1]
        diagnostics :=
          (Cursor.parseBlock options 0 1 head
            ⟨2, sourceLines source.toList⟩).2 } := by
  have taken :
      (Cursor.mk 2 (sourceLines source.toList ++ [closingLine])).takeBody? =
        some (⟨2, sourceLines source.toList⟩,
          ⟨2 + (sourceLines source.toList).length + 1, []⟩) :=
    Cursor.takeBody?_of_isBody balanced.isBody
  have nothing : Cursor.parse options 0
      ⟨2 + (sourceLines source.toList).length + 1, []⟩ = {} :=
    Cursor.parse_of_nothing rfl
  rw [Document.parse, isOpener.sourceLines_enclosed,
    Cursor.parse_of_block (isOpener.isPlain.next_cons 1 _) isOpener.opens taken,
    nothing, List.append_nil]

end IsPlainOpener

/-! ## The body -/

/-- The body of a block in which no limit is reported is read as if no block
were around it. -/
theorem Cursor.parseBlock_of_noLimits
    {options : Options} {line : Nat} {head : Element} {lines : List Line}
    (notVerbatim : head.isVerbatim = false) (notRaw : head.isRaw = false)
    (noLimits :
      NoLimits (parseBlock options 0 line head ⟨2, lines⟩).2) :
    parseBlock options 0 line head ⟨2, lines⟩ =
      (.markup line head
          (Node.shiftAll 1 (Cursor.parse options 0 ⟨1, lines⟩).document),
        (Cursor.parse options 0 ⟨1, lines⟩).diagnostics.map
          (Diagnostic.shift 1)) := by
  have shifted : Cursor.parse options 0 ⟨2, lines⟩ =
      (Cursor.parse options 0 ⟨1, lines⟩).shift 1 :=
    parse_shift options 1 0 ⟨1, lines⟩
  have noText : ¬ head.isVerbatim = true := by simp [notVerbatim]
  have noRaw : ¬ head.isRaw = true := by simp [notRaw]
  by_cases tooDeep : options.maxBlockDepth < 0 + 1
  · rw [parseBlock_of_tooDeep noText noRaw tooDeep] at noLimits
    exact absurd rfl (noLimits _ List.mem_cons_self)
  · rw [parseBlock_of_markup noText noRaw tooDeep] at noLimits ⊢
    have outermost : Cursor.parse options 0 ⟨2, lines⟩ =
        Cursor.parse options (0 + 1) ⟨2, lines⟩ :=
      room_invariant.parsed (0 + 1) ⟨2, lines⟩ 0 (by omega) noLimits
    rw [← outermost, shifted]
    rfl

theorem Document.demand_le_of_noLimits
    {options : Options} {document : Document}
    (noLimits : NoLimits (document.render options).2) :
    document.demand options ≤ options.maxElements := by
  have silent : (document.render options).2 = [] :=
    eq_nil_of_noLimits noLimits
      (Node.renderAll_onlyLimits options document _)
  apply Document.demand_le_of_unreported
  intro diagnostic member
  rw [silent] at member
  contradiction

/-- The HTML of a block whose body the budget holds with it. -/
theorem Document.html_render_block
    {options : Options} {line offset : Nat} {head : Element}
    {body : Document}
    (noLimits : NoLimits (Document.render options
      [.markup line head (Node.shiftAll offset body)]).2) :
    (Document.render options
        [.markup line head (Node.shiftAll offset body)]).1 =
      "<" ++ head.tag ++ head.headAttributes ++ ">\n" ++
        (Document.render options body).1 ++ "</" ++ head.tag ++ ">\n" := by
  have enough := Document.demand_le_of_noLimits noLimits
  have total : Document.demand options
      [.markup line head (Node.shiftAll offset body)] =
        1 + Document.demand options body := by
    unfold Document.demand
    rw [Node.demandAll, Node.demand, Node.demandAll, Node.demandAll_shift,
      Nat.add_zero]
  have bodyEnough : Document.demand options body ≤ options.maxElements := by
    omega
  rw [Document.render_of_le enough, Document.render_of_le bodyEnough,
    Node.expansionAll, Node.expansion, Node.expansionAll,
    Node.expansionAll_shift, List.append_nil, Fragment.htmlAll_cons,
    Fragment.htmlAll_nil, String.append_empty, Fragment.html_block]

/-- A balanced source inside of a block is compiled as a document of its own,
as long as no limit is reported: its HTML stands between the tags of the
block, and its reports are one line further down. -/
theorem Document.render_enclosed
    (options : Options) (evaluator : Evaluator) (opener : List Char)
    (head : Element) (source : String)
    (oneLine : '\n' ∉ opener) (uncommented : Comment.strip opener = opener)
    (opens : Element.readOpener? opener = some head)
    (isMarkup : head.tag ∉ ["raw", "script", "style", "html"])
    (balanced : Cursor.Balanced (sourceLines source.toList))
    (noLimits : ∀ diagnostic ∈
      (compile options evaluator (enclosedSource opener source)).diagnostics,
        diagnostic.kind ≠ .limit) :
    (Document.render options (Document.parse options
        (enclosedSource opener source)).document).1 =
      "<" ++ head.tag ++ head.headAttributes ++ ">\n" ++
        (Document.render options (Document.parse options source).document).1 ++
        "</" ++ head.tag ++ ">\n" ∧
    (Document.parse options (enclosedSource opener source)).diagnostics =
      (Document.parse options source).diagnostics.map
        (Diagnostic.shift 1) := by
  have isOpener : IsPlainOpener opener head := ⟨oneLine, uncommented, opens⟩
  have notRaw : head.isRaw = false := by
    rw [Element.isRaw, beq_eq_false_iff_ne]
    intro isRaw
    exact isMarkup (by rw [isRaw]; decide)
  have notVerbatim : head.isVerbatim = false := by
    rw [Element.isVerbatim, List.contains_eq_mem, decide_eq_false_iff_not]
    intro isVerbatim
    exact isMarkup (List.mem_cons_of_mem _ isVerbatim)
  obtain ⟨withoutExpressions, _⟩ := noLimits_append.mp noLimits
  obtain ⟨readLimits, renderLimits⟩ := noLimits_append.mp withoutExpressions
  rw [isOpener.parse_enclosed options balanced] at readLimits
  have block := Cursor.parseBlock_of_noLimits notVerbatim notRaw readLimits
  have whole := isOpener.parse_enclosed options balanced
  rw [block] at whole
  have fits : NoLimits (Document.render options
      (Document.parse options (enclosedSource opener source)).document).2 :=
    renderLimits
  rw [whole] at fits ⊢
  exact ⟨Document.html_render_block fits, rfl⟩

/-- The opener has a quoted `#`, the source a block of its own, a token that
is no element and a comment that is never closed. -/
theorem Document.render_enclosed_unclosed :
    let opener := "div[title='a # b']#x.y\\\x7b".toList
    let source := "p\\\x7b\n? > b*2\n\\\x7d\n#\x7b\nopen"
    (Document.render {} (Document.parse {}
        (enclosedSource opener source)).document).1 =
      "<div title='a # b' id=\"x\" class=\"y\">\n" ++
        (Document.render {} (Document.parse {} source).document).1 ++
        "</div>\n" ∧
    (Document.parse {} (enclosedSource opener source)).diagnostics =
      [(Fault.grammar "?" 3).diagnostic,
        (Fault.unclosedComment 5).diagnostic] := by
  intro opener source
  let head : Element :=
    { tag := "div", attributes := "title='a # b'", id := some "x",
      classes := ["y"] }
  have opens : Element.readOpener? opener = some head := by decide +kernel
  have staysOpen : Cursor.StaysOpen 0 (sourceLines source.toList) :=
    Cursor.splitBody_eq_none_iff.mp (by decide +kernel)
  have balanced : Cursor.Balanced (sourceLines source.toList) :=
    ⟨staysOpen, by decide +kernel⟩
  obtain ⟨html, reports⟩ := Document.render_enclosed {} .unavailable
    opener head source (by decide +kernel) (by decide +kernel) opens
    (by decide +kernel) balanced (by decide +kernel)
  rw [html, reports]
  decide +kernel

end TerseMarkup
