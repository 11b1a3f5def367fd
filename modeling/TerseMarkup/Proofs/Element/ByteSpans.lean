import TerseMarkup.Proofs.Element.Tokens

/-!
# Where tokens stand

The tokens of a text stand one behind the other from its first byte to its
last one, and each of them is what the text has between its two offsets, which
never fall inside of a character. Written tokens are read as these tokens
exactly if each of them can be written and no two names stand side by side.
-/

namespace TerseMarkup.Token

/-- The offsets of the token fall between characters of the text, and what
stands between them is the token as it is written. -/
def Placed.IsSliceOf (text : String) (placed : Placed) : Prop :=
  ∃ start stop : text.Pos,
    start.offset.byteIdx = placed.start ∧
      stop.offset.byteIdx = placed.stop ∧
      text.extract start stop = String.ofList placed.token.written

/-- The tokens stand one behind the other and fill the text. -/
structure Fills (text : String) (placed : List Placed) : Prop where
  first : ∀ item ∈ placed.head?, item.start = 0
  adjacent : placed.IsChain fun left right => left.stop = right.start
  last : ∀ item ∈ placed.getLast?, item.stop = text.utf8ByteSize
  slices : ∀ item ∈ placed, item.IsSliceOf text
  whole : String.ofList (placed.flatMap fun item => item.token.written) = text

/-! ## Bytes -/

theorem utf8ByteSize_ofList (text : List Char) :
    (String.ofList text).utf8ByteSize = byteSize text := by
  induction text with
  | nil => rfl
  | cons character rest inductionHypothesis =>
      rw [String.ofList_cons, String.utf8ByteSize_append,
        String.utf8ByteSize_singleton, inductionHypothesis]
      rfl

theorem byteSize_append (first second : List Char) :
    byteSize (first ++ second) = byteSize first + byteSize second := by
  rw [← utf8ByteSize_ofList, String.ofList_append, String.utf8ByteSize_append,
    utf8ByteSize_ofList, utf8ByteSize_ofList]

theorem extract_toByteArray_append (before inside after : String) :
    (before ++ (inside ++ after)).toByteArray.extract before.utf8ByteSize
        (before.utf8ByteSize + inside.utf8ByteSize) =
      inside.toByteArray := by
  have nothing : before.toByteArray.extract before.toByteArray.size
      (before.toByteArray.size + inside.toByteArray.size) = .empty := by
    rw [ByteArray.extract_eq_empty_iff]
    exact Nat.min_le_right _ _
  rw [String.toByteArray_append, String.toByteArray_append,
    ← String.size_toByteArray, ← String.size_toByteArray,
    ByteArray.extract_append, nothing, ByteArray.empty_append,
    Nat.sub_self, Nat.add_sub_cancel_left,
    ByteArray.extract_append_eq_left rfl]

theorem exists_extract_append (before inside after : String) :
    ∃ start stop : (before ++ (inside ++ after)).Pos,
      start.offset.byteIdx = before.utf8ByteSize ∧
        stop.offset.byteIdx = before.utf8ByteSize + inside.utf8ByteSize ∧
        (before ++ (inside ++ after)).extract start stop = inside := by
  have startValid : String.Pos.Raw.IsValid (before ++ (inside ++ after))
      ⟨before.utf8ByteSize⟩ :=
    String.Pos.Raw.isValid_iff_exists_append.mpr
      ⟨before, inside ++ after, rfl, rfl⟩
  have stopValid : String.Pos.Raw.IsValid (before ++ (inside ++ after))
      ⟨before.utf8ByteSize + inside.utf8ByteSize⟩ := by
    rw [← String.append_assoc, ← String.utf8ByteSize_append]
    exact String.Pos.Raw.isValid_iff_exists_append.mpr
      ⟨before ++ inside, after, rfl, rfl⟩
  refine ⟨⟨_, startValid⟩, ⟨_, stopValid⟩, rfl, rfl, ?_⟩
  apply String.toByteArray_inj.mp
  rw [String.toByteArray_extract]
  exact extract_toByteArray_append before inside after

theorem Placed.isSliceOf_of_eq_append {text : String} {placed : Placed}
    {before after : List Char}
    (whole : text.toList = before ++ (placed.token.written ++ after))
    (starts : placed.start = byteSize before)
    (stops : placed.stop = placed.start + byteSize placed.token.written) :
    placed.IsSliceOf text := by
  obtain rfl : text = String.ofList before ++
      (String.ofList placed.token.written ++ String.ofList after) := by
    apply String.toList_injective
    rw [whole]
    simp
  obtain ⟨start, stop, isStart, isStop, extracted⟩ :=
    exists_extract_append (String.ofList before)
      (String.ofList placed.token.written) (String.ofList after)
  refine ⟨start, stop, ?_, ?_, extracted⟩
  · rw [isStart, utf8ByteSize_ofList, starts]
  · rw [isStop, utf8ByteSize_ofList, utf8ByteSize_ofList, stops, starts]

/-! ## Places -/

theorem map_token_placeFrom (start : Nat) (tokens : List Token) :
    (placeFrom start tokens).map Placed.token = tokens := by
  induction tokens generalizing start with
  | nil => rfl
  | cons token others inductionHypothesis =>
      rw [placeFrom, List.map_cons, inductionHypothesis]

theorem start_of_head? {start : Nat} {tokens : List Token} {placed : Placed}
    (first : placed ∈ (placeFrom start tokens).head?) :
    placed.start = start := by
  cases tokens with
  | nil => contradiction
  | cons token others => rw [← Option.some.inj first]

theorem isChain_placeFrom (start : Nat) (tokens : List Token) :
    (placeFrom start tokens).IsChain
      fun left right => left.stop = right.start := by
  induction tokens generalizing start with
  | nil => exact List.isChain_nil
  | cons token others inductionHypothesis =>
      refine List.isChain_cons.mpr ⟨?_, inductionHypothesis _⟩
      intro next isNext
      exact (start_of_head? isNext).symm

theorem stop_of_getLast? {start : Nat} {tokens : List Token}
    {placed : Placed} (last : placed ∈ (placeFrom start tokens).getLast?) :
    placed.stop = start + byteSize (tokens.flatMap written) := by
  induction tokens generalizing start with
  | nil => contradiction
  | cons token others inductionHypothesis =>
      rw [List.flatMap_cons, byteSize_append, ← Nat.add_assoc]
      cases others with
      | nil =>
          rw [← Option.some.inj last]
          rfl
      | cons next more => exact inductionHypothesis last

/-- A token stands behind what the tokens before it take up. -/
theorem exists_of_mem_placeFrom {start : Nat} {tokens : List Token}
    {placed : Placed} (member : placed ∈ placeFrom start tokens) :
    ∃ before after,
      tokens = before ++ placed.token :: after ∧
        placed.start = start + byteSize (before.flatMap written) ∧
        placed.stop = placed.start + byteSize placed.token.written := by
  induction tokens generalizing start with
  | nil => contradiction
  | cons token others inductionHypothesis =>
      rcases List.mem_cons.mp member with rfl | later
      · exact ⟨[], others, rfl, rfl, rfl⟩
      · obtain ⟨before, after, split, starts, stops⟩ :=
          inductionHypothesis later
        refine ⟨token :: before, after, ?_, ?_, stops⟩
        · rw [split, List.cons_append]
        · rw [starts, List.flatMap_cons, byteSize_append, Nat.add_assoc]

/-! ## Reading and writing -/

theorem map_token_tokenize? (text : List Char) :
    (tokenize? text).map (List.map Placed.token) = readAll? text := by
  have placed : List.map Placed.token ∘ placeFrom 0 = id :=
    funext (map_token_placeFrom 0)
  rw [tokenize?, Option.map_map, placed, Option.map_id, id_eq]

theorem fills_of_tokenize? {text : String} {placed : List Placed}
    (read : tokenize? text.toList = some placed) : Fills text placed := by
  obtain ⟨tokens, tokensRead, rfl⟩ := Option.map_eq_some_iff.mp read
  obtain ⟨whole, _, _⟩ := readAll?_eq_some_iff.mp tokensRead
  refine ⟨fun _ => start_of_head?, isChain_placeFrom 0 tokens, ?_, ?_, ?_⟩
  · intro item isLast
    rw [stop_of_getLast? isLast, whole, Nat.zero_add, ← utf8ByteSize_ofList,
      String.ofList_toList]
  · intro item member
    obtain ⟨before, after, split, starts, stops⟩ :=
      exists_of_mem_placeFrom member
    rw [Nat.zero_add] at starts
    have itemInside : text.toList = before.flatMap written ++
        (item.token.written ++ after.flatMap written) := by
      rw [← whole, split, List.flatMap_append, List.flatMap_cons]
    exact Placed.isSliceOf_of_eq_append itemInside starts stops
  · have sameText : (placeFrom 0 tokens).flatMap
        (fun item => item.token.written) = tokens.flatMap written := by
      rw [← List.flatMap_map, map_token_placeFrom]
    rw [sameText, whole, String.ofList_toList]

/-- Reading loses nothing: the tokens fill the text, each in its place. It
undoes writing exactly for tokens that can be written and among which no two
names stand side by side. -/
theorem tokenize?_lossless (text : String) (tokens : List Token) :
    (∀ placed, tokenize? text.toList = some placed → Fills text placed) ∧
      ((tokenize? (tokens.flatMap written)).map (List.map Placed.token) =
          some tokens ↔
        (∀ token ∈ tokens, token.Writable) ∧ tokens.IsChain Apart) := by
  refine ⟨fun _ => fills_of_tokenize?, ?_⟩
  rw [map_token_tokenize?, readAll?_eq_some_iff]
  exact and_iff_right rfl

example :
    tokenize? "p[€]{]*é}".toList =
      some [⟨name ['p'], 0, 1⟩, ⟨attributes ['€'], 1, 6⟩,
        ⟨content [']', '*', 'é'], 6, 12⟩] := by
  cbv

end TerseMarkup.Token
