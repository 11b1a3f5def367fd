import TerseMarkup.Proofs.Source.OnePass

/-!
# The pass from left to right

The chains of a line are cut out in two rounds, each with a scan of its own
that starts anew in every part. A pass over the line from left to right, with
one state for the whole line, finds the same: it ends the chain at every `+`
and the token at every `+` and `>` that it meets outside of quotes and braces
and not after a backslash.
-/

namespace TerseMarkup.Combinator

open Enclosure

/-- What a pass over a line has read so far: its quotes and braces, the token,
the tokens of the chain before that, and the chains before that one. -/
structure Pass where
  quote : Option Char := none
  escaped : Bool := false
  depth : Nat := 0
  token : List Char := []
  chain : List (List Char) := []
  ended : List (List (List Char)) := []

namespace Pass

def keep (pass : Pass) (character : Char) : Pass :=
  { pass with token := pass.token ++ [character] }

def endToken (pass : Pass) : Pass :=
  { pass with token := [], chain := pass.chain ++ [pass.token] }

def endChain (pass : Pass) : Pass :=
  { pass with
    token := [], chain := [],
    ended := pass.ended ++ [pass.chain ++ [pass.token]] }

def step (pass : Pass) (character : Char) : Pass :=
  if pass.escaped then { pass.keep character with escaped := false }
  else if character = '\\' then { pass.keep character with escaped := true }
  else
    match pass.quote with
    | some mark =>
        if character = mark then { pass.keep character with quote := none }
        else pass.keep character
    | none =>
        if character = '"' ∨ character = '\'' then
          { pass.keep character with quote := some character }
        else if character = '{' then
          { pass.keep character with depth := pass.depth + 1 }
        else if character = '}' then
          { pass.keep character with depth := pass.depth - 1 }
        else if pass.depth = 0 ∧ character = '+' then pass.endChain
        else if pass.depth = 0 ∧ character = '>' then pass.endToken
        else pass.keep character

end Pass

/-- The chains of a line as one pass finds them: the tokens are trimmed, the
empty ones are dropped, and so are then the chains without tokens. -/
def passOver (line : Line) : List (List Line) :=
  ((line.foldl Pass.step {}).endChain.ended.map fun chain =>
    (chain.map Text.trim).filter (· ≠ [])).filter (· ≠ [])

namespace Pass

/-! ## One step -/

def enclosure (pass : Pass) : Enclosure :=
  ⟨⟨pass.quote, pass.escaped⟩, pass.depth⟩

def enclosedBy (pass : Pass) (enclosure : Enclosure) : Pass :=
  { pass with
    quote := enclosure.quoting.mark
    escaped := enclosure.quoting.escaped
    depth := enclosure.depth }

/-- Inside of quotes and after a backslash a character is kept. -/
theorem step_of_not_isOutside {pass : Pass} {character : Char}
    (inside : pass.enclosure.quoting.isOutside = false) :
    pass.step character =
      (pass.keep character).enclosedBy (pass.enclosure.step character) := by
  have sameDepth : pass.enclosure.step character =
      ⟨pass.enclosure.quoting.step character, pass.depth⟩ := by
    simp only [Enclosure.step, inside, if_neg Bool.false_ne_true]
    rfl
  rw [sameDepth]
  obtain ⟨quote, escaped, depth, token, chain, ended⟩ := pass
  cases escaped with
  | true => rfl
  | false =>
      cases quote with
      | none => contradiction
      | some mark =>
          by_cases isBackslash : character = '\\'
          · subst isBackslash
            rfl
          · by_cases isMark : character = mark
            · subst isMark
              simp [step, isBackslash, keep, enclosedBy, enclosure,
                Quoting.step]
            · simp [step, isBackslash, isMark, keep, enclosedBy, enclosure,
                Quoting.step]

/-- A character that the pass reads for its own sake is kept. -/
theorem step_of_isReserved {pass : Pass} {character : Char}
    (outside : pass.enclosure.quoting = .outside)
    (reserved : isReserved character = true) :
    pass.step character =
      (pass.keep character).enclosedBy (pass.enclosure.step character) := by
  obtain ⟨quote, escaped, depth, token, chain, ended⟩ := pass
  simp only [enclosure, Quoting.outside, Quoting.mk.injEq] at outside
  obtain ⟨rfl, rfl⟩ := outside
  simp only [isReserved, Quoting.isMark, Bool.or_eq_true, beq_iff_eq]
    at reserved
  rcases reserved with ((rfl | rfl | rfl) | rfl) | rfl <;> rfl

/-- Any other character ends the chain or the token or is kept, and changes
nothing else. -/
theorem step_of_plain {pass : Pass} {character : Char}
    (outside : pass.enclosure.quoting = .outside)
    (plain : isReserved character = false) :
    pass.step character =
      if pass.enclosure.separates sibling character then pass.endChain
      else if pass.enclosure.separates nesting character then pass.endToken
      else pass.keep character := by
  have separates (delimiter : Char) :
      pass.enclosure.separates delimiter character = true ↔
        pass.depth = 0 ∧ character = delimiter := by
    simp only [Enclosure.separates, outside, plain, Bool.and_eq_true,
      beq_iff_eq, Bool.not_false, and_true]
    exact and_congr_left fun _ => and_iff_right rfl
  obtain ⟨quote, escaped, depth, token, chain, ended⟩ := pass
  simp only [enclosure, Quoting.outside, Quoting.mk.injEq] at outside
  obtain ⟨rfl, rfl⟩ := outside
  simp only [isReserved, Quoting.isMark, Bool.or_eq_false_iff,
    beq_eq_false_iff_ne] at plain
  obtain ⟨⟨⟨notBackslash, notDouble, notSingle⟩, notOpening⟩, notClosing⟩ :=
    plain
  simp only [separates, sibling, nesting]
  simp [step, notBackslash, notDouble, notSingle, notOpening, notClosing]

/-- The pass ends the chain and the token where something separates, and it
keeps track of quotes and braces as a scan for separators does. -/
theorem step_eq (pass : Pass) (character : Char) :
    pass.step character =
      (if pass.enclosure.separates sibling character then pass.endChain
        else if pass.enclosure.separates nesting character then pass.endToken
        else pass.keep character).enclosedBy
          (pass.enclosure.step character) := by
  -- Only a plain character outside of quotes can separate, and such a
  -- character leaves quotes and braces as they are.
  cases outside : pass.enclosure.quoting.isOutside with
  | false =>
      have kept (delimiter : Char) :
          pass.enclosure.separates delimiter character = false := by
        simp [separates, outside]
      rw [kept, kept, step_of_not_isOutside outside]
      rfl
  | true =>
      rw [Quoting.isOutside_iff] at outside
      cases reserved : isReserved character with
      | true =>
          have kept (delimiter : Char) :
              pass.enclosure.separates delimiter character = false := by
            simp [separates, reserved]
          rw [kept, kept, step_of_isReserved outside reserved]
          rfl
      | false =>
          have same : pass.enclosure.step character = pass.enclosure := by
            apply step_of_not_isReserved _ _ reserved
            · rw [outside]
              rfl
            · rw [outside]
              exact Quoting.isMarked_outside
          rw [same, step_of_plain outside reserved]
          split
          · rfl
          · split <;> rfl

theorem enclosure_step (pass : Pass) (character : Char) :
    (pass.step character).enclosure = pass.enclosure.step character := by
  rw [step_eq]
  rfl

/-! ## The whole pass -/

/-- The texts of a pass, with those that a scan finds in the rest of the
line. -/
def followedBy (pass : Pass) (scanned : Stretches × List Stretches) :
    List (List (List Char)) :=
  pass.ended ++
    (pass.chain ++ (pass.token ++ scanned.1.1) :: scanned.1.2) ::
      scanned.2.map fun stretches => stretches.1 :: stretches.2

theorem followedBy_step (pass : Pass) (character : Char)
    (rest : List Char) :
    (pass.step character).followedBy
        (scan (pass.enclosure.step character) rest) =
      pass.followedBy (scan pass.enclosure (character :: rest)) := by
  rw [step_eq, scan_cons]
  split
  · simp [followedBy, endChain, enclosedBy]
  · split
    · simp [followedBy, endToken, enclosedBy]
    · simp [followedBy, keep, enclosedBy]

theorem ended_foldl (pass : Pass) (text : List Char) :
    (text.foldl step pass).endChain.ended =
      pass.followedBy (scan pass.enclosure text) := by
  induction text generalizing pass with
  | nil => simp [followedBy, endChain, scan]
  | cons character rest inductionHypothesis =>
      rw [List.foldl_cons, inductionHypothesis, enclosure_step,
        followedBy_step]

end Pass

/-- Cutting a line at `+` and each part at `>` gives what the one pass over
the line gives. -/
theorem chains_eq_passOver (line : Line) : chains line = passOver line := by
  have started : ({} : Pass).followedBy (scan outermost line) =
      ((scan outermost line).1 :: (scan outermost line).2).map
        fun stretches => stretches.1 :: stretches.2 := rfl
  have ended : (line.foldl Pass.step {}).endChain.ended =
      ({} : Pass).followedBy (scan outermost line) := Pass.ended_foldl {} line
  rw [chains_eq_rows, passOver, ended, started, List.map_map]
  rfl

end TerseMarkup.Combinator
