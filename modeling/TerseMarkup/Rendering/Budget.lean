import TerseMarkup.Diagnostic

/-!
# The budget of a rendering

Every node that is rendered costs something. The first charge that does not
fit is reported and exhausts the budget; from then on nothing is paid for any
more.
-/

namespace TerseMarkup

/-- How many of `limit` nodes may still be rendered, and whether a charge has
failed. -/
structure Budget where
  limit : Nat
  remaining : Nat
  exhausted : Bool := false
  deriving DecidableEq, Repr

def Budget.full (limit : Nat) : Budget where
  limit := limit
  remaining := limit

/-- A result of rendering, with the reports made and the budget left. -/
structure Rendered (α : Type) where
  value : α
  diagnostics : List Diagnostic
  budget : Budget

/-- A rendering step: what it does with a budget. -/
def Render (α : Type) : Type := Budget → Rendered α

namespace Render

protected def pure {α : Type} (value : α) : Render α :=
  fun budget => ⟨value, [], budget⟩

protected def bind {α β : Type} (first : Render α) (second : α → Render β) :
    Render β :=
  fun budget =>
    let before := first budget
    let after := second before.value before.budget
    ⟨after.value, before.diagnostics ++ after.diagnostics, after.budget⟩

instance : Monad Render where
  pure := Render.pure
  bind := Render.bind

def report (fault : Fault) : Render Unit :=
  fun budget => ⟨(), [fault.diagnostic], budget⟩

/-- Pays for something and tells whether the budget allowed it. -/
def charge (line cost : Nat) : Render Bool :=
  fun budget =>
    if budget.exhausted then ⟨false, [], budget⟩
    else if cost ≤ budget.remaining then
      ⟨true, [], { budget with remaining := budget.remaining - cost }⟩
    else
      -- No later charge succeeds, however small, and none is reported again.
      ⟨false, [(Fault.tooManyElements budget.limit line).diagnostic],
        { budget with exhausted := true }⟩

/-- Pays for up to `count` copies at the same cost, which is not zero, one
after the other, and tells how many the budget allowed. -/
def chargeCopies (line cost count : Nat) : Render Nat :=
  fun budget =>
    if budget.exhausted then ⟨0, [], budget⟩
    else
      let paid := min count (budget.remaining / cost)
      let left := { budget with remaining := budget.remaining - paid * cost }
      if paid = count then ⟨paid, [], left⟩
      else
        ⟨paid, [(Fault.tooManyElements budget.limit line).diagnostic],
          { left with exhausted := true }⟩

@[simp] theorem pure_apply {α : Type} (value : α) (budget : Budget) :
    (pure value : Render α) budget = ⟨value, [], budget⟩ := rfl

theorem bind_apply {α β : Type}
    (first : Render α) (second : α → Render β) (budget : Budget) :
    (first >>= second) budget =
      ⟨(second (first budget).value (first budget).budget).value,
        (first budget).diagnostics ++
          (second (first budget).value (first budget).budget).diagnostics,
        (second (first budget).value (first budget).budget).budget⟩ := rfl

instance : LawfulMonad Render :=
  LawfulMonad.mk' Render
    (fun step => by
      funext budget
      show Rendered.mk _ ((step budget).diagnostics ++ []) _ = step budget
      rw [List.append_nil]
      rfl)
    (fun _ _ => rfl)
    (fun first second third => by
      funext budget
      simp only [bind_apply, List.append_assoc])

end Render

end TerseMarkup
