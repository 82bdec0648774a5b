import Mathlib.Data.List.Basic

set_option autoImplicit false

/-!
# Chains of status changes

A log of changes from one status to another is read as a path: each change
starts where the last one ended, and none of them goes nowhere.
-/
namespace RoozDataCloud.StatusChains

variable {σ : Type} {start current : Option σ} {changes : List (Option σ × σ)} {target : σ}

/-- The changes lead from `start` to the status given last. -/
def Composes : Option σ → List (Option σ × σ) → Option σ → Prop
  | start, [], stop => start = stop
  | start, (source, target) :: changes, stop =>
    source = start ∧ source ≠ some target ∧ Composes (some target) changes stop

theorem Composes.snoc (h : Composes start changes current) (hne : current ≠ some target) :
    Composes start (changes ++ [(current, target)]) (some target) := by
  induction changes generalizing start with
  | nil => exact ⟨h.symm, hne, rfl⟩
  | cons change changes ih => exact ⟨h.1, h.2.1, ih h.2.2⟩

end RoozDataCloud.StatusChains
