import Mathlib

set_option autoImplicit false
set_option mvcgen.warning false

/-!
# Programs that keep their state when they raise

The state of a run is what has happened so far; an exception takes none of it back,
whoever catches it. The rules here connect the triples of such programs with their
runs.
-/
namespace RoozDataCloud.ExceptionalRuns
open Std.Do

variable {ε σ α : Type}

abbrev Prog (ε σ : Type) := ExceptT ε (StateM σ)

/-- The result of a run, and the state that it leaves behind. -/
def outcome (program : Prog ε σ α) (s : σ) : Except ε α × σ := program.run.run s

/-- What is computed without touching the state. -/
def check : Except ε α → Prog ε σ α
  | .ok a => pure a
  | .error e => throw e

theorem check_spec (x : Except ε α) (s₀ : σ) :
    ⦃fun s => ⌜s = s₀⌝⦄ (check x : Prog ε σ α)
    ⦃post⟨fun a s => ⌜x = .ok a ∧ s = s₀⌝, fun _ s => ⌜s = s₀⌝⟩⦄ := by
  mvcgen [check]

/-- What a triple says of a run. -/
theorem outcome_rule {program : Prog ε σ α} {P : σ → Prop} {Q : α → σ → Prop} {E : ε → σ → Prop}
    (h : ⦃fun s => ⌜P s⌝⦄ program ⦃post⟨fun a s => ⌜Q a s⌝, fun e s => ⌜E e s⌝⟩⦄) {s : σ} (hs : P s) :
    (∀ a s', outcome program s = (.ok a, s') → Q a s') ∧
      ∀ e s', outcome program s = (.error e, s') → E e s' := by
  have hrun := h s hs
  simp only [WP.wp, PredTrans.pushExcept, PredTrans.pushArg, PredTrans.apply, StateT.run] at hrun
  constructor
  all_goals
    intro result s' hresult
    change ExceptT.run program s = _ at hresult
    rw [hresult] at hrun
    exact hrun

end RoozDataCloud.ExceptionalRuns
