import Mathlib.Data.List.Basic
import Mathlib.Data.List.Forall2

set_option autoImplicit false

/-!
# Fallible programs over a state

A request is a function into `Except`; an error rolls the transaction back, so
the state it started from is kept. The lemmas here peel such a program into its
guards and lift a one-step property over a loop or over a whole run.
-/
namespace RoozDataCloud.FallibleSteps

variable {ε σ α β ι : Type}

def require (p : Prop) [Decidable p] (e : ε) : Except ε Unit :=
  if p then .ok () else .error e

def demand (o : Option α) (e : ε) : Except ε α :=
  match o with
  | some a => .ok a
  | none => .error e

@[simp] theorem require_ok {p : Prop} [Decidable p] {e : ε} {u : Unit} :
    require p e = .ok u ↔ p := by
  unfold require
  split_ifs with h <;> simp [h]

@[simp] theorem demand_ok {o : Option α} {e : ε} {a : α} :
    demand o e = .ok a ↔ o = some a := by
  cases o <;> simp [demand]

theorem bind_ok {x : Except ε α} {f : α → Except ε β} {b : β} :
    (x >>= f) = .ok b ↔ ∃ a, x = .ok a ∧ f a = .ok b := by
  cases x with
  | error e => simp [bind, Except.bind]
  | ok a => simp [bind, Except.bind]

theorem require_error {p : Prop} [Decidable p] {e e' : ε} :
    require p e = .error e' ↔ ¬ p ∧ e = e' := by
  unfold require
  split_ifs with h <;> simp [h]

theorem demand_error {o : Option α} {e e' : ε} :
    demand o e = .error e' ↔ o = none ∧ e = e' := by
  cases o <;> simp [demand]

theorem bind_error {x : Except ε α} {f : α → Except ε β} {e : ε} :
    (x >>= f) = .error e ↔ x = .error e ∨ ∃ a, x = .ok a ∧ f a = .error e := by
  cases x with
  | error e' => simp [bind, Except.bind]
  | ok a => simp [bind, Except.bind]

theorem pure_error {a : α} {e : ε} : (pure a : Except ε α) = .error e ↔ False := by
  simp [pure, Except.pure]

theorem map_ok {x : Except ε α} {f : α → β} {b : β} :
    (f <$> x) = .ok b ↔ ∃ a, x = .ok a ∧ f a = b := by
  cases x with
  | error e => simp [Functor.map, Except.map]
  | ok a => simp [Functor.map, Except.map]

theorem pure_ok {a b : α} : (pure a : Except ε α) = .ok b ↔ a = b := by
  simp [pure, Except.pure]

theorem throw_ok {e : ε} {a : α} : (throw e : Except ε α) = .ok a ↔ False := by
  simp [throw, throwThe, MonadExceptOf.throw]

theorem guard_some {p : Prop} [Decidable p] {u : Unit} : (guard p : Option Unit) = some u ↔ p := by
  by_cases h : p <;> simp [guard, h]

theorem bind_some {x : Option α} {f : α → Option β} {b : β} :
    (x >>= f) = some b ↔ ∃ a, x = some a ∧ f a = some b :=
  Option.bind_eq_some_iff

theorem pure_some {a b : α} : (pure a : Option α) = some b ↔ a = b := Option.some_inj

theorem toOption_some {x : Except ε α} {a : α} : x.toOption = some a ↔ x = .ok a := by
  cases x with
  | error e => simp [Except.toOption]
  | ok a => simp [Except.toOption]

theorem mapError_ok {ε' : Type} {x : Except ε α} {f : ε → ε'} {a : α} :
    x.mapError f = .ok a ↔ x = .ok a := by
  cases x with
  | error e => simp [Except.mapError]
  | ok a => simp [Except.mapError]

theorem isOk_iff {x : Except ε α} : x.isOk = true ↔ ∃ a, x = .ok a := by
  cases x with
  | error e => simp [Except.isOk, Except.toBool]
  | ok a => simp [Except.isOk, Except.toBool]

/-- The value of a program that succeeds. -/
def okValue : (x : Except ε α) → x.isOk = true → α
  | .ok a, _ => a

theorem okValue_eq (x : Except ε α) (h : x.isOk = true) : x = .ok (okValue x h) := by
  cases x with
  | error e => cases h
  | ok a => rfl

/-- A loop over `items` keeps a relation between the state and the items that remain. -/
theorem foldlM_rule {f : σ → ι → Except ε σ} (P : σ → List ι → Prop)
    (hstep : ∀ (st st' : σ) (i : ι) (rest : List ι),
      P st (i :: rest) → f st i = .ok st' → P st' rest)
    (items : List ι) (st st' : σ) (h : P st items) (hrun : items.foldlM f st = .ok st') :
    P st' [] := by
  induction items generalizing st with
  | nil =>
    rw [List.foldlM_nil, pure_ok] at hrun
    exact hrun ▸ h
  | cons i rest ih =>
    rw [List.foldlM_cons, bind_ok] at hrun
    obtain ⟨mid, hmid, hrest⟩ := hrun
    exact ih mid (hstep st mid i rest h hmid) hrest

theorem mapM_forall₂ {f : ι → Except ε α} {items : List ι} {results : List α} :
    items.mapM f = .ok results ↔ List.Forall₂ (fun i a => f i = .ok a) items results := by
  induction items generalizing results with
  | nil =>
    rw [List.mapM_nil, pure_ok, List.forall₂_nil_left_iff]
    exact eq_comm
  | cons i items ih =>
    simp only [List.mapM_cons, bind_ok, pure_ok]
    constructor
    · rintro ⟨first, hfirst, rest, hrest, rfl⟩
      exact .cons hfirst (ih.1 hrest)
    · rintro (_ | ⟨hfirst, hrest⟩)
      exact ⟨_, hfirst, _, ih.2 hrest, rfl⟩

theorem mapM_ok {f : ι → Except ε α} {items : List ι} {results : List α}
    (h : items.mapM f = .ok results) {a : α} (ha : a ∈ results) :
    ∃ i ∈ items, f i = .ok a := by
  have hall := mapM_forall₂.1 h
  clear h
  induction hall with
  | nil => cases ha
  | cons hfirst _ ih =>
    rcases List.mem_cons.1 ha with rfl | ha
    · exact ⟨_, List.mem_cons_self, hfirst⟩
    · obtain ⟨i, hi, hresult⟩ := ih ha
      exact ⟨i, List.mem_cons_of_mem _ hi, hresult⟩

theorem mapM_each {f : ι → Except ε α} {items : List ι} {results : List α}
    (h : items.mapM f = .ok results) {i : ι} (hi : i ∈ items) : ∃ a ∈ results, f i = .ok a := by
  have hall := mapM_forall₂.1 h
  clear h
  induction hall with
  | nil => cases hi
  | cons hfirst _ ih =>
    rcases List.mem_cons.1 hi with rfl | hi
    · exact ⟨_, List.mem_cons_self, hfirst⟩
    · obtain ⟨a, ha, hresult⟩ := ih hi
      exact ⟨a, List.mem_cons_of_mem _ ha, hresult⟩

theorem forM_ok {f : ι → Except ε Unit} {items : List ι} {u : Unit} :
    items.forM f = .ok u ↔ ∀ i ∈ items, f i = .ok () := by
  induction items with
  | nil => simp [List.forM, pure_ok]
  | cons i items ih =>
    change (f i >>= fun _ => items.forM f) = .ok u ↔ _
    rw [bind_ok, List.forall_mem_cons, ← ih]
    exact ⟨fun ⟨⟨⟩, hi, hrest⟩ => ⟨hi, hrest⟩, fun ⟨hi, hrest⟩ => ⟨(), hi, hrest⟩⟩

theorem foldlM_total {f : σ → ι → Except ε σ} (items : List ι)
    (hstep : ∀ (st : σ) (i : ι), ∃ st', f st i = .ok st') (st : σ) :
    ∃ st', items.foldlM f st = .ok st' := by
  induction items generalizing st with
  | nil => exact ⟨st, rfl⟩
  | cons i rest ih =>
    obtain ⟨mid, hmid⟩ := hstep st i
    obtain ⟨st', hrest⟩ := ih mid
    exact ⟨st', by rw [List.foldlM_cons, bind_ok]; exact ⟨mid, hmid, hrest⟩⟩

/-- The state after a request: what it computed, or the old state when it raised. -/
def commit (st : σ) : Except ε (σ × α) → σ
  | .ok (st', _) => st'
  | .error _ => st

theorem commit_cases {P : σ → Prop} {st : σ} {x : Except ε (σ × α)} (h : P st)
    (hok : ∀ st' a, x = .ok (st', a) → P st') : P (commit st x) := by
  cases hx : x with
  | error e => exact h
  | ok r => exact hok r.1 r.2 hx

section Runs
variable (step : σ → ι → σ)

def exec (st : σ) (ops : List ι) : σ := ops.foldl step st

@[simp] theorem exec_nil (st : σ) : exec step st [] = st := rfl

@[simp] theorem exec_cons (st : σ) (op : ι) (ops : List ι) :
    exec step st (op :: ops) = exec step (step st op) ops := rfl

theorem exec_append (st : σ) (before after : List ι) :
    exec step st (before ++ after) = exec step (exec step st before) after :=
  List.foldl_append ..

theorem exec_invariant {P : σ → Prop} (hstep : ∀ st op, P st → P (step st op))
    (ops : List ι) (st : σ) (h : P st) : P (exec step st ops) := by
  induction ops generalizing st with
  | nil => exact h
  | cons op ops ih => exact ih (step st op) (hstep st op h)

/-- `C` holds of every operation of the run, in the state it is applied to. -/
def Along (C : σ → ι → Prop) (st : σ) : List ι → Prop
  | [] => True
  | op :: ops => C st op ∧ Along C (step st op) ops

instance decidableAlong (C : σ → ι → Prop) [∀ st op, Decidable (C st op)] :
    (st : σ) → (ops : List ι) → Decidable (Along step C st ops)
  | _, [] => inferInstanceAs (Decidable True)
  | st, op :: ops =>
    have := decidableAlong C (step st op) ops
    inferInstanceAs (Decidable (C st op ∧ Along step C (step st op) ops))

theorem along_append {C : σ → ι → Prop} (st : σ) (before after : List ι) :
    Along step C st (before ++ after) ↔
      Along step C st before ∧ Along step C (exec step st before) after := by
  induction before generalizing st with
  | nil => simp [Along]
  | cons op ops ih => simp only [List.cons_append, Along, exec_cons, ih, and_assoc]

theorem along_invariant {P : σ → Prop} {C : σ → ι → Prop}
    (hstep : ∀ st op, P st → C st op → P (step st op))
    (ops : List ι) (st : σ) (h : P st) (hc : Along step C st ops) : P (exec step st ops) := by
  induction ops generalizing st with
  | nil => exact h
  | cons op ops ih => exact ih (step st op) (hstep st op h hc.1) hc.2

theorem along_iff {C : σ → ι → Prop} (st : σ) (ops : List ι) :
    Along step C st ops ↔
      ∀ before op after, ops = before ++ op :: after → C (exec step st before) op := by
  constructor
  · rintro h before op after rfl
    exact ((along_append step st before (op :: after)).1 h).2.1
  · induction ops generalizing st with
    | nil => exact fun _ => trivial
    | cons op ops ih =>
      intro h
      refine ⟨h [] op ops rfl, ih (step st op) (fun before op' after hops => ?_)⟩
      exact h (op :: before) op' after (by rw [hops, List.cons_append])

/-- When a step breaks the property exactly where it fails the condition, the condition is met
along a run if and only if the property holds in every state of it. -/
theorem along_exact {I P : σ → Prop} {C : σ → ι → Prop}
    (hstep : ∀ st op, I st → C st op → I (step st op)) (hprop : ∀ st, I st → P st)
    (hexact : ∀ st op, I st → P (step st op) → C st op) (ops : List ι) (st : σ) (h : I st) :
    (∀ before after, ops = before ++ after → P (exec step st before)) ↔ Along step C st ops := by
  constructor
  · induction ops generalizing st with
    | nil => exact fun _ => trivial
    | cons op ops ih =>
      intro hall
      have hc := hexact st op h (hall [op] ops rfl)
      refine ⟨hc, ih (step st op) (hstep st op h hc) (fun before after hops => ?_)⟩
      exact hall (op :: before) after (by rw [hops, List.cons_append])
  · rintro hc before after rfl
    exact hprop _ (along_invariant step hstep before st h ((along_append step st before after).1 hc).1)

end Runs
end RoozDataCloud.FallibleSteps
