import RoozDataCloud.FallibleSteps

set_option autoImplicit false

/-!
# Requests in an open session

A session keeps what a request has written when the request raises. Whoever
catches the error goes on in the session as it was left; only a rollback, to the
start of the transaction or to a savepoint, takes the writes back.
-/
namespace RoozDataCloud.SessionSteps

variable {ε σ α β ι : Type}

/-- A statement is carried out as a whole, or it raises and writes nothing. -/
def statement (f : σ → Except ε (σ × α)) : EStateM ε σ α := fun s =>
  match f s with
  | .ok (s', a) => .ok a s'
  | .error e => .error e s

def query (f : σ → Except ε α) : EStateM ε σ α := statement (fun s => (fun a => (s, a)) <$> f s)

def write (f : σ → Except ε σ) : EStateM ε σ Unit := statement (fun s => (fun s' => (s', ())) <$> f s)

/-- The request behind a savepoint. -/
def atomically (x : EStateM ε σ α) : EStateM ε σ α := fun s =>
  match x s with
  | .ok a s' => .ok a s'
  | .error e _ => .error e s

theorem bind_ok {x : EStateM ε σ α} {f : α → EStateM ε σ β} {s s' : σ} {b : β} :
    (x >>= f) s = .ok b s' ↔ ∃ a mid, x s = .ok a mid ∧ f a mid = .ok b s' := by
  change EStateM.bind x f s = _ ↔ _
  unfold EStateM.bind
  cases x s with
  | ok a mid => simp
  | error e mid => simp

theorem bind_error {x : EStateM ε σ α} {f : α → EStateM ε σ β} {s s' : σ} {e : ε} :
    (x >>= f) s = .error e s' ↔
      x s = .error e s' ∨ ∃ a mid, x s = .ok a mid ∧ f a mid = .error e s' := by
  change EStateM.bind x f s = _ ↔ _
  unfold EStateM.bind
  cases x s with
  | ok a mid => simp
  | error e mid => simp

theorem pure_ok {a b : α} {s s' : σ} :
    (pure a : EStateM ε σ α) s = .ok b s' ↔ a = b ∧ s = s' := by
  change EStateM.Result.ok a s = .ok b s' ↔ _
  simp

theorem pure_error {a : α} {e : ε} {s s' : σ} :
    (pure a : EStateM ε σ α) s = .error e s' ↔ False := by
  change EStateM.Result.ok a s = .error e s' ↔ _
  simp

theorem statement_ok {f : σ → Except ε (σ × α)} {s s' : σ} {a : α} :
    statement f s = .ok a s' ↔ f s = .ok (s', a) := by
  unfold statement
  cases f s with
  | ok r => simp [Prod.ext_iff, and_comm]
  | error e => simp

theorem statement_error {f : σ → Except ε (σ × α)} {s s' : σ} {e : ε} :
    statement f s = .error e s' ↔ f s = .error e ∧ s = s' := by
  unfold statement
  cases f s with
  | ok r => simp
  | error e' => simp

theorem query_ok {f : σ → Except ε α} {s s' : σ} {a : α} :
    query f s = .ok a s' ↔ f s = .ok a ∧ s = s' := by
  rw [query, statement_ok, FallibleSteps.map_ok]
  simp only [Prod.mk.injEq]
  constructor
  · rintro ⟨b, hb, rfl, rfl⟩
    exact ⟨hb, rfl⟩
  · rintro ⟨ha, rfl⟩
    exact ⟨a, ha, rfl, rfl⟩

theorem query_error {f : σ → Except ε α} {s s' : σ} {e : ε} :
    query f s = .error e s' ↔ f s = .error e ∧ s = s' := by
  rw [query, statement_error]
  cases f s with
  | ok a => simp [Functor.map, Except.map]
  | error e' => simp [Functor.map, Except.map]

theorem write_ok {f : σ → Except ε σ} {s s' : σ} {u : Unit} :
    write f s = .ok u s' ↔ f s = .ok s' := by
  rw [write, statement_ok, FallibleSteps.map_ok]
  simp

theorem write_error {f : σ → Except ε σ} {s s' : σ} {e : ε} :
    write f s = .error e s' ↔ f s = .error e ∧ s = s' := by
  rw [write, statement_error]
  cases f s with
  | ok a => simp [Functor.map, Except.map]
  | error e' => simp [Functor.map, Except.map]

/-- A request that leaves nothing behind when it raises needs no savepoint. -/
theorem atomically_eq {x : EStateM ε σ α} {s : σ} (h : ∀ e s', x s = .error e s' → s' = s) :
    atomically x s = x s := by
  unfold atomically
  cases hx : x s with
  | ok a s' => rfl
  | error e s' => rw [h e s' hx]

theorem adaptExcept_ok {ε' : Type} {f : ε → ε'} {x : EStateM ε σ α} {s s' : σ} {a : α} :
    EStateM.adaptExcept f x s = .ok a s' ↔ x s = .ok a s' := by
  unfold EStateM.adaptExcept
  cases x s with
  | ok b mid => simp
  | error e mid => simp

theorem adaptExcept_error {ε' : Type} {f : ε → ε'} {x : EStateM ε σ α} {s s' : σ} {e' : ε'} :
    EStateM.adaptExcept f x s = .error e' s' ↔ ∃ e, f e = e' ∧ x s = .error e s' := by
  unfold EStateM.adaptExcept
  cases x s with
  | ok b mid => simp
  | error e mid =>
    simp only [EStateM.Result.error.injEq]
    constructor
    · rintro ⟨he, rfl⟩
      exact ⟨e, he, rfl, rfl⟩
    · rintro ⟨_, he, rfl, rfl⟩
      exact ⟨he, rfl⟩

/-- What every round of a loop keeps, the loop keeps. -/
theorem forM_rule {f : ι → EStateM ε σ Unit} (P : σ → List ι → Prop)
    (hstep : ∀ s s' i rest, P s (i :: rest) → f i s = .ok () s' → P s' rest)
    (items : List ι) (s s' : σ) (h : P s items) (hrun : items.forM f s = .ok () s') : P s' [] := by
  induction items generalizing s with
  | nil =>
    obtain ⟨-, rfl⟩ := pure_ok.1 hrun
    exact h
  | cons i rest ih =>
    obtain ⟨⟨⟩, mid, hmid, hrest⟩ := bind_ok.1 hrun
    exact ih mid (hstep s mid i rest h hmid) hrest

/-- What a loop raised, one of its rounds raised. -/
theorem forM_error {f : ι → EStateM ε σ Unit} (P : σ → List ι → Prop)
    (hstep : ∀ s s' i rest, P s (i :: rest) → f i s = .ok () s' → P s' rest)
    (items : List ι) (s s' : σ) (e : ε) (h : P s items) (hrun : items.forM f s = .error e s') :
    ∃ i rest mid, P mid (i :: rest) ∧ f i mid = .error e s' := by
  induction items generalizing s with
  | nil => exact (pure_error.1 hrun).elim
  | cons i rest ih =>
    rcases bind_error.1 hrun with hfirst | ⟨⟨⟩, mid, hmid, hrest⟩
    · exact ⟨i, rest, s, h, hfirst⟩
    · exact ih mid (hstep s mid i rest h hmid) hrest

theorem mapM_cons_ok {f : ι → EStateM ε σ α} {i : ι} {rest : List ι} {s s' : σ} {as : List α} :
    (i :: rest).mapM f s = .ok as s' ↔
      ∃ a mid as', f i s = .ok a mid ∧ rest.mapM f mid = .ok as' s' ∧ as = a :: as' := by
  simp only [List.mapM_cons, bind_ok, pure_ok]
  constructor
  · rintro ⟨a, mid, hi, as', last, hrest, rfl, rfl⟩
    exact ⟨a, mid, as', hi, hrest, rfl⟩
  · rintro ⟨a, mid, as', hi, hrest, rfl⟩
    exact ⟨a, mid, hi, as', s', hrest, rfl, rfl⟩

theorem mapM_nil_ok {f : ι → EStateM ε σ α} {s s' : σ} {as : List α} :
    ([] : List ι).mapM f s = .ok as s' ↔ as = [] ∧ s = s' := by
  rw [List.mapM_nil, pure_ok, eq_comm]

end RoozDataCloud.SessionSteps
