import RoozDataCloud.FallibleSteps
import Mathlib.Data.Int.Notation
import Mathlib.Logic.Function.Basic

set_option autoImplicit false

/-!
# Interleaved transactions under read committed

Any number of transactions advance one statement at a time, in any order. A
statement sees what is committed when it starts, a lock is held from the
statement that takes it to the end of its transaction, and a transaction
publishes its writes all at once when it commits.
-/
namespace RoozDataCloud.ReadCommitted
open FallibleSteps

variable {σ τ κ : Type}

/-- The next statement of a transaction, evaluated on what is committed. -/
inductive Action (σ τ κ : Type) where
  | run (t : τ)
  | lock (l : κ) (t : τ)
  | commit (s : σ) (t : τ)
  | stop (t : τ)

/-- Where a statement leaves its transaction, if it is executed. -/
def Action.txn : Action σ τ κ → τ
  | .run t | .lock _ t | .commit _ t | .stop t => t

structure System (σ τ κ : Type) where
  committed : σ
  holder : κ → Option ℕ
  txn : ℕ → τ

/-- A transaction takes its next step, or is rolled back. -/
inductive Event where
  | advance (i : ℕ)
  | abort (i : ℕ)

section Semantics
variable (next : ℕ → σ → τ → Action σ τ κ) (dead : τ)

def opening (s : σ) (t : τ) : System σ τ κ := ⟨s, fun _ => none, fun _ => t⟩

def release (holder : κ → Option ℕ) (i : ℕ) (l : κ) : Option ℕ :=
  if holder l = some i then none else holder l

/-- Another transaction holds the lock that the next statement needs. -/
def blocked (st : System σ τ κ) (i : ℕ) : Bool :=
  match next i st.committed (st.txn i) with
  | .lock l _ => st.holder l ≠ none && st.holder l ≠ some i
  | _ => false

def step [DecidableEq κ] (st : System σ τ κ) : Event → System σ τ κ
  | .advance i =>
    match next i st.committed (st.txn i) with
    | .run t => { st with txn := Function.update st.txn i t }
    | .lock l t =>
      if st.holder l ≠ none ∧ st.holder l ≠ some i then st
      else
        { st with
          holder := Function.update st.holder l (some i)
          txn := Function.update st.txn i t }
    | .commit s t =>
      { committed := s, holder := release st.holder i, txn := Function.update st.txn i t }
    | .stop t => { st with holder := release st.holder i, txn := Function.update st.txn i t }
  | .abort i => { st with holder := release st.holder i, txn := Function.update st.txn i dead }

/-- A condition on the statements that are executed. -/
def Meets (C : ℕ → σ → τ → Prop) (st : System σ τ κ) : Event → Prop
  | .advance i => blocked next st i = false → C i st.committed (st.txn i)
  | .abort _ => True

instance decidableMeets (C : ℕ → σ → τ → Prop) [∀ i s t, Decidable (C i s t)]
    (st : System σ τ κ) : (e : Event) → Decidable (Meets next C st e)
  | .advance i =>
    inferInstanceAs (Decidable (blocked next st i = false → C i st.committed (st.txn i)))
  | .abort _ => inferInstanceAs (Decidable True)

/-- A condition on the statements that commit. -/
def AtCommit (C : ℕ → σ → τ → Prop) (i : ℕ) (s : σ) (t : τ) : Prop :=
  ∀ s' t', next i s t = .commit s' t' → C i s t

instance decidableAtCommit (C : ℕ → σ → τ → Prop) [∀ i s t, Decidable (C i s t)] (i : ℕ) (s : σ)
    (t : τ) : Decidable (AtCommit next C i s t) :=
  match hnext : next i s t with
  | .commit s' t' => decidable_of_iff (C i s t) ⟨fun h _ _ _ => h, fun h => h s' t' hnext⟩
  | .run _ => isTrue (fun _ _ h => nomatch hnext.symm.trans h)
  | .lock _ _ => isTrue (fun _ _ h => nomatch hnext.symm.trans h)
  | .stop _ => isTrue (fun _ _ h => nomatch hnext.symm.trans h)

end Semantics

/-- What is committed changes only when a transaction commits. -/
theorem committed_cases [DecidableEq κ] (next : ℕ → σ → τ → Action σ τ κ) (dead : τ) (st : System σ τ κ)
    (e : Event) :
    (step next dead st e).committed = st.committed ∨
      ∃ i t, e = .advance i ∧
        next i st.committed (st.txn i) = .commit (step next dead st e).committed t := by
  cases e with
  | abort i => exact .inl rfl
  | advance i =>
    simp only [step]
    cases hnext : next i st.committed (st.txn i) with
    | run t => exact .inl rfl
    | lock l t =>
      refine .inl ?_
      dsimp only
      split_ifs <;> rfl
    | commit s t => exact .inr ⟨i, t, rfl, hnext⟩
    | stop t => exact .inl rfl

/-- A transaction moves by its own statements only, and by its own rollback. -/
theorem txn_cases [DecidableEq κ] (next : ℕ → σ → τ → Action σ τ κ) (dead : τ) (st : System σ τ κ)
    (e : Event) (i : ℕ) :
    (step next dead st e).txn i = st.txn i ∨ (step next dead st e).txn i = dead ∨
      e = .advance i ∧ blocked next st i = false ∧
        (step next dead st e).txn i = (next i st.committed (st.txn i)).txn := by
  cases e with
  | abort j =>
    by_cases hij : i = j
    · subst hij
      exact .inr (.inl (Function.update_self ..))
    · exact .inl (Function.update_of_ne hij ..)
  | advance j =>
    by_cases hij : i = j
    · subst hij
      simp only [step, blocked]
      cases hnext : next i st.committed (st.txn i) with
      | lock l t =>
        dsimp only
        split_ifs with hheld
        · exact .inl rfl
        · exact .inr (.inr ⟨trivial, by simpa using hheld, Function.update_self ..⟩)
      | _ => exact .inr (.inr ⟨trivial, rfl, Function.update_self ..⟩)
    · refine .inl ?_
      simp only [step]
      cases next j st.committed (st.txn j) with
      | lock l t =>
        dsimp only
        split_ifs
        · rfl
        · exact Function.update_of_ne hij ..
      | _ => exact Function.update_of_ne hij ..

theorem advance_txn [DecidableEq κ] (next : ℕ → σ → τ → Action σ τ κ) (dead : τ)
    (st : System σ τ κ) (i : ℕ) (hfree : blocked next st i = false) :
    (step next dead st (.advance i)).txn i = (next i st.committed (st.txn i)).txn := by
  unfold blocked at hfree
  simp only [step]
  cases hnext : next i st.committed (st.txn i) with
  | lock l t =>
    rw [hnext] at hfree
    dsimp only
    rw [if_neg (by simpa using hfree)]
    exact Function.update_self ..
  | _ => exact Function.update_self ..

/-- When a statement leads to a bad memory exactly where it fails the condition, the condition is
met along an interleaving if and only if no transaction gets there. -/
theorem avoids_iff [DecidableEq κ] {next : ℕ → σ → τ → Action σ τ κ} {dead : τ}
    {H : System σ τ κ → Prop} {B : τ → Prop} {C : ℕ → σ → τ → Prop}
    (hstep : ∀ st e, H st → H (step next dead st e)) (hdead : ¬ B dead)
    (hexact : ∀ st i, H st → ¬ B (st.txn i) →
      (B (next i st.committed (st.txn i)).txn ↔ ¬ C i st.committed (st.txn i)))
    (events : List Event) (st : System σ τ κ) (h : H st) (hgood : ∀ i, ¬ B (st.txn i)) :
    (∀ before rest, events = before ++ rest →
      ∀ i, ¬ B ((exec (step next dead) st before).txn i)) ↔
      Along (step next dead) (Meets next C) st events := by
  induction events generalizing st with
  | nil =>
    refine iff_of_true (fun before rest hnil i => ?_) trivial
    rw [(List.append_eq_nil_iff.1 hnil.symm).1]
    exact hgood i
  | cons e events ih =>
    constructor
    · intro hall
      have hfirst := hall [e] events rfl
      refine ⟨?_, (ih _ (hstep st e h) hfirst).1 (fun before rest hevents => ?_)⟩
      · cases e with
        | abort i => trivial
        | advance i =>
          intro hfree
          by_contra hc
          have hbad := (hexact st i h (hgood i)).2 hc
          rw [← advance_txn next dead st i hfree] at hbad
          exact hfirst i hbad
      · exact hall (e :: before) rest (by rw [hevents, List.cons_append])
    · rintro ⟨hmeets, hrest⟩ before rest hevents
      have hnext : ∀ i, ¬ B ((step next dead st e).txn i) := by
        intro i
        rcases txn_cases next dead st e i with hsame | hdied | ⟨rfl, hfree, hmoved⟩
        · rw [hsame]
          exact hgood i
        · rw [hdied]
          exact hdead
        · rw [hmoved, hexact st i h (hgood i), not_not]
          exact hmeets hfree
      cases before with
      | nil => exact hgood
      | cons e' before =>
        obtain ⟨rfl, htail⟩ := List.cons.inj hevents
        exact (ih _ (hstep st e h) hnext).2 hrest before rest htail

/-- What a proof about interleavings provides: what holds of the committed state, what a
transaction in a given position knows of it, and which locks it then owns. -/
structure Protocol (next : ℕ → σ → τ → Action σ τ κ) (dead : τ) (C : ℕ → σ → τ → Prop) where
  Good : σ → Prop
  Knows : ℕ → σ → τ → Prop
  Owns : τ → κ → Prop
  run : ∀ i s t t', Good s → Knows i s t → C i s t → next i s t = .run t' →
    Knows i s t' ∧ ∀ l, Owns t' l → Owns t l
  lock : ∀ i s t l t', Good s → Knows i s t → C i s t → next i s t = .lock l t' →
    Knows i s t' ∧ ∀ l', Owns t' l' → l' = l ∨ Owns t l'
  commit : ∀ i s t s' t', Good s → Knows i s t → C i s t → next i s t = .commit s' t' →
    Good s' ∧ Knows i s' t' ∧ (∀ l, ¬ Owns t' l) ∧
      ∀ j u, Knows j s u → (∀ l, Owns t l → ¬ Owns u l) → Knows j s' u
  stop : ∀ i s t t', Good s → Knows i s t → C i s t → next i s t = .stop t' →
    Knows i s t' ∧ ∀ l, ¬ Owns t' l
  abort : ∀ i s, Knows i s dead ∧ ∀ l, ¬ Owns dead l

namespace Protocol
variable {next : ℕ → σ → τ → Action σ τ κ} {dead : τ} {C : ℕ → σ → τ → Prop}

structure Holds (p : Protocol next dead C) (st : System σ τ κ) : Prop where
  good : p.Good st.committed
  knows : ∀ i, p.Knows i st.committed (st.txn i)
  owns : ∀ i l, p.Owns (st.txn i) l → st.holder l = some i

variable (p : Protocol next dead C) {st : System σ τ κ}

theorem holds_opening {s : σ} {t : τ} (hgood : p.Good s) (hknows : ∀ i, p.Knows i s t)
    (howns : ∀ l, ¬ p.Owns t l) : p.Holds (opening s t : System σ τ κ) :=
  ⟨hgood, hknows, fun _ l h => absurd h (howns l)⟩

theorem release_other {holder : κ → Option ℕ} {i j : ℕ} {l : κ} (hij : j ≠ i)
    (h : holder l = some j) : release holder i l = some j := by
  rw [release, if_neg, h]
  rw [h]
  exact fun he => hij (Option.some.inj he)

theorem update_knows {s : σ} {i : ℕ} {t : τ} (hi : p.Knows i s t)
    (hothers : ∀ j, j ≠ i → p.Knows j s (st.txn j)) (j : ℕ) :
    p.Knows j s (Function.update st.txn i t j) := by
  by_cases hj : j = i
  · subst hj
    rw [Function.update_self]
    exact hi
  · rw [Function.update_of_ne hj]
    exact hothers j hj

theorem update_released (h : p.Holds st) {i : ℕ} {t : τ} (hnone : ∀ l, ¬ p.Owns t l) (j : ℕ) (l : κ)
    (howns : p.Owns (Function.update st.txn i t j) l) : release st.holder i l = some j := by
  by_cases hj : j = i
  · subst hj
    rw [Function.update_self] at howns
    exact absurd howns (hnone l)
  · rw [Function.update_of_ne hj] at howns
    exact release_other hj (h.owns j l howns)

variable [DecidableEq κ]

theorem step_holds (h : p.Holds st) (e : Event) (hc : Meets next C st e) :
    p.Holds (step next dead st e) := by
  cases e with
  | abort i =>
    obtain ⟨hknows, hnone⟩ := p.abort i st.committed
    exact ⟨h.good, p.update_knows hknows (fun j _ => h.knows j), p.update_released h hnone⟩
  | advance i =>
    have hi := h.knows i
    simp only [step]
    cases hnext : next i st.committed (st.txn i) with
    | run t =>
      obtain ⟨hknows, hsub⟩ := p.run i _ _ t h.good hi (hc (by simp [blocked, hnext])) hnext
      refine ⟨h.good, p.update_knows hknows (fun j _ => h.knows j), fun j l howns => ?_⟩
      by_cases hj : j = i
      · subst hj
        simp only [Function.update_self] at howns
        exact h.owns j l (hsub l howns)
      · simp only [Function.update_of_ne hj] at howns
        exact h.owns j l howns
    | lock l t =>
      by_cases hheld : st.holder l ≠ none ∧ st.holder l ≠ some i
      · simp only [if_pos hheld]
        exact h
      · have hfree : blocked next st i = false := by
          simpa [blocked, hnext] using hheld
        obtain ⟨hknows, hsub⟩ := p.lock i _ _ l t h.good hi (hc hfree) hnext
        simp only [if_neg hheld]
        refine ⟨h.good, p.update_knows hknows (fun j _ => h.knows j), fun j l' howns => ?_⟩
        by_cases hj : j = i
        · subst hj
          simp only [Function.update_self] at howns
          by_cases hl : l' = l
          · simp only [hl, Function.update_self]
          · simp only [Function.update_of_ne hl]
            exact h.owns j l' ((hsub l' howns).resolve_left hl)
        · simp only [Function.update_of_ne hj] at howns
          have hother := h.owns j l' howns
          have hl : l' ≠ l := by
            rintro rfl
            refine hheld ⟨by simp [hother], ?_⟩
            rw [hother]
            exact fun he => hj (Option.some.inj he)
          simp only [Function.update_of_ne hl]
          exact hother
    | commit s t =>
      obtain ⟨hgood, hknows, hnone, hothers⟩ :=
        p.commit i _ _ s t h.good hi (hc (by simp [blocked, hnext])) hnext
      refine ⟨hgood, p.update_knows hknows (fun j hj => ?_), p.update_released h hnone⟩
      refine hothers j _ (h.knows j) (fun l hl hl' => hj ?_)
      have hsame := (h.owns i l hl).symm.trans (h.owns j l hl')
      exact (Option.some.inj hsame).symm
    | stop t =>
      obtain ⟨hknows, hnone⟩ := p.stop i _ _ t h.good hi (hc (by simp [blocked, hnext])) hnext
      exact ⟨h.good, p.update_knows hknows (fun j _ => h.knows j), p.update_released h hnone⟩

/-- A protocol that its condition keeps holds after every interleaving. -/
theorem exec_holds (events : List Event) (h : p.Holds st)
    (hc : Along (step next dead) (Meets next C) st events) :
    p.Holds (exec (step next dead) st events) :=
  along_invariant (step next dead) (P := p.Holds) (fun _ e hst he => p.step_holds hst e he) events st h hc

/-- When a commit breaks the property exactly where it fails the condition, the condition is met
along an interleaving if and only if the property holds after each of its steps. -/
theorem along_iff (p : Protocol next dead (AtCommit next C)) {P : σ → Prop}
    (hgood : ∀ s, p.Good s → P s)
    (hexact : ∀ i s t s' t', p.Good s → p.Knows i s t → next i s t = .commit s' t' → P s' →
      C i s t) (events : List Event) (h : p.Holds st) :
    Along (step next dead) (Meets next (AtCommit next C)) st events ↔
      ∀ before after, events = before ++ after → P (exec (step next dead) st before).committed := by
  symm
  refine along_exact (step next dead) (I := p.Holds) (P := fun st => P st.committed)
    (fun st e h hc => p.step_holds h e hc) (fun st h => hgood _ h.good) (fun st e h hafter => ?_)
    events st h
  cases e with
  | abort i => trivial
  | advance i =>
    intro _ s' t' hcommit
    simp only [step, hcommit] at hafter
    exact hexact i _ _ s' t' h.good (h.knows i) hcommit hafter

end Protocol

section Exact
variable (Inv P : σ → Prop) (Knows : ℕ → σ → τ → Prop) (Owns : τ → κ → Prop)
  (C : ℕ → σ → τ → Prop)

/-- What one statement has to keep, by what it does, when every commit keeps `Inv` and keeps `P`
exactly where it meets the condition. -/
def Keeps (i : ℕ) (s : σ) (t : τ) : Action σ τ κ → Prop
  | .run t' => Knows i s t' ∧ ∀ l, Owns t' l → Owns t l
  | .lock l t' => Knows i s t' ∧ ∀ l', Owns t' l' → l' = l ∨ Owns t l'
  | .commit s' t' => Inv s' ∧ (P s' ↔ C i s t) ∧ Knows i s' t' ∧ (∀ l, ¬ Owns t' l) ∧
      ∀ j u, Knows j s u → (∀ l, Owns t l → ¬ Owns u l) → Knows j s' u
  | .stop t' => Knows i s t' ∧ ∀ l, ¬ Owns t' l

variable {Inv P Knows Owns C} {next : ℕ → σ → τ → Action σ τ κ} {dead : τ}

def Protocol.ofKeeps
    (hkeeps : ∀ i s t, Inv s → P s → Knows i s t → Keeps Inv P Knows Owns C i s t (next i s t))
    (hdead : ∀ i s, Knows i s dead ∧ ∀ l, ¬ Owns dead l) :
    Protocol next dead (AtCommit next C) where
  Good s := Inv s ∧ P s
  Knows := Knows
  Owns := Owns
  run i s t t' hgood hknows _ h := by
    have hstep := hkeeps i s t hgood.1 hgood.2 hknows
    rw [h] at hstep
    exact hstep
  lock i s t l t' hgood hknows _ h := by
    have hstep := hkeeps i s t hgood.1 hgood.2 hknows
    rw [h] at hstep
    exact hstep
  commit i s t s' t' hgood hknows hc h := by
    have hstep := hkeeps i s t hgood.1 hgood.2 hknows
    rw [h] at hstep
    obtain ⟨hinv, hexact, hrest⟩ := hstep
    exact ⟨⟨hinv, hexact.2 (hc s' t' h)⟩, hrest⟩
  stop i s t t' hgood hknows _ h := by
    have hstep := hkeeps i s t hgood.1 hgood.2 hknows
    rw [h] at hstep
    exact hstep
  abort := hdead

end Exact

section Serial
variable [DecidableEq κ] {next : ℕ → σ → τ → Action σ τ κ} {dead : τ} {Done Wrote : τ → Prop}
  {st : System σ τ κ}

theorem done_step (hstay : ∀ i s t, Done t → Done (next i s t).txn) (hdead : Done dead) (e : Event)
    {i : ℕ} (h : Done (st.txn i)) : Done ((step next dead st e).txn i) := by
  rcases txn_cases next dead st e i with hsame | hend | ⟨-, -, hnext⟩
  · rw [hsame]
    exact h
  · rw [hend]
    exact hdead
  · rw [hnext]
    exact hstay i _ _ h

theorem wrote_step
    (hwrote : ∀ i s t, Wrote (next i s t).txn → Wrote t ∨ ∃ s' t', next i s t = .commit s' t')
    (hdead : ¬ Wrote dead) {e : Event} {i : ℕ} (h : Wrote ((step next dead st e).txn i)) :
    Wrote (st.txn i) ∨
      ∃ s' t', e = .advance i ∧ next i st.committed (st.txn i) = .commit s' t' := by
  rcases txn_cases next dead st e i with hsame | hend | ⟨he, -, hnext⟩
  · exact .inl (hsame ▸ h)
  · exact absurd (hend ▸ h) hdead
  · rcases hwrote i _ _ (hnext ▸ h) with hold | ⟨s', t', hcommit⟩
    · exact .inl hold
    · exact .inr ⟨s', t', he, hcommit⟩

/-- If every commit does what `f` does to the committed state, a run commits what `f` does in the
order of its commits, at most once for each transaction, and every transaction that has written is
among them. -/
theorem commit_order (Done Wrote : τ → Prop) {I : System σ τ κ → Prop}
    {C : System σ τ κ → Event → Prop} {f : σ → ℕ → σ}
    (hstep : ∀ st e, I st → C st e → I (step next dead st e))
    (hcommit : ∀ st i s' t', I st → C st (.advance i) →
      next i st.committed (st.txn i) = .commit s' t' →
      (¬ Done (st.txn i) ∧ Done t') ∧ s' = f st.committed i)
    (hstay : ∀ i s t, Done t → Done (next i s t).txn) (hend : Done dead)
    (hwrote : ∀ i s t, Wrote (next i s t).txn → Wrote t ∨ ∃ s' t', next i s t = .commit s' t')
    (hdead : ¬ Wrote dead) (events : List Event) (st : System σ τ κ) (h : I st)
    (hc : Along (step next dead) C st events) :
    ∃ order : List ℕ, order.Nodup ∧ (∀ i ∈ order, ¬ Done (st.txn i) ∧ .advance i ∈ events) ∧
      (∀ i, Wrote ((exec (step next dead) st events).txn i) → Wrote (st.txn i) ∨ i ∈ order) ∧
      (exec (step next dead) st events).committed = exec f st.committed order := by
  induction events generalizing st with
  | nil => exact ⟨[], List.nodup_nil, fun i hi => absurd hi List.not_mem_nil, fun i => .inl, rfl⟩
  | cons e events ih =>
    obtain ⟨order, hnodup, hmem, hall, hrun⟩ := ih _ (hstep st e h hc.1) hc.2
    have hfresh : ∀ i ∈ order, ¬ Done (st.txn i) ∧ .advance i ∈ e :: events := fun i hi =>
      ⟨fun hdone => (hmem i hi).1 (done_step hstay hend e hdone),
        List.mem_cons_of_mem _ (hmem i hi).2⟩
    by_cases hcommits : ∃ i s' t', e = .advance i ∧
        next i st.committed (st.txn i) = .commit s' t'
    · obtain ⟨i, s', t', rfl, hnext⟩ := hcommits
      obtain ⟨⟨hopen, hdone⟩, hwritten⟩ := hcommit st i s' t' h hc.1 hnext
      have hstepped : step next dead st (.advance i) = ⟨s', release st.holder i,
          Function.update st.txn i t'⟩ := by simp only [step, hnext]
      have hnew : i ∉ order := by
        intro hi
        refine (hmem i hi).1 ?_
        simp only [hstepped, Function.update_self]
        exact hdone
      refine ⟨i :: order, List.nodup_cons.2 ⟨hnew, hnodup⟩, ?_, fun j hj => ?_, ?_⟩
      · rintro j (_ | ⟨_, hj⟩)
        · exact ⟨hopen, List.mem_cons_self⟩
        · exact hfresh j hj
      · rcases hall j hj with hwrites | hj
        · rcases wrote_step hwrote hdead hwrites with hold | ⟨_, _, he, -⟩
          · exact .inl hold
          · exact .inr (Event.advance.inj he ▸ List.mem_cons_self)
        · exact .inr (List.mem_cons_of_mem _ hj)
      · rw [exec_cons, exec_cons, hrun, ← hwritten, hstepped]
    · refine ⟨order, hnodup, hfresh, fun j hj => ?_, ?_⟩
      · rcases hall j hj with hwrites | hj
        · rcases wrote_step hwrote hdead hwrites with hold | ⟨s', t', hcommit⟩
          · exact .inl hold
          · exact absurd ⟨j, s', t', hcommit⟩ hcommits
        · exact .inr hj
      · rcases committed_cases next dead st e with hsame | ⟨i, t, he, hnext⟩
        · rw [exec_cons, hrun, hsame]
        · exact absurd ⟨i, _, t, he, hnext⟩ hcommits

end Serial

/-- An unlocked row is loaded, changed and flushed: only a changed column is written, over
whatever is stored by then. -/
def flushColumn {α : Type} [DecidableEq α] (loaded changed stored : α) : α :=
  if changed = loaded then stored else changed

theorem flushColumn_self {α : Type} [DecidableEq α] (loaded changed : α) :
    flushColumn loaded changed loaded = changed := by
  unfold flushColumn
  split_ifs with h
  · exact h.symm
  · rfl

/-- A counter that is changed by a difference ends up right exactly if it is not changed at all
or was up to date. -/
theorem flushColumn_shifted {loaded changed stored removed added : ℤ}
    (h : changed = loaded - removed + added) :
    flushColumn loaded changed stored = stored - removed + added ↔
      changed = loaded ∨ loaded = stored := by
  unfold flushColumn
  split_ifs <;> omega

theorem flushColumn_same {α : Type} [DecidableEq α] (loaded stored : α) :
    flushColumn loaded loaded stored = stored := if_pos rfl

/-- The same of a counter that is flushed twice. -/
theorem flushColumn_twice {loaded middle changed stored removed added : ℤ}
    (h : changed = loaded - removed + added) :
    flushColumn middle changed (flushColumn loaded middle stored) = stored - removed + added ↔
      middle = loaded ∧ changed = loaded ∨ loaded = stored := by
  unfold flushColumn
  split_ifs <;> omega

end RoozDataCloud.ReadCommitted
