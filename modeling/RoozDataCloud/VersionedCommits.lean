import RoozDataCloud.ReadCommitted

set_option autoImplicit false

/-!
# Rows with a version

Interleaved transactions that each write one row, under the version of it that
their client has seen.
-/
namespace RoozDataCloud.VersionedCommits
open FallibleSteps ReadCommitted

variable {σ τ κ ρ : Type} (next : ℕ → σ → τ → Action σ τ κ) (dead : τ)

/-- The transaction that a step commits. -/
def committer (st : System σ τ κ) : Event → Option ℕ
  | .advance i =>
    match next i st.committed (st.txn i) with
    | .commit _ _ => some i
    | _ => none
  | .abort _ => none

variable {next}

theorem committer_some {st : System σ τ κ} {e : Event} {i : ℕ} (h : committer next st e = some i) :
    e = .advance i ∧ ∃ s t, next i st.committed (st.txn i) = .commit s t := by
  cases e with
  | abort j => cases h
  | advance j =>
    unfold committer at h
    dsimp only at h
    split at h
    next s t hcommit =>
      obtain rfl := Option.some.inj h
      exact ⟨rfl, s, t, hcommit⟩
    · cases h

theorem committer_commit {st : System σ τ κ} {i : ℕ} {s : σ} {t : τ}
    (h : next i st.committed (st.txn i) = .commit s t) :
    committer next st (.advance i) = some i := by
  simp only [committer, h]

theorem meets_atCommit {C : ℕ → σ → τ → Prop} {st : System σ τ κ} {e : Event} :
    Meets next (AtCommit next C) st e ↔
      ∀ i, committer next st e = some i → C i st.committed (st.txn i) := by
  constructor
  · intro h i hi
    obtain ⟨rfl, s, t, hcommit⟩ := committer_some hi
    exact h (by simp [blocked, hcommit]) s t hcommit
  · intro h
    cases e with
    | abort i => trivial
    | advance i => exact fun _ s t hcommit => h i (committer_commit hcommit)

theorem step_committed [DecidableEq κ] {st : System σ τ κ} {i : ℕ} {s : σ} {t : τ}
    (h : next i st.committed (st.txn i) = .commit s t) :
    (step next dead st (.advance i)).committed = s := by
  simp only [step, h]

section Versions
variable (next) [DecidableEq κ] (target : ℕ → ρ) (expected : ℕ → ℕ) (version : σ → ρ → Option ℕ)

/-- Every commit raises the version of its row by one, from the version its client has seen, and
no two commits carry the same expected version of the same row. -/
structure Versioned (st : System σ τ κ) (events : List Event) : Prop where
  raised : ∀ before e after i, events = before ++ e :: after →
    committer next (exec (step next dead) st before) e = some i →
    ∃ n, version (exec (step next dead) st before).committed (target i) = some n ∧
      version (exec (step next dead) st (before ++ [e])).committed (target i) = some (n + 1)
  seen : ∀ before e after i, events = before ++ e :: after →
    committer next (exec (step next dead) st before) e = some i →
    version (exec (step next dead) st before).committed (target i) = some (expected i)
  once : ∀ before e mid e' after i j, events = before ++ e :: (mid ++ e' :: after) →
    committer next (exec (step next dead) st before) e = some i →
    committer next (exec (step next dead) st (before ++ e :: mid)) e' = some j →
    target i = target j → expected i ≠ expected j

/-- What a commit does to the versions, and when it is right. `K` is what a transaction remembers
to have checked. -/
structure Checked (K : ℕ → τ → Prop) (C : ℕ → σ → τ → Prop) : Prop where
  dead : ∀ i, K i dead
  keeps : ∀ i s t, K i t → K i (next i s t).txn
  right : ∀ i s t s' t', K i t → next i s t = .commit s' t' →
    (C i s t ↔ ∃ n, version s (target i) = some n ∧ version s' (target i) = some (n + 1))
  seen : ∀ i s t s' t', K i t → next i s t = .commit s' t' → C i s t →
    version s (target i) = some (expected i)
  others : ∀ i s t s' t', next i s t = .commit s' t' → ∀ r, r ≠ target i →
    version s' r = version s r

variable {next dead target expected version} {K : ℕ → τ → Prop} {C : ℕ → σ → τ → Prop}
  (h : Checked next dead target expected version K C)
include h

theorem Checked.step_keeps {st : System σ τ κ} (hk : ∀ i, K i (st.txn i)) (e : Event) (i : ℕ) :
    K i ((step next dead st e).txn i) := by
  rcases txn_cases next dead st e i with hsame | hdead | ⟨-, -, hmoved⟩
  · rw [hsame]
    exact hk i
  · rw [hdead]
    exact h.dead i
  · rw [hmoved]
    exact h.keeps i _ _ (hk i)

theorem Checked.exec_keeps {st : System σ τ κ} (hk : ∀ i, K i (st.txn i)) (events : List Event) :
    ∀ i, K i ((exec (step next dead) st events).txn i) :=
  exec_invariant (step next dead) (P := fun st => ∀ i, K i (st.txn i))
    (fun _ e hst => h.step_keeps hst e) events st hk

theorem Checked.raised {st : System σ τ κ} (hk : ∀ i, K i (st.txn i)) {e : Event} {i : ℕ}
    (hi : committer next st e = some i) :
    C i st.committed (st.txn i) ↔ ∃ n, version st.committed (target i) = some n ∧
      version (step next dead st e).committed (target i) = some (n + 1) := by
  obtain ⟨rfl, s, t, hcommit⟩ := committer_some hi
  rw [step_committed dead hcommit]
  exact h.right i _ _ s t (hk i) hcommit

theorem Checked.monotone {st : System σ τ κ} (hk : ∀ i, K i (st.txn i)) {r : ρ} {n : ℕ}
    (events : List Event) (hn : version st.committed r = some n)
    (hc : Along (step next dead) (Meets next (AtCommit next C)) st events) :
    ∃ m, n ≤ m ∧ version (exec (step next dead) st events).committed r = some m := by
  have hrun := along_invariant (step next dead) (P := fun st => (∀ i, K i (st.txn i)) ∧
    ∃ m, n ≤ m ∧ version st.committed r = some m) ?_ events st ⟨hk, n, Nat.le_refl n, hn⟩ hc
  · exact hrun.2
  rintro st e ⟨hst, m, hle, hm⟩ hmeets
  refine ⟨h.step_keeps hst e, ?_⟩
  rcases committed_cases next dead st e with hsame | ⟨i, t, rfl, hcommit⟩
  · rw [hsame]
    exact ⟨m, hle, hm⟩
  · by_cases hr : r = target i
    · have hi := committer_commit hcommit
      obtain ⟨k, hk, hk'⟩ := (h.raised hst hi).1 (meets_atCommit.1 hmeets i hi)
      rw [← hr, hm] at hk
      obtain rfl := Option.some.inj hk
      rw [← hr] at hk'
      exact ⟨m + 1, by omega, hk'⟩
    · rw [h.others i _ _ _ t hcommit r hr]
      exact ⟨m, hle, hm⟩

/-- The versions are right in a run if and only if every commit in it meets the condition. -/
theorem Checked.versioned_iff (st : System σ τ κ) (hk : ∀ i, K i (st.txn i))
    (events : List Event) :
    Versioned next dead target expected version st events ↔
      Along (step next dead) (Meets next (AtCommit next C)) st events := by
  have hstep : ∀ before e, exec (step next dead) st (before ++ [e]) =
      step next dead (exec (step next dead) st before) e := by
    intro before e
    rw [exec_append]
    rfl
  constructor
  · intro hv
    rw [along_iff]
    intro before e after hevents
    rw [meets_atCommit]
    intro i hi
    have hraised := hv.raised before e after i hevents hi
    rw [hstep] at hraised
    exact (h.raised (h.exec_keeps hk before) hi).2 hraised
  · intro hc
    have hmeets := (along_iff (step next dead) st events).1 hc
    have hraised : ∀ before e after i, events = before ++ e :: after →
        committer next (exec (step next dead) st before) e = some i →
        ∃ n, version (exec (step next dead) st before).committed (target i) = some n ∧
          version (step next dead (exec (step next dead) st before) e).committed (target i) =
            some (n + 1) := by
      intro before e after i hevents hi
      have hC := meets_atCommit.1 (hmeets before e after hevents) i hi
      exact (h.raised (h.exec_keeps hk before) hi).1 hC
    have hseen : ∀ before e after i, events = before ++ e :: after →
        committer next (exec (step next dead) st before) e = some i →
        version (exec (step next dead) st before).committed (target i) = some (expected i) := by
      intro before e after i hevents hi
      have hC := meets_atCommit.1 (hmeets before e after hevents) i hi
      obtain ⟨rfl, s, t, hcommit⟩ := committer_some hi
      exact h.seen i _ _ s t (h.exec_keeps hk before i) hcommit hC
    refine ⟨fun before e after i hevents hi => ?_, hseen, ?_⟩
    · rw [hstep]
      exact hraised before e after i hevents hi
    · intro before e mid e' after i j hevents hi hj htarget
      -- After the first commit the version is past what it expected.
      obtain ⟨n, hn, hn'⟩ := hraised before e _ i hevents hi
      rw [hseen before e _ i hevents hi] at hn
      obtain rfl := Option.some.inj hn
      have hsplit : events = (before ++ e :: mid) ++ e' :: after := by
        rw [hevents, List.append_assoc, List.cons_append]
      have hrun : exec (step next dead) st (before ++ e :: mid) =
          exec (step next dead) (step next dead (exec (step next dead) st before) e) mid := by
        rw [exec_append, exec_cons]
      rw [hevents, along_append] at hc
      have hmid := ((along_append (step next dead) _ mid _).1 hc.2.2).1
      obtain ⟨m, hle, hm⟩ := h.monotone (h.step_keeps (h.exec_keeps hk before) e) mid hn' hmid
      have hsecond := hseen (before ++ e :: mid) e' after j hsplit hj
      rw [← htarget, hrun, hm] at hsecond
      have heq := Option.some.inj hsecond
      omega

end Versions
end RoozDataCloud.VersionedCommits
