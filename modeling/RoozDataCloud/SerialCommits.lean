import RoozDataCloud.DatasetAppends
import RoozDataCloud.KeyValueTotals
import RoozDataCloud.QueueLifecycle

set_option autoImplicit false

/-!
# The order of the commits

An append commits only when the dataset row that it loaded is still the stored one, so
whatever the interleaving, the appends that succeed are those of some serial order. The
requests of a queue and the mutations of a store have a serial order under the condition
that the row they loaded before they had the lock is not outdated when they commit.
-/
namespace RoozDataCloud.SerialCommits
open KeyedTable ExecutionModels FallibleSteps ReadCommitted

section Appends
open Datasets DatasetAppends
variable {codec : Codec} {requests : ℕ → AppendRequest}

def Ended : DatasetAppends.Txn → Prop
  | .answered _ | .failed _ | .rolledBack => True
  | _ => False

theorem append_commit {i : ℕ} {s s' : Datasets.Rows} {t t' : DatasetAppends.Txn}
    (ha : Accounted codec s) (hk : DatasetAppends.Knows codec (requests i) s t)
    (h : DatasetAppends.next codec requests i s t = .commit s' t') :
    (¬ Ended t ∧ Ended t') ∧ s' = commit s (appendDatasetItems codec s (requests i)) := by
  cases t with
  | unseen dataset v =>
    obtain ⟨hbehind, hv, hnone⟩ := hk
    simp only [DatasetAppends.next] at h
    split at h
    next s'' receipt hinsert =>
      obtain ⟨rfl, rfl⟩ := Action.commit.inj h
      obtain ⟨rfl, -⟩ := insertAppend_ok ha hbehind hinsert
      refine ⟨⟨id, trivial⟩, ?_⟩
      simp [appendDatasetItems, hv, hnone, hinsert, commit, Except.mapError, bind, Except.bind, pure,
        Except.pure]
    next => cases h
  | loaded dataset =>
    simp only [DatasetAppends.next] at h
    split at h <;> cases h
  | locked dataset v =>
    simp only [DatasetAppends.next] at h
    split at h
    · split at h <;> cases h
    · cases h
  | _ => cases h

theorem ended_stays (i : ℕ) (s : Datasets.Rows) (t : DatasetAppends.Txn) (h : Ended t) :
    Ended (DatasetAppends.next codec requests i s t).txn := by
  cases t with
  | answered | failed | rolledBack => trivial
  | _ => exact h.elim

theorem answered_anew (i : ℕ) (s : Datasets.Rows) (t : DatasetAppends.Txn)
    (h : ∃ receipt, (DatasetAppends.next codec requests i s t).txn = .answered ⟨receipt, false⟩) :
    (∃ receipt, t = .answered ⟨receipt, false⟩) ∨
      ∃ s' t', DatasetAppends.next codec requests i s t = .commit s' t' := by
  obtain ⟨receipt, h⟩ := h
  cases t with
  | answered outcome => exact .inl ⟨receipt, h⟩
  | unseen dataset v =>
    simp only [DatasetAppends.next] at h ⊢
    split at h
    next s' receipt hinsert => exact .inr ⟨s', _, rfl⟩
    next => cases h
  | loaded dataset =>
    simp only [DatasetAppends.next] at h
    split at h <;> cases h
  | locked dataset v =>
    simp only [DatasetAppends.next] at h
    split at h
    · split at h
      next outcome houtcome =>
        obtain ⟨-, rfl⟩ := replayReceipt_ok houtcome
        cases h
      next => cases h
    · cases h
  | _ => cases h

/-- However the appends to a new dataset are interleaved, what is committed is what some of them do
one after the other, each at most once, and every append that is answered with a new receipt is one
of these. -/
theorem appends_serializable (codec : Codec) (requests : ℕ → AppendRequest) (events : List Event) :
    ∃ order : List ℕ, order.Nodup ∧ (∀ i ∈ order, .advance i ∈ events) ∧
      (∀ i receipt, (after codec requests newDataset events).txn i = .answered ⟨receipt, false⟩ →
        i ∈ order) ∧
      (after codec requests newDataset events).committed =
        exec (fun rows i => commit rows (appendDatasetItems codec rows (requests i))) newDataset
          order := by
  obtain ⟨order, hnodup, hmem, hall, hrun⟩ := commit_order
    Ended (fun t => ∃ receipt, t = .answered ⟨receipt, false⟩)
    (I := (DatasetAppends.protocol codec requests).Holds) (C := fun _ _ => True)
    (f := fun rows i => commit rows (appendDatasetItems codec rows (requests i)))
    (fun st e h _ => DatasetAppends.step_holds h e)
    (fun st i s' t' h _ hnext => append_commit h.good.1 (h.knows i) hnext)
    ended_stays trivial answered_anew (by rintro ⟨receipt, ⟨⟩⟩) events (opening newDataset .ready)
    (opening_holds requests (newDataset_accounted codec))
    ((along_iff _ _ _).2 (fun _ _ _ _ => trivial))
  refine ⟨order, hnodup, fun i hi => (hmem i hi).2, fun i receipt hi => ?_, hrun⟩
  rcases hall i ⟨receipt, hi⟩ with ⟨_, ⟨⟩⟩ | hi
  exact hi

end Appends

section Queues
open RequestQueues QueueCounts
variable {requests : ℕ → Request} {i : ℕ} {s s' : RequestQueues.Rows} {t t' : QueueCounts.Txn}

/-- The queue row that a request loaded before it had the lock. -/
def loadedQueue : QueueCounts.Txn → Option RequestQueue
  | .unseen queue | .reclaimed queue _ _ => some queue
  | _ => none

def FreshQueue (_ : ℕ) (s : RequestQueues.Rows) (t : QueueCounts.Txn) : Prop :=
  (loadedQueue t).all (· = s.queue) = true

instance decidableFreshQueue (i : ℕ) (s : RequestQueues.Rows) (t : QueueCounts.Txn) :
    Decidable (FreshQueue i s t) :=
  inferInstanceAs (Decidable (_ = true))

/-- An enqueue goes on under a new idempotency key only. -/
def Unanswered (s : RequestQueues.Rows) : Request → QueueCounts.Txn → Prop
  | .enqueue e, .unseen _ => findReceipt e s.receipts = none
  | _, _ => True

theorem unanswered_unowned (request : Request) (h : ¬ QueueCounts.Owns t .queue) :
    Unanswered s request t := by
  cases t with
  | ready | loaded _ | finished => cases request <;> trivial
  | _ => exact absurd trivial h

theorem unanswered_run (h : QueueCounts.next requests i s t = .run t') :
    Unanswered s (requests i) t' := by
  unfold QueueCounts.next at h
  cases hrequest : requests i with
  | enqueue e =>
    simp only [hrequest] at h
    cases t with
    | locked queue =>
      simp only [enqueueNext] at h
      split at h
      next => cases h
      next hnone => exact Action.run.inj h ▸ hnone
    | ready => exact Action.run.inj h ▸ trivial
    | unseen queue => exact absurd h settle_run
    | _ => cases h
  | _ => trivial

theorem unanswered_lock {l : QueueCounts.Lock} (h : QueueCounts.next requests i s t = .lock l t') :
    Unanswered s (requests i) t' := by
  unfold QueueCounts.next at h
  cases hrequest : requests i with
  | enqueue e =>
    simp only [hrequest] at h
    cases t with
    | locked queue =>
      simp only [enqueueNext] at h
      split at h <;> cases h
    | loaded queue => exact (Action.lock.inj h).2 ▸ trivial
    | unseen queue => exact absurd h settle_lock
    | _ => cases h
  | _ => trivial

/-- What the queue's lock protects of a request that is under way. -/
def queueProtocol (requests : ℕ → Request) :
    Protocol (QueueCounts.next requests) .finished (fun _ _ _ => True) where
  Good _ := True
  Knows i s t := QueueCounts.Knows s (requests i) t ∧ Unanswered s (requests i) t
  Owns := QueueCounts.Owns
  run _ _ _ _ _ hknows _ h :=
    ⟨⟨(next_run hknows.1 h).1, unanswered_run h⟩, (next_run hknows.1 h).2⟩
  lock _ _ _ _ _ _ _ _ h := ⟨⟨next_lock h, unanswered_lock h⟩, fun _ _ => .inl rfl⟩
  commit _ _ _ _ _ _ hknows _ h := by
    obtain ⟨rfl, howns, -⟩ := QueueLifecycle.commit_moves hknows.1 h
    exact ⟨trivial, ⟨knows_unowned _ id, unanswered_unowned _ id⟩, fun _ => id,
      fun j _ _ hdisjoint => ⟨knows_unowned _ (hdisjoint .queue howns),
        unanswered_unowned _ (hdisjoint .queue howns)⟩⟩
  stop _ _ _ _ _ _ _ h := by
    rw [next_stop h]
    exact ⟨⟨knows_unowned _ id, unanswered_unowned _ id⟩, fun _ => id⟩
  abort _ _ := ⟨⟨knows_unowned _ id, unanswered_unowned _ id⟩, fun _ => id⟩

theorem queue_commit (hk : QueueCounts.Knows s (requests i) t) (hu : Unanswered s (requests i) t)
    (hfresh : FreshQueue i s t) (h : QueueCounts.next requests i s t = .commit s' t') :
    (t ≠ .finished ∧ t' = .finished) ∧ s' = commit s (serve s (requests i)) := by
  unfold QueueCounts.next at h
  cases hrequest : requests i with
  | enqueue e =>
    simp only [hrequest] at h hu
    cases t with
    | unseen queue =>
      obtain ⟨hinsert, rfl⟩ := settle_commit h
      obtain rfl : queue = s.queue := of_decide_eq_true hfresh
      have hnone : findReceipt e s.receipts = none := hu
      exact ⟨⟨by rintro ⟨⟩, rfl⟩, by simp [serve, hnone, hinsert, commit, bind, Except.bind, pure, Except.pure]⟩
    | locked queue =>
      simp only [enqueueNext] at h
      split at h <;> cases h
    | _ => cases h
  | claim call =>
    simp only [hrequest] at h hk
    cases t with
    | reclaimed queue session rows =>
      obtain ⟨hclaim, rfl⟩ := settle_commit h
      obtain rfl : queue = s.queue := of_decide_eq_true hfresh
      have hreclaim : reclaimExpiredRequests call s.queue s = .ok (session, rows) := hk
      cases hresult : claimNextRequest call session rows with
      | error f =>
        rw [hresult] at hclaim
        cases hclaim
      | ok result =>
        rw [hresult] at hclaim
        obtain rfl := Except.ok.inj hclaim
        exact ⟨⟨by rintro ⟨⟩, rfl⟩, by simp [serve, hreclaim, hresult, commit, bind, Except.bind, pure,
          Except.pure]⟩
    | locked queue =>
      simp only [claimNext] at h
      split at h <;> cases h
    | _ => cases h
  | complete c =>
    simp only [hrequest] at h hk
    cases t with
    | selected queue request =>
      obtain ⟨hfinish, rfl⟩ := settle_commit h
      obtain ⟨rfl, hget⟩ := hk
      exact ⟨⟨by rintro ⟨⟩, rfl⟩, by simp [serve, hget, demand, hfinish, commit, bind, Except.bind, pure,
        Except.pure]⟩
    | locked queue =>
      simp only [completeNext] at h
      split at h <;> cases h
    | _ => cases h

end Queues

section Mutations
open KeyValueStores KeyValueTotals
variable {mutations : ℕ → Mutation} {i : ℕ} {s s' : KeyValueStores.Rows} {t t' : KeyValueTotals.Txn}

/-- The store row that a mutation loaded before it had the lock. -/
def FreshStore (_ : ℕ) (s : KeyValueStores.Rows) : KeyValueTotals.Txn → Prop
  | .selected store _ => store = s.store
  | _ => True

instance decidableFreshStore (i : ℕ) (s : KeyValueStores.Rows) :
    (t : KeyValueTotals.Txn) → Decidable (FreshStore i s t)
  | .selected store _ => decidable_of_iff (store.recordCount = s.store.recordCount ∧
      store.totalBytes = s.store.totalBytes ∧ store.version = s.store.version)
      (by cases store; cases h : s.store; simp [FreshStore, h])
  | .ready | .loaded _ | .locked _ | .checked _ | .finished => isTrue trivial

/-- What a mutation has found out under the lock of the store. -/
def Found (mutation : Mutation) (s : KeyValueStores.Rows) : KeyValueTotals.Txn → Prop
  | .locked _ => mutation.validation.operation.name = mutation.requiredOperation
  | .checked _ => mutation.validation.operation.name = mutation.requiredOperation ∧
      findReceipt mutation s.receipts = none
  | .selected _ current => mutation.validation.operation.name = mutation.requiredOperation ∧
      findReceipt mutation s.receipts = none ∧ current = findRecord mutation s.records
  | _ => True

theorem found_unowned {mutation : Mutation} (h : ¬ KeyValueTotals.Owns t .store) :
    Found mutation s t := by
  cases t with
  | ready | loaded _ | finished => trivial
  | _ => exact absurd rfl h

theorem found_run (hf : Found (mutations i) s t) (h : KeyValueTotals.next mutations i s t = .run t') :
    Found (mutations i) s t' := by
  cases t with
  | ready => exact Action.run.inj h ▸ trivial
  | loaded store =>
    simp only [KeyValueTotals.next] at h
    split_ifs at h
  | locked store =>
    simp only [KeyValueTotals.next] at h
    split at h
    next => cases h
    next hnone => exact Action.run.inj h ▸ ⟨hf, hnone⟩
  | checked store =>
    simp only [KeyValueTotals.next] at h
    split at h
    next => cases h
    next hnone => exact Action.run.inj h ▸ ⟨hf.1, hf.2, hnone.symm⟩
  | selected store current =>
    simp only [KeyValueTotals.next] at h
    split at h <;> cases h
  | finished => cases h

theorem found_lock {l : KeyValueTotals.Lock} (hf : Found (mutations i) s t)
    (h : KeyValueTotals.next mutations i s t = .lock l t') : Found (mutations i) s t' := by
  cases t with
  | loaded store =>
    simp only [KeyValueTotals.next] at h
    split_ifs at h with hname
    exact (Action.lock.inj h).2 ▸ hname
  | locked store =>
    simp only [KeyValueTotals.next] at h
    split at h <;> cases h
  | checked store =>
    simp only [KeyValueTotals.next] at h
    split at h
    next hrecord => exact (Action.lock.inj h).2 ▸ ⟨hf.1, hf.2, hrecord.symm⟩
    next => cases h
  | selected store current =>
    simp only [KeyValueTotals.next] at h
    split at h <;> cases h
  | _ => cases h

def storeProtocol (mutations : ℕ → Mutation) :
    Protocol (KeyValueTotals.next mutations) .finished (fun _ _ _ => True) where
  Good _ := True
  Knows i s t := Found (mutations i) s t
  Owns := KeyValueTotals.Owns
  run _ _ _ _ _ hknows _ h := ⟨found_run hknows h, (next_run h).2⟩
  lock _ _ _ _ _ _ hknows _ h := ⟨found_lock hknows h, (next_lock h).2⟩
  commit _ _ _ _ _ _ _ _ h := by
    obtain ⟨store, current, rfl, rfl, -⟩ := next_commit h
    exact ⟨trivial, trivial, fun _ => id, fun j u _ hdisjoint => found_unowned (hdisjoint .store rfl)⟩
  stop _ _ _ _ _ _ _ h := by
    rw [next_stop h]
    exact ⟨trivial, fun _ => id⟩
  abort _ _ := ⟨trivial, fun _ => id⟩

theorem mutation_commit (hf : Found (mutations i) s t) (hfresh : FreshStore i s t)
    (h : KeyValueTotals.next mutations i s t = .commit s' t') :
    (t ≠ .finished ∧ t' = .finished) ∧ s' = commit s (mutateKeyValueRecord s (mutations i)) := by
  obtain ⟨store, current, rfl, rfl, hwrite⟩ := next_commit h
  obtain ⟨hname, hnone, rfl⟩ := hf
  obtain rfl : store = s.store := hfresh
  exact ⟨⟨by rintro ⟨⟩, rfl⟩, by simp [mutateKeyValueRecord, hname, hnone, hwrite, require, commit,
    bind, Except.bind, pure, Except.pure]⟩

end Mutations
end RoozDataCloud.SerialCommits
