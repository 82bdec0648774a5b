import RoozDataCloud.RequestQueues

set_option autoImplicit false

/-!
# Queue counters under concurrent requests

An enqueue and a claim load the queue row before they lock it, and compute its
counters from what they loaded. A completion locks the row as it loads it.
-/
namespace RoozDataCloud.QueueCounts
open KeyedTable ExecutionModels FallibleSteps ReadCommitted RequestQueues

inductive Lock where
  | queue
  deriving DecidableEq

inductive Txn where
  | ready
  | loaded (queue : RequestQueue)
  | locked (queue : RequestQueue)
  | unseen (queue : RequestQueue)
  | reclaimed (queue session : RequestQueue) (rows : Rows)
  | selected (queue : RequestQueue) (request : RequestQueueRequest)
  | finished

def settle : Except Failure Rows → Action Rows Txn Lock
  | .ok rows => .commit rows .finished
  | .error _ => .stop .finished

/-- `enqueue_request` behind its permission dependency. A replay writes nothing. -/
def enqueueNext (e : Enqueue) (s : Rows) : Txn → Action Rows Txn Lock
  | .ready => .run (.loaded s.queue)
  | .loaded queue => .lock .queue (.locked queue)
  | .locked queue =>
    match findReceipt e s.receipts with
    | some _ => .stop .finished
    | none => .run (.unseen queue)
  | .unseen queue => settle (insertRequest e queue s)
  | _ => .stop .finished

/-- `claim_worker_queue_request`. What is reclaimed is written before the claim reads it, and
committed with it. -/
def claimNext (call : ClaimCall) (s : Rows) : Txn → Action Rows Txn Lock
  | .ready => .run (.loaded s.queue)
  | .loaded queue => .lock .queue (.locked queue)
  | .locked queue =>
    match reclaimExpiredRequests call queue s with
    | .ok (session, rows) => .run (.reclaimed queue session rows)
    | .error _ => .stop .finished
  | .reclaimed _ session rows =>
    settle ((claimNextRequest call session rows).map (fun result => result.2.1))
  | _ => .stop .finished

/-- `complete_worker_queue_request`. The row locks it takes are under the queue's. -/
def completeNext (c : Completion) (s : Rows) : Txn → Action Rows Txn Lock
  | .ready => .lock .queue (.locked s.queue)
  | .locked queue =>
    match s.requests.get? c.requestId with
    | some request => .run (.selected queue request)
    | none => .stop .finished
  | .selected queue request => settle (finishRequest c queue request s)
  | _ => .stop .finished

def next (requests : ℕ → Request) (i : ℕ) (s : Rows) (t : Txn) : Action Rows Txn Lock :=
  match requests i with
  | .enqueue e => enqueueNext e s t
  | .claim call => claimNext call s t
  | .complete c => completeNext c s t

/-- A claim changes what its reclaiming has changed, and the two counters of a request it finds. -/
def changedByClaim (call : ClaimCall) (queue session : RequestQueue) (rows : Rows)
    (status : QueueStatus) : Bool :=
  session.count status ≠ queue.count status ||
    (status = .pending || status = .claimed) && (nextPending call.now rows.requests).isSome

/-- Every counter that the request changes is still as the request loaded it. -/
def upToDate (s : Rows) : Request → Txn → Bool
  | .enqueue _, .unseen queue => queue.pendingCount = s.queue.pendingCount
  | .claim call, .reclaimed queue session rows =>
    QueueStatus.all.all (fun status => !changedByClaim call queue session rows status ||
      queue.count status = s.queue.count status)
  | _, _ => true

def Current (requests : ℕ → Request) (i : ℕ) (s : Rows) (t : Txn) : Prop :=
  upToDate s (requests i) t = true

instance decidableCurrent (requests : ℕ → Request) (i : ℕ) (s : Rows) (t : Txn) :
    Decidable (Current requests i s t) :=
  inferInstanceAs (Decidable (upToDate s (requests i) t = true))

def statusCount (requests : Table Uuid RequestQueueRequest) (status : QueueStatus) : ℕ :=
  requests.count (fun _ request => request.status = status)

/-- Every counter of the queue is the number of its requests with that status. -/
def Counts (rows : Rows) : Prop :=
  ∀ status, rows.queue.count status = statusCount rows.requests status ∧ 0 ≤ rows.queue.count status

theorem counts_iff {rows : Rows} :
    Counts rows ↔ ∀ status, rows.queue.count status = statusCount rows.requests status := by
  refine ⟨fun h status => (h status).1, fun h status => ⟨h status, ?_⟩⟩
  rw [h status]
  exact Int.natCast_nonneg _

theorem statusCount_modify {requests : Table Uuid RequestQueueRequest} {id : Uuid}
    {request : RequestQueueRequest} (f : RequestQueueRequest → RequestQueueRequest)
    (status : QueueStatus) (h : requests.get? id = some request) :
    (statusCount (requests.modify id f) status : ℤ) = statusCount requests status -
      (if request.status = status then 1 else 0) + (if (f request).status = status then 1 else 0) := by
  simp only [statusCount, Table.count_eq_sum, Table.sum_modify f _ h, decide_eq_true_eq]

theorem statusCount_insert {requests requests' : Table Uuid RequestQueueRequest} {id : Uuid}
    {request : RequestQueueRequest} (status : QueueStatus)
    (h : requests.insert? id request = some requests') :
    (statusCount requests' status : ℤ) =
      statusCount requests status + if request.status = status then 1 else 0 := by
  simp only [statusCount, Table.count_eq_sum, Table.sum_insert _ h, decide_eq_true_eq]

/-- The session's counters change as the requests do. -/
def Tracks (loaded changed : RequestQueue) (requests requests' : Table Uuid RequestQueueRequest) :
    Prop :=
  ∀ status, changed.count status =
    loaded.count status - statusCount requests status + statusCount requests' status

theorem Tracks.refl (queue : RequestQueue) (requests : Table Uuid RequestQueueRequest) :
    Tracks queue queue requests requests := by
  intro status
  omega

theorem Tracks.trans {first second third : RequestQueue}
    {requests requests' requests'' : Table Uuid RequestQueueRequest}
    (h : Tracks first second requests requests') (h' : Tracks second third requests' requests'') :
    Tracks first third requests requests'' := by
  intro status
  have := h status
  have := h' status
  omega

theorem tracks_moved {queue : RequestQueue} {requests : Table Uuid RequestQueueRequest} {id : Uuid}
    {request changed : RequestQueueRequest} (h : requests.get? id = some request) :
    Tracks queue (queue.moved request.status changed.status) requests
      (requests.modify id (fun _ => changed)) := by
  intro status
  rw [RequestQueue.count_moved, statusCount_modify _ status h]
  omega

theorem tracks_inserted {queue : RequestQueue} {requests requests' : Table Uuid RequestQueueRequest}
    {id : Uuid} {request : RequestQueueRequest} (h : requests.insert? id request = some requests') :
    Tracks queue (queue.add 1 request.status) requests requests' := by
  intro status
  rw [RequestQueue.count_add, statusCount_insert status h]
  omega

theorem tracks_reclaimed (entries : List (Uuid × RequestQueueRequest)) (session : Rows)
    (hnodup : (entries.map Prod.fst).Nodup)
    (hentries : ∀ entry ∈ entries, session.requests.get? entry.1 = some entry.2 ∧
      entry.2.status = .claimed) :
    Tracks session.queue (entries.foldl reclaimRequest session).queue session.requests
      (entries.foldl reclaimRequest session).requests := by
  induction entries generalizing session with
  | nil => exact Tracks.refl _ _
  | cons entry entries ih =>
    rw [List.map_cons, List.nodup_cons] at hnodup
    obtain ⟨hget, hclaimed⟩ := hentries entry List.mem_cons_self
    have hfirst : Tracks session.queue (reclaimRequest session entry).queue session.requests
        (reclaimRequest session entry).requests := by
      have hmoved : Tracks session.queue
          (session.queue.moved entry.2.status (reclaimedRequest entry.2).status) session.requests
          (session.requests.modify entry.1 (fun _ => reclaimedRequest entry.2)) := tracks_moved hget
      rw [hclaimed] at hmoved
      exact hmoved
    refine hfirst.trans (ih (reclaimRequest session entry) hnodup.2 (fun other hother => ?_))
    have hne : other.1 ≠ entry.1 := fun he => hnodup.1 (he ▸ List.mem_map_of_mem hother)
    obtain ⟨hother', hstatus⟩ := hentries other (List.mem_cons_of_mem _ hother)
    exact ⟨(Table.get?_modify_ne _ _ hne).trans hother', hstatus⟩

theorem flush_ok {loaded stored : RequestQueue} {session rows : Rows}
    (h : flush loaded stored session = .ok rows) :
    rows.queue = flushQueue loaded session.queue stored ∧ rows.requests = session.requests := by
  simp only [flush, bind_ok, require_ok, pure_ok] at h
  obtain ⟨-, -, rfl⟩ := h
  exact ⟨rfl, rfl⟩

theorem insertRequest_ok {e : Enqueue} {queue : RequestQueue} {s s' : Rows}
    (h : insertRequest e queue s = .ok s') :
    s'.queue = flushQueue queue (queue.add 1 .pending) s.queue ∧
      Tracks queue (queue.add 1 .pending) s.requests s'.requests := by
  simp only [insertRequest, bind_ok, require_ok, demand_ok] at h
  obtain ⟨-, -, requests, hrequests, receipts, -, hflush⟩ := h
  obtain ⟨hqueue, hsame⟩ := flush_ok hflush
  exact ⟨hqueue, hsame ▸ tracks_inserted hrequests⟩

theorem reclaimExpiredRequests_ok {call : ClaimCall} {queue session : RequestQueue} {s rows : Rows}
    (h : reclaimExpiredRequests call queue s = .ok (session, rows)) :
    rows.queue = flushQueue queue session s.queue ∧
      Tracks queue session s.requests rows.requests := by
  simp only [reclaimExpiredRequests, bind_ok, pure_ok] at h
  obtain ⟨flushed, hflush, he⟩ := h
  obtain ⟨rfl, rfl⟩ := Prod.mk.inj he
  obtain ⟨hqueue, hsame⟩ := flush_ok hflush
  refine ⟨hqueue, hsame ▸ tracks_reclaimed _ { s with queue := queue } (Table.select_keys_nodup _ _) ?_⟩
  intro entry hentry
  obtain ⟨hget, hexpired⟩ := (Table.mem_select _ _ entry.1 entry.2).1 hentry
  simp only [claimExpired, Bool.and_eq_true, decide_eq_true_eq] at hexpired
  exact ⟨hget, hexpired.1⟩

theorem nextPending_some {now : Time} {requests : Table Uuid RequestQueueRequest} {id : Uuid}
    {request : RequestQueueRequest} (h : nextPending now requests = some (id, request)) :
    requests.get? id = some request ∧ request.status = .pending := by
  have hmem := List.mem_of_mem_head? h
  rw [List.mem_insertionSort, Table.mem_select] at hmem
  simp only [Bool.and_eq_true, decide_eq_true_eq] at hmem
  exact ⟨hmem.1, hmem.2.1⟩

theorem flushQueue_same (loaded stored : RequestQueue) : flushQueue loaded loaded stored = stored := by
  simp only [flushQueue, flushColumn_same]

theorem claimNextRequest_ok {call : ClaimCall} {session changed : RequestQueue} {rows s' : Rows}
    {claimed : Option Uuid} (h : claimNextRequest call session rows = .ok (changed, s', claimed)) :
    s'.queue = flushQueue session changed rows.queue ∧
      Tracks session changed rows.requests s'.requests ∧
      changed = if (nextPending call.now rows.requests).isSome then session.moved .pending .claimed
        else session := by
  simp only [claimNextRequest, bind_ok, require_ok] at h
  obtain ⟨-, -, h⟩ := h
  cases hpending : nextPending call.now rows.requests with
  | none =>
    simp only [hpending, pure_ok, Prod.mk.injEq] at h
    obtain ⟨rfl, rfl, -⟩ := h
    exact ⟨(flushQueue_same _ _).symm, Tracks.refl _ _, rfl⟩
  | some entry =>
    obtain ⟨id, request⟩ := entry
    simp only [hpending, bind_ok, pure_ok, Prod.mk.injEq] at h
    obtain ⟨flushed, hflush, rfl, rfl, -⟩ := h
    obtain ⟨hqueue, hsame⟩ := flush_ok hflush
    obtain ⟨hget, hstatus⟩ := nextPending_some hpending
    have hmoved : Tracks session
        (session.moved request.status (claimedRequest call request).status) rows.requests
        (rows.requests.modify id (fun _ => claimedRequest call request)) := tracks_moved hget
    rw [hstatus] at hmoved
    exact ⟨hqueue, hsame ▸ hmoved, rfl⟩

theorem finishRequest_ok {c : Completion} {queue : RequestQueue} {request : RequestQueueRequest}
    {s s' : Rows} (hget : s.requests.get? c.requestId = some request)
    (h : finishRequest c queue request s = .ok s') :
    ∃ changed, s'.queue = flushQueue queue changed s.queue ∧
      Tracks queue changed s.requests s'.requests := by
  simp only [finishRequest, bind_ok, require_ok] at h
  obtain ⟨-, hheld, hflush⟩ := h
  obtain ⟨hqueue, hsame⟩ := flush_ok hflush
  have hmoved : Tracks queue (queue.moved request.status (completedRequest c request).status)
      s.requests (s.requests.modify c.requestId (fun _ => completedRequest c request)) :=
    tracks_moved hget
  rw [hheld.1] at hmoved
  exact ⟨_, hqueue, hsame ▸ hmoved⟩

section Exact
variable {s s' : Rows} {queue session changed : RequestQueue}

theorem right_count (hcounts : Counts s) (s' : Rows) (status : QueueStatus) :
    s.queue.count status - statusCount s.requests status + statusCount s'.requests status =
      (statusCount s'.requests status : ℤ) := by
  rw [(hcounts status).1]
  omega

theorem counts_flushed (hcounts : Counts s) (hqueue : s'.queue = flushQueue queue changed s.queue)
    (htracks : Tracks queue changed s.requests s'.requests) :
    Counts s' ↔ ∀ status, changed.count status = queue.count status ∨
      queue.count status = s.queue.count status := by
  rw [counts_iff]
  refine forall_congr' (fun status => ?_)
  rw [hqueue, count_flushQueue, ← right_count hcounts s' status, flushColumn_shifted (htracks status)]

theorem counts_flushed_twice {rows : Rows} (hcounts : Counts s)
    (hfirst : rows.queue = flushQueue queue session s.queue)
    (hreclaimed : Tracks queue session s.requests rows.requests)
    (hsecond : s'.queue = flushQueue session changed rows.queue)
    (hclaimed : Tracks session changed rows.requests s'.requests) :
    Counts s' ↔ ∀ status,
      session.count status = queue.count status ∧ changed.count status = queue.count status ∨
        queue.count status = s.queue.count status := by
  rw [counts_iff]
  refine forall_congr' (fun status => ?_)
  rw [hsecond, count_flushQueue, hfirst, count_flushQueue, ← right_count hcounts s' status,
    flushColumn_twice ((hreclaimed.trans hclaimed) status)]

theorem counts_inserted {e : Enqueue} (hcounts : Counts s)
    (h : insertRequest e queue s = .ok s') :
    Counts s' ↔ upToDate s (.enqueue e) (.unseen queue) = true := by
  obtain ⟨hqueue, htracks⟩ := insertRequest_ok h
  rw [counts_flushed hcounts hqueue htracks, upToDate, decide_eq_true_eq]
  constructor
  · intro hall
    have hpending := hall .pending
    rw [RequestQueue.count_add, if_pos rfl] at hpending
    exact hpending.resolve_left (by omega)
  · intro hpending status
    rw [RequestQueue.count_add]
    split_ifs with hstatus
    · exact .inr (hstatus ▸ hpending)
    · exact .inl (add_zero _)

theorem changedByClaim_false {call : ClaimCall} {rows : Rows} {status : QueueStatus}
    (hchanged : changed = if (nextPending call.now rows.requests).isSome then
      session.moved .pending .claimed else session) :
    changedByClaim call queue session rows status = false ↔
      session.count status = queue.count status ∧ changed.count status = queue.count status := by
  rw [hchanged, changedByClaim]
  cases (nextPending call.now rows.requests).isSome with
  | false => simp
  | true =>
    cases status <;> simp [RequestQueue.count_moved] <;> omega

theorem counts_claimed {call : ClaimCall} {rows : Rows} {claimed : Option Uuid} (hcounts : Counts s)
    (hreclaim : reclaimExpiredRequests call queue s = .ok (session, rows))
    (hclaim : claimNextRequest call session rows = .ok (changed, s', claimed)) :
    Counts s' ↔ upToDate s (.claim call) (.reclaimed queue session rows) = true := by
  obtain ⟨hfirst, hreclaimed⟩ := reclaimExpiredRequests_ok hreclaim
  obtain ⟨hsecond, hclaimed, hchanged⟩ := claimNextRequest_ok hclaim
  have hall : ∀ status, status ∈ QueueStatus.all := by
    intro status
    cases status <;> decide
  rw [counts_flushed_twice hcounts hfirst hreclaimed hsecond hclaimed, upToDate, List.all_eq_true]
  simp only [Bool.or_eq_true, Bool.not_eq_true', decide_eq_true_eq, changedByClaim_false hchanged]
  exact ⟨fun h status _ => h status, fun h status => h status (hall status)⟩

theorem counts_finished {c : Completion} {request : RequestQueueRequest} (hcounts : Counts s)
    (hget : s.requests.get? c.requestId = some request)
    (h : finishRequest c s.queue request s = .ok s') : Counts s' := by
  obtain ⟨changed, hqueue, htracks⟩ := finishRequest_ok hget h
  exact (counts_flushed hcounts hqueue htracks).2 (fun _ => .inr rfl)

end Exact

/-- A transaction that holds the queue's lock keeps what it read under it. -/
def Knows (s : Rows) : Request → Txn → Prop
  | .claim call, .reclaimed queue session rows =>
    reclaimExpiredRequests call queue s = .ok (session, rows)
  | .complete _, .locked queue => queue = s.queue
  | .complete c, .selected queue request =>
    queue = s.queue ∧ s.requests.get? c.requestId = some request
  | _, _ => True

def Owns : Txn → Lock → Prop
  | .locked _, _ | .unseen _, _ | .reclaimed _ _ _, _ | .selected _ _, _ => True
  | _, _ => False

theorem settle_commit {result : Except Failure Rows} {s : Rows} {t : Txn}
    (h : settle result = .commit s t) : result = .ok s ∧ t = .finished := by
  cases result with
  | error e => cases h
  | ok rows =>
    obtain ⟨rfl, rfl⟩ := Action.commit.inj h
    exact ⟨rfl, rfl⟩

theorem settle_run {result : Except Failure Rows} {t : Txn} : settle result ≠ .run t := by
  cases result <;> exact fun h => nomatch h

theorem settle_lock {result : Except Failure Rows} {l : Lock} {t : Txn} :
    settle result ≠ .lock l t := by
  cases result <;> exact fun h => nomatch h

theorem settle_stop {result : Except Failure Rows} {t : Txn} (h : settle result = .stop t) :
    t = .finished := by
  cases result with
  | error e => exact (Action.stop.inj h).symm
  | ok rows => cases h

/-- A statement that neither locks nor commits. -/
theorem next_run {requests : ℕ → Request} {i : ℕ} {s : Rows} {t t' : Txn}
    (hknows : Knows s (requests i) t) (h : next requests i s t = .run t') :
    Knows s (requests i) t' ∧ ∀ l, Owns t' l → Owns t l := by
  unfold next at h
  cases hrequest : requests i with
  | enqueue e =>
    simp only [hrequest] at h
    cases t with
    | ready =>
      obtain rfl := Action.run.inj h
      exact ⟨trivial, fun _ => id⟩
    | locked queue =>
      simp only [enqueueNext] at h
      split at h
      · cases h
      · obtain rfl := Action.run.inj h
        exact ⟨trivial, fun _ => id⟩
    | unseen queue => exact absurd h settle_run
    | _ => cases h
  | claim call =>
    simp only [hrequest] at h
    cases t with
    | ready =>
      obtain rfl := Action.run.inj h
      exact ⟨trivial, fun _ => id⟩
    | locked queue =>
      simp only [claimNext] at h
      split at h
      · rename_i session rows hreclaim
        obtain rfl := Action.run.inj h
        exact ⟨hreclaim, fun _ => id⟩
      · cases h
    | reclaimed queue session rows => exact absurd h settle_run
    | _ => cases h
  | complete c =>
    simp only [hrequest] at h hknows
    cases t with
    | locked queue =>
      simp only [completeNext] at h
      split at h
      · rename_i request hget
        obtain rfl := Action.run.inj h
        exact ⟨⟨hknows, hget⟩, fun _ => id⟩
      · cases h
    | selected queue request => exact absurd h settle_run
    | _ => cases h

theorem next_lock {requests : ℕ → Request} {i : ℕ} {s : Rows} {t t' : Txn} {l : Lock}
    (h : next requests i s t = .lock l t') : Knows s (requests i) t' := by
  unfold next at h
  cases hrequest : requests i with
  | enqueue e =>
    simp only [hrequest] at h
    cases t with
    | loaded queue =>
      obtain ⟨-, rfl⟩ := Action.lock.inj h
      trivial
    | locked queue =>
      simp only [enqueueNext] at h
      split at h <;> cases h
    | unseen queue => exact absurd h settle_lock
    | _ => cases h
  | claim call =>
    simp only [hrequest] at h
    cases t with
    | loaded queue =>
      obtain ⟨-, rfl⟩ := Action.lock.inj h
      trivial
    | locked queue =>
      simp only [claimNext] at h
      split at h <;> cases h
    | reclaimed queue session rows => exact absurd h settle_lock
    | _ => cases h
  | complete c =>
    simp only [hrequest] at h
    cases t with
    | ready =>
      obtain ⟨-, rfl⟩ := Action.lock.inj h
      rfl
    | locked queue =>
      simp only [completeNext] at h
      split at h <;> cases h
    | selected queue request => exact absurd h settle_lock
    | _ => cases h

theorem next_stop {requests : ℕ → Request} {i : ℕ} {s : Rows} {t t' : Txn}
    (h : next requests i s t = .stop t') : t' = .finished := by
  unfold next at h
  cases hrequest : requests i with
  | enqueue e =>
    simp only [hrequest] at h
    cases t with
    | locked queue =>
      simp only [enqueueNext] at h
      split at h
      · exact (Action.stop.inj h).symm
      · cases h
    | unseen queue => exact settle_stop h
    | ready => cases h
    | loaded queue => cases h
    | _ => exact (Action.stop.inj h).symm
  | claim call =>
    simp only [hrequest] at h
    cases t with
    | locked queue =>
      simp only [claimNext] at h
      split at h
      · cases h
      · exact (Action.stop.inj h).symm
    | reclaimed queue session rows => exact settle_stop h
    | ready => cases h
    | loaded queue => cases h
    | _ => exact (Action.stop.inj h).symm
  | complete c =>
    simp only [hrequest] at h
    cases t with
    | locked queue =>
      simp only [completeNext] at h
      split at h
      · cases h
      · exact (Action.stop.inj h).symm
    | selected queue request => exact settle_stop h
    | ready => cases h
    | _ => exact (Action.stop.inj h).symm

/-- A commit is made under the queue's lock, and leaves the counters right exactly when the
request was current. -/
theorem next_commit {requests : ℕ → Request} {i : ℕ} {s s' : Rows} {t t' : Txn} (hcounts : Counts s)
    (hknows : Knows s (requests i) t) (h : next requests i s t = .commit s' t') :
    t' = .finished ∧ Owns t .queue ∧ (Counts s' ↔ Current requests i s t) := by
  unfold next at h
  unfold Current
  cases hrequest : requests i with
  | enqueue e =>
    simp only [hrequest] at h
    cases t with
    | unseen queue =>
      obtain ⟨hinsert, rfl⟩ := settle_commit h
      exact ⟨rfl, trivial, counts_inserted hcounts hinsert⟩
    | locked queue =>
      simp only [enqueueNext] at h
      split at h <;> cases h
    | _ => cases h
  | claim call =>
    simp only [hrequest] at h hknows
    cases t with
    | reclaimed queue session rows =>
      obtain ⟨hresult, rfl⟩ := settle_commit h
      obtain ⟨⟨changed, rows', claimed⟩, hclaim, rfl⟩ := map_ok.1 hresult
      exact ⟨rfl, trivial, counts_claimed hcounts hknows hclaim⟩
    | locked queue =>
      simp only [claimNext] at h
      split at h <;> cases h
    | _ => cases h
  | complete c =>
    simp only [hrequest] at h hknows
    cases t with
    | selected queue request =>
      obtain ⟨hfinish, rfl⟩ := settle_commit h
      obtain ⟨rfl, hget⟩ := hknows
      exact ⟨rfl, trivial, fun _ => rfl, fun _ => counts_finished hcounts hget hfinish⟩
    | locked queue =>
      simp only [completeNext] at h
      split at h <;> cases h
    | _ => cases h

theorem knows_unowned {s : Rows} {t : Txn} (request : Request) (h : ¬ Owns t .queue) :
    Knows s request t := by
  cases t with
  | ready | loaded _ | finished => cases request <;> trivial
  | _ => exact absurd trivial h

theorem finished_knows (requests : ℕ → Request) (i : ℕ) (s : Rows) :
    Knows s (requests i) .finished ∧ ∀ l, ¬ Owns .finished l :=
  ⟨knows_unowned _ id, fun _ => id⟩

def protocol (requests : ℕ → Request) :
    Protocol (next requests) .finished (AtCommit (next requests) (Current requests)) where
  Good := Counts
  Knows i s t := Knows s (requests i) t
  Owns := Owns
  run _ _ _ _ _ hknows _ h := next_run hknows h
  lock _ _ _ _ _ _ _ _ h := ⟨next_lock h, fun _ _ => .inl rfl⟩
  commit i s t s' t' hgood hknows hcurrent h := by
    obtain ⟨rfl, howns, hexact⟩ := next_commit hgood hknows h
    exact ⟨hexact.2 (hcurrent _ _ h), knows_unowned _ id, fun _ => id,
      fun j _ _ hdisjoint => knows_unowned (requests j) (hdisjoint .queue howns)⟩
  stop _ _ _ _ _ _ _ h := by
    rw [next_stop h]
    exact ⟨knows_unowned _ id, fun _ => id⟩
  abort := finished_knows requests

/-- Over every interleaving of queue requests, the counters are right after each step if and only
if no enqueue or claim commits a counter that it computed from an outdated queue row. -/
theorem counts_hold_iff (requests : ℕ → Request) (rows : Rows) (hcounts : Counts rows)
    (events : List Event) :
    (∀ before after, events = before ++ after →
      Counts (exec (step (next requests) .finished) (opening rows .ready) before).committed) ↔
    Along (step (next requests) .finished)
      (Meets (next requests) (AtCommit (next requests) (Current requests)))
      (opening rows .ready) events := by
  refine (Protocol.along_iff (protocol requests) (P := Counts) (fun _ => id) ?_ events
    ((protocol requests).holds_opening (t := Txn.ready) hcounts (fun _ => knows_unowned _ id)
      (fun _ => id))).symm
  intro i s t s' t' hgood hknows hcommit hcounts'
  exact (next_commit hgood hknows hcommit).2.2.1 hcounts'

/-- A queue as it is created. -/
def newQueue : Rows where
  queue := ⟨0, 0, 0, 0⟩
  requests := .empty
  receipts := .empty
  transitions := []

theorem newQueue_counts : Counts newQueue := by
  intro status
  cases status <;> exact ⟨rfl, le_refl _⟩

/-- Request `i` enqueues a page of its own. -/
def ownPages (i : ℕ) : Request :=
  .enqueue
    { idempotencyKey := "enqueue-" ++ toString i
      requestDigest := "digest-" ++ toString i
      identityDigest := "page-" ++ toString i
      url := "https://example.com/" ++ toString i
      uniqueKey := none
      userData := .object []
      requestId := i
      receiptId := i
      now := 0 }

def rowsAfter (events : List Event) : Rows :=
  (exec (step (next ownPages) .finished) (opening newQueue .ready) events).committed

/-- Both requests are authorized before either has the lock; both then write one. -/
theorem second_page_uncounted :
    let rows := rowsAfter [.advance 0, .advance 1, .advance 0, .advance 0, .advance 0, .advance 1,
      .advance 1, .advance 1]
    statusCount rows.requests .pending = 2 ∧ rows.queue.pendingCount = 1 := by
  decide +kernel

/-- One after the other, both are counted. -/
theorem both_pages_counted :
    Counts (rowsAfter [.advance 0, .advance 0, .advance 0, .advance 0, .advance 1, .advance 1,
      .advance 1, .advance 1]) :=
  (counts_hold_iff ownPages newQueue newQueue_counts _).2 (by decide +kernel) _ []
    (List.append_nil _).symm

end RoozDataCloud.QueueCounts
