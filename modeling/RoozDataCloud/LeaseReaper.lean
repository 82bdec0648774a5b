import RoozDataCloud.CancellationConvergence

set_option autoImplicit false

/-!
# Reaping expired leases and detecting lost workers
-/
namespace RoozDataCloud.LeaseReaper
open KeyedTable ExecutionModels FallibleSteps ExecutionRecovery CancellationConvergence

def expiredSource (retry : Bool) (next : Option Time) (now : Time) (failureCode : String)
    (source : OutboxSource) : OutboxSource :=
  { source with
    status := if retry then .pending else .failed
    availableAt := next.getD now
    lastErrorCode := some failureCode }

def expiredBuild (retry deadlineExceeded : Bool) (now : Time) (failureCode : String)
    (build : Build) : Build :=
  { build with
    status := if retry then .queued else if deadlineExceeded then .timedOut else .failed
    errorCode := if retry then none else some failureCode
    errorMessage :=
      if retry then none
      else if deadlineExceeded then some "The Build execution deadline was exceeded."
      else if failureCode = "WORKER_LOST" then some "The execution worker was lost."
      else some "The execution lease expired."
    completedAt := if retry then none else some now
    version := build.version + 1 }

def expiredStartRun (retry deadlineExceeded : Bool) (now : Time) (failureCode : String)
    (run : Run) : Run :=
  { run with
    status := if retry then .queued else if deadlineExceeded then .timedOut else .failed
    failureCode := if retry then none else some failureCode
    failureSummary :=
      if retry then none
      else if deadlineExceeded then some "The Run execution deadline was exceeded."
      else if failureCode = "WORKER_LOST" then some "The execution worker was lost."
      else some "The execution lease expired."
    finishedAt := if retry then none else some now
    version := run.version + 1 }

def expiredCancelRun (retry deadlineExceeded : Bool) (now : Time) (run : Run) : Run :=
  if retry then { run with version := run.version + 1 }
  else
    { run with
      status := .failed
      failureCode :=
        some (if deadlineExceeded then "CANCEL_DEADLINE_EXCEEDED" else "CANCEL_LEASE_EXPIRED")
      failureSummary :=
        some (if deadlineExceeded then "The cancellation deadline was exceeded."
          else "The cancellation lease expired.")
      finishedAt := some now
      version := run.version + 1 }

def expiredTarget (retry deadlineExceeded : Bool) (now : Time) (failureCode : String)
    (st : State) : Target → State
  | .build b => st.setBuild b (expiredBuild retry deadlineExceeded now failureCode)
  | .runStart r => st.setRun r (expiredStartRun retry deadlineExceeded now failureCode)
  | .runCancel r => st.setRun r (expiredCancelRun retry deadlineExceeded now)

def cancelRequested (st : State) (runId : Uuid) : Bool :=
  (st.runs.get? runId).any (fun run => run.cancelRequestedAt.isSome)

/-- Convergence is tried first when the run of the lease has been cancelled; if it reports
`false` the reset below still runs, on the state the fence left behind. -/
def convergeExpired (st : State) (now : Time) : Target → State × Bool
  | .build _ => (st, false)
  | .runStart r => if cancelRequested st r then convergeCancelledRun st r now else (st, false)
  | .runCancel r => if cancelRequested st r then convergeCancelledRun st r now else (st, false)

def resetExpiredSource (d : Deployment) (st : State) (lease : ExecutionLease) (now : Time)
    (deadlineExceeded : Bool) (failureCode : String) : Except Failure (State × Bool) :=
  let (st, converged) := convergeExpired st now lease.target
  if converged then pure (st, true)
  else do
    let retry := executionRetryAllowed (!deadlineExceeded) .failed lease.attempt
      d.settings.workerMaxAttempts (st.outbox.get? lease.source).isSome
    let next ← nextAttemptAt d retry now lease.attempt
    let st := st.setSource lease.source (expiredSource retry next now failureCode)
    pure (expiredTarget retry deadlineExceeded now failureCode st lease.target, false)

def expiryFailureCode (now : Time) (lease : ExecutionLease) : String :=
  if lease.deadlineAt ≤ now then "WORKLOAD_DEADLINE_EXCEEDED"
  else if lease.failureCode = some "WORKER_LOST" then "WORKER_LOST"
  else "LEASE_EXPIRED"

def expiredLease (now : Time) (lease : ExecutionLease) : ExecutionLease :=
  { lease with
    status := if lease.deadlineAt ≤ now then .failed else .expired
    completedAt := some now
    failureCode := some (expiryFailureCode now lease)
    failureSummary :=
      some (if lease.deadlineAt ≤ now then "The workload execution deadline was exceeded."
        else if expiryFailureCode now lease = "WORKER_LOST" then
          "The execution worker heartbeat was lost."
        else "The worker did not renew the lease.") }

def reapLease (d : Deployment) (now : Time) (st : State) (leaseId : Uuid) :
    Except Failure State :=
  match st.leases.get? leaseId with
  | none => pure st
  | some lease => do
    let (st', converged) ← resetExpiredSource d st lease now (lease.deadlineAt ≤ now)
      (expiryFailureCode now lease)
    if converged then pure st'
    else pure ((st'.closeGrants leaseId .expired).setLease leaseId (fun _ => expiredLease now lease))

theorem convergeExpired_cases (st : State) (now : Time) (target : Target) :
    ((convergeExpired st now target).1 = st ∧ (convergeExpired st now target).2 = false ∧
      ∀ r, target.runId? = some r → cancelRequested st r = false) ∨
    ∃ r, target.runId? = some r ∧ cancelRequested st r = true ∧
      convergeExpired st now target = convergeCancelledRun st r now := by
  cases target with
  | build b => exact .inl ⟨rfl, rfl, fun r h => by cases h⟩
  | runStart r =>
    cases hr : cancelRequested st r with
    | false =>
      refine .inl ⟨by simp [convergeExpired, hr], by simp [convergeExpired, hr], fun r' h => ?_⟩
      obtain rfl := Option.some.inj h
      exact hr
    | true => exact .inr ⟨r, rfl, hr, by simp [convergeExpired, hr]⟩
  | runCancel r =>
    cases hr : cancelRequested st r with
    | false =>
      refine .inl ⟨by simp [convergeExpired, hr], by simp [convergeExpired, hr], fun r' h => ?_⟩
      obtain rfl := Option.some.inj h
      exact hr
    | true => exact .inr ⟨r, rfl, hr, by simp [convergeExpired, hr]⟩

/-- The retry decision taken for an expired lease. -/
def expiryRetry (d : Deployment) (now : Time) (st : State) (lease : ExecutionLease) : Bool :=
  executionRetryAllowed (!decide (lease.deadlineAt ≤ now)) .failed lease.attempt
    d.settings.workerMaxAttempts (st.outbox.get? lease.source).isSome

/-- The tables after an expired lease has been settled on `base`. -/
def settledExpired (now : Time) (retry : Bool) (next : Option Time) (base : State) (leaseId : Uuid)
    (lease : ExecutionLease) : State :=
  let code := expiryFailureCode now lease
  let st := base.setSource lease.source (expiredSource retry next now code)
  let st := expiredTarget retry (lease.deadlineAt ≤ now) now code st lease.target
  (st.closeGrants leaseId .expired).setLease leaseId (fun _ => expiredLease now lease)

theorem reapLease_cases {d : Deployment} {now : Time} {st st' : State} {leaseId : Uuid}
    {lease : ExecutionLease} (hlease : st.leases.get? leaseId = some lease)
    (h : reapLease d now st leaseId = .ok st') :
    let base := (convergeExpired st now lease.target).1
    ((convergeExpired st now lease.target).2 = true ∧ st' = base) ∨
    ((convergeExpired st now lease.target).2 = false ∧ ∃ next,
      st' = settledExpired now (expiryRetry d now base lease) next base leaseId lease) := by
  simp only [reapLease, hlease, resetExpiredSource, bind_ok] at h
  obtain ⟨⟨mid, flag⟩, hreset, hfinish⟩ := h
  cases hc : (convergeExpired st now lease.target).2 with
  | true =>
    simp only [hc, ↓reduceIte, pure_ok] at hreset
    cases hreset
    simp only [↓reduceIte, pure_ok] at hfinish
    exact .inl ⟨rfl, hfinish.symm⟩
  | false =>
    simp only [hc, Bool.false_eq_true, ↓reduceIte, bind_ok, pure_ok] at hreset
    obtain ⟨next, -, hmid⟩ := hreset
    cases hmid
    simp only [Bool.false_eq_true, ↓reduceIte, pure_ok] at hfinish
    exact .inr ⟨rfl, next, hfinish.symm⟩

theorem reapLease_total (d : Deployment) (now : Time) (st : State) (leaseId : Uuid) :
    ∃ st', reapLease d now st leaseId = .ok st' := by
  unfold reapLease
  cases hlease : st.leases.get? leaseId with
  | none => exact ⟨st, rfl⟩
  | some lease =>
    cases hc : (convergeExpired st now lease.target).2 with
    | true =>
      simp only [resetExpiredSource, hc, ↓reduceIte, bind_ok, pure_ok]
      exact ⟨_, _, rfl, rfl⟩
    | false =>
      obtain ⟨next, hnext⟩ := nextAttemptAt_total d
        (expiryRetry d now (convergeExpired st now lease.target).1 lease) now lease.attempt
        (fun h => (executionRetryAllowed_iff.1 h).2.2.2.1)
      simp only [resetExpiredSource, hc, Bool.false_eq_true, ↓reduceIte, bind_ok, pure_ok]
      exact ⟨_, _, ⟨next, hnext, rfl⟩, rfl⟩

def leaseExpired (now : Time) (lease : ExecutionLease) : Bool :=
  lease.status = .active && (decide (lease.expiresAt ≤ now) || decide (lease.deadlineAt ≤ now))

def expiredLeases (st : State) (now : Time) (batchSize : ℕ) : List Uuid :=
  (((st.leases.select (fun _ lease => leaseExpired now lease)).insertionSort
    (fun a b => a.2.expiresAt ≤ b.2.expiresAt)).take batchSize).map Prod.fst

def reapExpiredLeases (d : Deployment) (st : State) (now : Time) (batchSize : ℕ)
    (reapCancellations : Bool) : Except Failure (State × ℕ) := do
  require (1 ≤ batchSize ∧ batchSize ≤ 500)
    (.value "Lease recovery batch size must be between 1 and 500.")
  let records := expiredLeases st now batchSize
  let st ← records.foldlM (reapLease d now) st
  if reapCancellations then do
    let (st, _) ← reapOverdueCancellations st now batchSize
    pure (st, records.length)
  else pure (st, records.length)

theorem mem_expiredLeases {st : State} {now : Time} {batchSize : ℕ} {l : Uuid}
    (h : l ∈ expiredLeases st now batchSize) :
    ∃ lease, st.leases.get? l = some lease ∧ leaseExpired now lease = true := by
  obtain ⟨⟨l', lease⟩, hmem, rfl⟩ := List.mem_map.1 h
  exact ⟨lease, Table.mem_take_sorted hmem⟩

theorem expiredLeases_nodup (st : State) (now : Time) (batchSize : ℕ) :
    (expiredLeases st now batchSize).Nodup :=
  Table.take_sorted_nodup

theorem reapExpiredLeases_total (d : Deployment) (st : State) (now : Time) (batchSize : ℕ)
    (hsize : 1 ≤ batchSize ∧ batchSize ≤ 500) :
    ∃ st' n, reapExpiredLeases d st now batchSize true = .ok (st', n) := by
  obtain ⟨mid, hloop⟩ := foldlM_total (expiredLeases st now batchSize)
    (fun st l => reapLease_total d now st l) st
  simp only [reapExpiredLeases, reapOverdueCancellations, bind_ok, require_ok, pure_ok, ↓reduceIte]
  exact ⟨_, _, (), hsize, mid, hloop, _, ⟨(), hsize, rfl⟩, rfl⟩

/-- A pass of the reaper is its loop, then possibly the overdue cancellations. -/
theorem reapExpiredLeases_ok {d : Deployment} {st st' : State} {now : Time} {batchSize n : ℕ}
    {reapCancellations : Bool}
    (h : reapExpiredLeases d st now batchSize reapCancellations = .ok (st', n)) :
    ∃ mid, (expiredLeases st now batchSize).foldlM (reapLease d now) st = .ok mid ∧
      (st' = mid ∨ ∃ m, reapOverdueCancellations mid now batchSize = .ok (st', m)) := by
  simp only [reapExpiredLeases, bind_ok, require_ok] at h
  obtain ⟨-, -, mid, hloop, hrest⟩ := h
  refine ⟨mid, hloop, ?_⟩
  cases reapCancellations with
  | false =>
    simp only [Bool.false_eq_true, ↓reduceIte, pure_ok, Prod.mk.injEq] at hrest
    exact .inl hrest.1.symm
  | true =>
    simp only [↓reduceIte, bind_ok, pure_ok, Prod.mk.injEq] at hrest
    obtain ⟨⟨st'', m⟩, hover, rfl, -⟩ := hrest
    exact .inr ⟨m, hover⟩

def liveLease (now : Time) (lease : ExecutionLease) : Bool :=
  lease.status = .active && decide (now < lease.expiresAt) && decide (now < lease.deadlineAt)

def workerLost (d : Deployment) (st : State) (now : Time) (id : Uuid) (worker : WorkerIdentity) :
    Bool :=
  worker.status = .active && worker.revokedAt = none &&
    worker.lastSeenAt.any (fun seen => seen + seconds d.settings.workerLostAfterSeconds ≤ now) &&
    (match worker.lastLostAt with
      | none => true
      | some lost => worker.lastRecoveredAt.any (fun recovered => lost ≤ recovered)) &&
    (st.leases.find? (fun _ lease => lease.workerId = id && liveLease now lease)).isSome

def lostWorkers (d : Deployment) (st : State) (now : Time) (batchSize : ℕ) : List Uuid :=
  (((st.directory.workers.select (workerLost d st now)).insertionSort (fun a b =>
    a.2.lastSeenAt.getD 0 < b.2.lastSeenAt.getD 0 ∨
      (a.2.lastSeenAt.getD 0 = b.2.lastSeenAt.getD 0 ∧ a.1 ≤ b.1))).take
        (max 1 (batchSize / 16))).map Prod.fst

/-- The worker's live leases expire now. -/
def loseLease (now : Time) (workerId : Uuid) (lease : ExecutionLease) : ExecutionLease :=
  if lease.workerId = workerId ∧ liveLease now lease then
    { lease with
      expiresAt := min lease.expiresAt now
      failureCode := some "WORKER_LOST"
      failureSummary := some "The execution worker heartbeat was lost." }
  else lease

def loseWorker (now : Time) (st : State) (workerId : Uuid) : Except Failure State := do
  require (∀ row ∈ st.leases.rows, row.2.workerId = workerId → liveLease now row.2 →
    row.2.claimedAt < min row.2.expiresAt now) (.integrity "ck_execution_leases_expiry")
  pure { st with
    leases := st.leases.mapRows (fun _ lease => loseLease now workerId lease)
    directory := { st.directory with
      workers := st.directory.workers.modify workerId
        (fun worker => { worker with lastLostAt := some now }) } }

def detectLostWorkers (d : Deployment) (st : State) (now : Time) (batchSize : ℕ) :
    Except Failure State := do
  require (1 ≤ batchSize ∧ batchSize ≤ 500)
    (.value "Worker loss batch size must be between 1 and 500.")
  (lostWorkers d st now batchSize).foldlM (loseWorker now) st

end RoozDataCloud.LeaseReaper
