import RoozDataCloud.LeaseReaper

set_option autoImplicit false

/-!
# Selecting and claiming work
-/
namespace RoozDataCloud.WorkClaims
open KeyedTable ExecutionModels FallibleSteps ExecutionRecovery LeaseReaper

def Value.isNull : Value → Bool
  | .null => true
  | _ => false

/-- `dict.get`: an absent key reads as `null`. -/
def read (p : Payload) (key : String) : Value := (p.get? key).getD .null

def projectExecutionSlotKinds : List WorkKind := [.build, .runStart]

def activeProjectLeases (st : State) (projectId : Uuid) (now : Time) : ℕ :=
  st.leases.count (fun _ lease => lease.projectId = projectId && liveLease now lease &&
    decide (lease.target.kind ∈ projectExecutionSlotKinds))

def activeWorkerLeaseCount (st : State) (workerId : Uuid) (now : Time) : ℕ :=
  st.leases.count (fun _ lease => lease.workerId = workerId && liveLease now lease)

def projectEnabled (project : Project) : Bool :=
  project.status = .active && project.deletedAt = none

def slotFree (st : State) (projectId : Uuid) (now : Time) : Bool :=
  (st.directory.projects.get? projectId).any (fun project =>
    projectEnabled project && decide (activeProjectLeases st projectId now < project.maxActiveLeases))

/-- The selector's condition. A cancel command is selected whatever its project's state. -/
def selectable (st : State) (kind : WorkKind) (now : Time) (source : OutboxSource) : Bool :=
  source.status = .pending && source.target.kind = kind && decide (source.availableAt ≤ now) &&
    (kind = .runCancel || slotFree st source.projectId now)

def dispatchOrder (a b : SourceRef × OutboxSource) : Bool :=
  decide (a.2.availableAt < b.2.availableAt) ||
    (decide (a.2.availableAt = b.2.availableAt) && decide (a.1.id ≤ b.1.id))

def selectSource (st : State) (kind : WorkKind) (now : Time) :
    Option (SourceRef × OutboxSource) :=
  ((st.outbox.select (fun _ source => selectable st kind now source)).insertionSort
    (fun a b => dispatchOrder a b)).head?

theorem mem_of_selectSource {st : State} {kind : WorkKind} {now : Time} {ref : SourceRef}
    {source : OutboxSource} (h : selectSource st kind now = some (ref, source)) :
    st.outbox.get? ref = some source ∧ selectable st kind now source = true := by
  have hmem := List.mem_of_mem_head? h
  rwa [List.mem_insertionSort, Table.mem_select] at hmem

theorem selectable_iff {st : State} {kind : WorkKind} {now : Time} {source : OutboxSource} :
    selectable st kind now source = true ↔
      source.status = .pending ∧ source.target.kind = kind ∧ source.availableAt ≤ now ∧
        (kind = .runCancel ∨ slotFree st source.projectId now = true) := by
  simp only [selectable, Bool.and_eq_true, Bool.or_eq_true, decide_eq_true_eq, and_assoc]

/-- The receipt stored with the run still names the active revision of its policy. -/
def egressReceiptCurrent (d : Deployment) (st : State) (run : Run) (receipt : Value) : Bool :=
  match receipt with
  | .object fields =>
    match read fields "policy_id", read fields "revision_id" with
    | .uuid policyId, .uuid revisionId =>
      d.boundEgressPolicy run.inputReference &&
        (match st.directory.egressPolicies.get? policyId,
            st.directory.egressRevisions.get? revisionId with
          | some policy, some revision =>
            policy.organizationId = run.organizationId && policy.projectId = run.projectId &&
              revision.policyId = policyId && revision.organizationId = run.organizationId &&
              revision.projectId = run.projectId && policy.status = .active &&
              policy.activeRevisionId = some revisionId &&
              (match read fields "revision_number" with
                | .int n => n = revision.revisionNumber
                | _ => false) &&
              (match read fields "policy_digest" with
                | .text digest => digest = revision.policyDigest
                | _ => false) &&
              (match read fields "credential_configured" with
                | .bool configured => configured = revision.credentialSecretId.isSome
                | _ => false)
          | _, _ => false)
    | _, _ => false
  | _ => false

def egressBindingCurrent (d : Deployment) (st : State) (run : Run) : Bool :=
  let stored := read run.inputReference "project_egress_policy"
  let receipt := read run.inputReference "project_egress_policy_receipt"
  (Value.isNull receipt && Value.isNull stored) || egressReceiptCurrent d st run receipt

def refusedSource (now : Time) (source : OutboxSource) : OutboxSource :=
  { source with
    status := .failed
    attempts := source.attempts + 1
    claimedAt := some now
    lastErrorCode := some "EGRESS_POLICY_BINDING_REVOKED" }

def refusedRun (now : Time) (run : Run) : Run :=
  { run with
    status := .failed
    failureCode := some "EGRESS_POLICY_BINDING_REVOKED"
    failureSummary := some "The bound egress policy is no longer active at execution admission."
    finishedAt := some now
    version := run.version + 1 }

/-- `none` when the binding is current; otherwise the state in which the run is refused. -/
def boundRunEgressPolicyRefused (d : Deployment) (st : State) (ref : SourceRef) (runId : Uuid)
    (now : Time) : Option State :=
  match st.runs.get? runId with
  | none => none
  | some run =>
    if egressBindingCurrent d st run then none
    else some ((st.setSource ref (refusedSource now)).setRun runId (refusedRun now))

def invalidTimeout : Failure :=
  apiError 409 "WORK_ITEM_DEADLINE_INVALID"
    "The persisted work item has an invalid execution timeout."

def executionTimeoutSeconds (d : Deployment) (source : OutboxSource) : Except Failure ℕ :=
  let (raw, ceiling) := match source.target with
    | .build _ =>
      ((source.payload.get? "timeout_seconds").getD (.int d.settings.sandboxMaxBuildSeconds),
        d.settings.sandboxMaxBuildSeconds)
    | .runStart _ =>
      ((match read source.payload "runtime" with
        | .object runtime => read runtime "timeout_seconds"
        | _ => .null), d.settings.sandboxMaxRunSeconds)
    | .runCancel _ => (.int d.settings.workerLeaseMaxSeconds, d.settings.workerLeaseMaxSeconds)
  match raw with
  | .int n => if 1 ≤ n then .ok (min n.toNat ceiling) else .error invalidTimeout
  | _ => .error invalidTimeout

def cancellationDeadlineFromSource (source : OutboxSource) : Except Failure Time :=
  match read source.payload "cancel_deadline_at" with
  | .timestamp true deadline => .ok deadline
  | .timestamp false _ | .text _ | .uuid _ =>
    .error (apiError 409 "WORK_ITEM_DEADLINE_INVALID"
      "The persisted cancellation deadline is invalid.")
  | _ =>
    .error (apiError 409 "WORK_ITEM_DEADLINE_INVALID"
      "The persisted cancellation has no convergence deadline.")

/-- The deadline of the lease; a cancel command also carries the run's own. -/
def claimDeadline (d : Deployment) (source : OutboxSource) (now : Time) : Except Failure Time := do
  let timeout ← executionTimeoutSeconds d source
  let deadline ← executionDeadlineAt now timeout
  match source.target with
  | .runCancel _ => do
    let converge ← cancellationDeadlineFromSource source
    pure (min deadline converge)
  | _ => pure deadline

def lockProjectAdmission (st : State) (projectId : Uuid) (kind : WorkKind) (now : Time) :
    Except Failure Project := do
  let disabled := apiError 409 "PROJECT_EXECUTION_DISABLED" "The work item's project is not active."
  let project ← demand (st.directory.projects.get? projectId) disabled
  require (projectEnabled project) disabled
  require (kind ∈ projectExecutionSlotKinds →
      activeProjectLeases st projectId now < project.maxActiveLeases)
    (.api 409 "PROJECT_CONCURRENCY_LIMIT"
      "The project has reached its active execution lease limit."
      [("max_active_leases", .int project.maxActiveLeases)])
  pure project

/-- The tenancy trigger on `execution_leases`. -/
def leaseTenancy (st : State) (lease : ExecutionLease) : Bool :=
  match lease.target with
  | .build b => (st.builds.get? b).any (fun build =>
      build.organizationId = lease.organizationId && build.projectId = lease.projectId)
  | .runStart r | .runCancel r => (st.runs.get? r).any (fun run =>
      run.organizationId = lease.organizationId && run.projectId = lease.projectId)

def insertLease (st : State) (id : Uuid) (lease : ExecutionLease) : Except Failure State := do
  require (∀ row ∈ st.leases.rows, ¬ (row.2.source = lease.source ∧ row.2.attempt = lease.attempt))
    (.integrity "uq_execution_leases_source_attempt")
  require (∀ row ∈ st.leases.rows, ¬ (row.2.source = lease.source ∧ row.2.status = .active))
    (.integrity "uq_execution_leases_active_source")
  require (∀ row ∈ st.leases.rows, row.2.leaseTokenDigest ≠ lease.leaseTokenDigest)
    (.integrity "uq_execution_leases_token_digest")
  require (1 ≤ lease.attempt ∧ lease.attempt ≤ 20) (.integrity "ck_execution_leases_attempt")
  require (lease.claimedAt < lease.expiresAt) (.integrity "ck_execution_leases_expiry")
  require (lease.claimedAt < lease.deadlineAt ∧ lease.expiresAt ≤ lease.deadlineAt)
    (.integrity "ck_execution_leases_deadline")
  require (leaseTenancy st lease) (.integrity "Execution lease tenancy mismatch")
  let leases ← demand (st.leases.insert? id lease) (.integrity "execution_leases_pkey")
  pure { st with leases := leases }

theorem insertLease_ok {st st' : State} {id : Uuid} {lease : ExecutionLease}
    (h : insertLease st id lease = .ok st') :
    st.leases.insert? id lease = some st'.leases ∧ st' = { st with leases := st'.leases } ∧
      lease.expiresAt ≤ lease.deadlineAt := by
  simp only [insertLease, bind_ok, require_ok, demand_ok, pure_ok] at h
  obtain ⟨-, -, -, -, -, -, -, -, -, -, -, hdeadline, -, -, leases, hinsert, rfl⟩ := h
  exact ⟨hinsert, rfl, hdeadline.2⟩

def stateConflict (message : String) : Failure := apiError 409 "WORK_ITEM_STATE_CONFLICT" message

def buildClaimPayload (st : State) (buildId : Uuid) : Except Failure Build := do
  let closed := stateConflict "The Build work item is no longer claimable."
  let build ← demand (st.builds.get? buildId) closed
  require (build.status = .queued) closed
  let _ ← demand (st.directory.agentVersions.get? build.agentVersionId)
    (stateConflict "The immutable Agent version is unavailable.")
  let objectId ← demand build.sourceObjectId (apiError 409 "SOURCE_OBJECT_UNAVAILABLE"
    "This legacy Build has no verified source archive.")
  require ((st.directory.storageObjects.get? objectId).any (fun object =>
      object.organizationId = build.organizationId && object.projectId = build.projectId &&
      object.status = .available && object.scanStatus = .passed && object.deletedAt = none))
    (apiError 409 "SOURCE_OBJECT_UNAVAILABLE"
      "The verified Build source archive is unavailable.")
  pure build

def runClaimPayload (st : State) (runId : Uuid) : Except Failure Run := do
  let run ← demand (st.runs.get? runId) (stateConflict "The Run work item is unavailable.")
  let _ ← demand (st.directory.agentVersions.get? run.agentVersionId)
    (stateConflict "The immutable Agent version is unavailable.")
  pure run

def startedBuild (now : Time) (build : Build) : Build :=
  { build with
    status := .starting
    startedAt := build.startedAt.or (some now)
    version := build.version + 1 }

def startedRun (now : Time) (run : Run) : Run :=
  { run with
    status := .starting
    startedAt := run.startedAt.or (some now)
    version := run.version + 1 }

def startTarget (st : State) (now : Time) : Target → Except Failure State
  | .build b => do
    let _ ← buildClaimPayload st b
    pure (st.setBuild b (startedBuild now))
  | .runStart r => do
    let run ← runClaimPayload st r
    require (run.status = .queued) (stateConflict "The Run is no longer queued.")
    pure (st.setRun r (startedRun now))
  | .runCancel r => do
    let run ← runClaimPayload st r
    require (run.status = .aborting) (stateConflict "The Run is no longer awaiting cancellation.")
    pure st

/-- The target was still waiting for the claim, and is now started. -/
theorem startTarget_ok {st st' : State} {now : Time} {target : Target}
    (h : startTarget st now target = .ok st') :
    (∃ b, target = .build b ∧ st' = st.setBuild b (startedBuild now)) ∨
    (∃ r run, target = .runStart r ∧ st.runs.get? r = some run ∧ run.status = .queued ∧
      st' = st.setRun r (startedRun now)) ∨
    (∃ r run, target = .runCancel r ∧ st.runs.get? r = some run ∧ run.status = .aborting ∧
      st' = st) := by
  cases target with
  | build b =>
    simp only [startTarget, bind_ok, pure_ok] at h
    obtain ⟨-, -, rfl⟩ := h
    exact .inl ⟨b, rfl, rfl⟩
  | runStart r =>
    simp only [startTarget, runClaimPayload, bind_ok, require_ok, demand_ok, pure_ok] at h
    obtain ⟨run, ⟨run', hrun, -, -, rfl⟩, -, hqueued, rfl⟩ := h
    exact .inr (.inl ⟨r, run', rfl, hrun, hqueued, rfl⟩)
  | runCancel r =>
    simp only [startTarget, runClaimPayload, bind_ok, require_ok, demand_ok, pure_ok] at h
    obtain ⟨run, ⟨run', hrun, -, -, rfl⟩, -, haborting, rfl⟩ := h
    exact .inr (.inr ⟨r, run', rfl, hrun, haborting, rfl⟩)

def claimedSource (now : Time) (source : OutboxSource) : OutboxSource :=
  { source with
    status := .claimed
    attempts := source.attempts + 1
    claimedAt := some now }

/-- What a claim is made with: the worker, the fresh lease and its token. -/
structure ClaimTicket where
  workerId : Uuid
  leaseId : Uuid
  leaseTokenDigest : String
  now : Time

def claimedLease (ticket : ClaimTicket) (ref : SourceRef) (source : OutboxSource)
    (expiresAt deadlineAt : Time) : ExecutionLease where
  workerId := ticket.workerId
  organizationId := source.organizationId
  projectId := source.projectId
  source := ref
  sourceTopic := source.topic
  target := source.target
  leaseTokenDigest := ticket.leaseTokenDigest
  status := .active
  attempt := source.attempts + 1
  claimedAt := ticket.now
  expiresAt := expiresAt
  deadlineAt := deadlineAt
  lastRenewedAt := none
  completedAt := none
  failureCode := none
  failureSummary := none

def dispatchSource (d : Deployment) (st : State) (ticket : ClaimTicket) (ref : SourceRef)
    (source : OutboxSource) : Except Failure (State × ExecutionLease) := do
  let _ ← lockProjectAdmission st source.projectId source.target.kind ticket.now
  let st := st.setSource ref (claimedSource ticket.now)
  let deadline ← claimDeadline d source ticket.now
  require (ticket.now < deadline) (apiError 409 "WORK_ITEM_DEADLINE_EXPIRED"
    "The persisted work item deadline has expired.")
  let expires ← clampLeaseExpiry (ticket.now + seconds d.settings.workerLeaseSeconds) ticket.now
    d.settings.workerLeaseMaxSeconds deadline
  let lease := claimedLease ticket ref source expires deadline
  let st ← insertLease st ticket.leaseId lease
  let st ← startTarget st ticket.now source.target
  pure (st, lease)

theorem dispatchSource_ok {d : Deployment} {st st' : State} {ticket : ClaimTicket}
    {ref : SourceRef} {source : OutboxSource} {lease : ExecutionLease}
    (h : dispatchSource d st ticket ref source = .ok (st', lease)) :
    ∃ expires deadline leases, lease = claimedLease ticket ref source expires deadline ∧
      expires ≤ deadline ∧ st.leases.insert? ticket.leaseId lease = some leases ∧
      startTarget { st.setSource ref (claimedSource ticket.now) with leases := leases }
        ticket.now source.target = .ok st' := by
  simp only [dispatchSource, bind_ok, require_ok, pure_ok, Prod.mk.injEq] at h
  obtain ⟨-, -, deadline, -, -, -, expires, -, mid, hinsert, last, hstart, rfl, rfl⟩ := h
  obtain ⟨hleases, hmid, hle⟩ := insertLease_ok hinsert
  exact ⟨expires, deadline, mid.leases, rfl, hle, hleases, hmid ▸ hstart⟩

/-- Only the start of a run is bound to an egress policy. -/
def egressRefusal (d : Deployment) (st : State) (ref : SourceRef) (source : OutboxSource)
    (now : Time) : Option State :=
  match source.target with
  | .runStart r => boundRunEgressPolicyRefused d st ref r now
  | _ => none

theorem egressRefusal_some {d : Deployment} {st st' : State} {ref : SourceRef}
    {source : OutboxSource} {now : Time} (h : egressRefusal d st ref source now = some st') :
    ∃ r run, source.target = .runStart r ∧ st.runs.get? r = some run ∧
      egressBindingCurrent d st run = false ∧
      st' = (st.setSource ref (refusedSource now)).setRun r (refusedRun now) := by
  unfold egressRefusal at h
  split at h
  · rename_i r htarget
    unfold boundRunEgressPolicyRefused at h
    split at h
    · cases h
    · rename_i run hrun
      split_ifs at h with hcurrent
      exact ⟨r, run, htarget, hrun, by simpa using hcurrent, (Option.some.inj h).symm⟩
  · cases h

/-- One selected source: a revoked egress binding ends the claim empty-handed. -/
def claimSource (d : Deployment) (st : State) (ticket : ClaimTicket) (ref : SourceRef)
    (source : OutboxSource) : Except Failure (State × Option ExecutionLease) :=
  match egressRefusal d st ref source ticket.now with
  | some refused => pure (refused, none)
  | none => do
    let (st, lease) ← dispatchSource d st ticket ref source
    pure (st, some lease)

def claimFirst (d : Deployment) (st : State) (ticket : ClaimTicket) :
    List WorkKind → Except Failure (State × Option ExecutionLease)
  | [] => pure (st, none)
  | kind :: kinds =>
    match selectSource st kind ticket.now with
    | none => claimFirst d st ticket kinds
    | some (ref, source) => claimSource d st ticket ref source

theorem claimSource_ok {d : Deployment} {st st' : State} {ticket : ClaimTicket}
    {ref : SourceRef} {source : OutboxSource} {result : Option ExecutionLease}
    (h : claimSource d st ticket ref source = .ok (st', result)) :
    (∃ r run, source.target = .runStart r ∧ st.runs.get? r = some run ∧ result = none ∧
      st' = (st.setSource ref (refusedSource ticket.now)).setRun r (refusedRun ticket.now)) ∨
    (∃ lease, result = some lease ∧ dispatchSource d st ticket ref source = .ok (st', lease)) := by
  unfold claimSource at h
  split at h
  · rename_i refused hrefused
    simp only [pure_ok, Prod.mk.injEq] at h
    obtain ⟨rfl, rfl⟩ := h
    obtain ⟨r, run, htarget, hrun, -, hst⟩ := egressRefusal_some hrefused
    exact .inl ⟨r, run, htarget, hrun, rfl, hst⟩
  · simp only [bind_ok, pure_ok, Prod.mk.injEq] at h
    obtain ⟨⟨mid, lease⟩, hdispatch, rfl, rfl⟩ := h
    exact .inr ⟨lease, rfl, hdispatch⟩

theorem claimFirst_ok {d : Deployment} {st st' : State} {ticket : ClaimTicket}
    {kinds : List WorkKind} {result : Option ExecutionLease}
    (h : claimFirst d st ticket kinds = .ok (st', result)) :
    (st' = st ∧ result = none) ∨
    ∃ kind ref source, kind ∈ kinds ∧ selectSource st kind ticket.now = some (ref, source) ∧
      claimSource d st ticket ref source = .ok (st', result) := by
  induction kinds with
  | nil =>
    simp only [claimFirst, pure_ok, Prod.mk.injEq] at h
    exact .inl ⟨h.1.symm, h.2.symm⟩
  | cons kind kinds ih =>
    unfold claimFirst at h
    split at h
    · rcases ih h with hnone | ⟨k, ref, source, hk, hrest⟩
      · exact .inl hnone
      · exact .inr ⟨k, ref, source, List.mem_cons_of_mem kind hk, hrest⟩
    · rename_i ref source hselect
      exact .inr ⟨kind, ref, source, List.mem_cons_self, hselect, h⟩

def recoveryPending (worker : WorkerIdentity) : Bool :=
  match worker.lastLostAt with
  | none => false
  | some lost => !(worker.lastRecoveredAt.any (fun recovered => lost ≤ recovered))

def kindName : WorkKind → String
  | .build => "BUILD"
  | .runStart => "RUN_START"
  | .runCancel => "RUN_CANCEL"

/-- The worker may claim the requested kinds now. -/
def admitWorker (st : State) (workerId : Uuid) (kinds : List WorkKind) (now : Time) :
    Except Failure Unit := do
  let worker ← demand (st.directory.workers.get? workerId)
    (apiError 401 "INTERNAL_CREDENTIAL_INVALID" "The internal credential is invalid.")
  require (recoveryPending worker = false) (apiError 409 "WORKER_RECOVERY_REQUIRED"
    "The worker must complete managed-runtime cleanup.")
  require (worker.status = .active) (apiError 409 "WORKER_DRAINING"
    "A draining worker cannot claim new work.")
  let unsupported := kinds.filter (fun kind => .work kind ∉ worker.capabilities)
  require (unsupported = []) (.api 403 "WORKER_CAPABILITY_DENIED"
    "The worker is not allowed to claim this work kind."
    [("unsupported", .array (unsupported.map (fun kind => .text (kindName kind))))])
  require (activeWorkerLeaseCount st workerId now < worker.maxConcurrency)
    (apiError 409 "WORKER_CONCURRENCY_LIMIT" "The worker has reached its active lease limit.")

def claimWork (d : Deployment) (st : State) (ticket : ClaimTicket) (kinds : List WorkKind) :
    Except Failure (State × Option ExecutionLease) := do
  let (st, _) ← reapExpiredLeases d st ticket.now 100 true
  let _ ← admitWorker st ticket.workerId kinds ticket.now
  claimFirst d st ticket kinds

end RoozDataCloud.WorkClaims
