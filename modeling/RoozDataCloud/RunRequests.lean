import RoozDataCloud.LeaseRequests

set_option autoImplicit false

/-!
# Creating builds and runs, and cancelling runs
-/
namespace RoozDataCloud.RunRequests
open KeyedTable ExecutionModels FallibleSteps WorkClaims LeaseRequests

/-- Who asks, under which idempotency key, and when. -/
structure Caller where
  userId : Uuid
  idempotencyKey : String
  now : Time

def validateIdempotencyKey (key : String) : Except Failure Unit :=
  require (8 ≤ key.length ∧ key.length ≤ 200) (apiError 400 "INVALID_REQUEST"
    "Idempotency-Key must contain between 8 and 200 characters.")

def idempotencyKey (d : Deployment) (caller : Caller) (organizationId : Uuid)
    (endpoint : String) : IdempotencyKey where
  organizationId := organizationId
  principalId := caller.userId
  endpoint := endpoint
  keyDigest := d.sha256 caller.idempotencyKey

/-- `some` resource when the same request was already answered under this key. -/
def replay (st : State) (key : IdempotencyKey) (fingerprint : String) :
    Except Failure (Option Uuid) :=
  match st.idempotency.get? key with
  | none => pure none
  | some existing => do
    require (existing.requestFingerprint = fingerprint) (apiError 409 "IDEMPOTENCY_CONFLICT"
      "This idempotency key was used for a different request.")
    require (existing.hasSnapshot) (apiError 409 "RESOURCE_CONFLICT"
      "The original idempotent result is unavailable.")
    pure (some existing.resourceId)

def remember (st : State) (key : IdempotencyKey) (fingerprint : String) (resourceId : Uuid) :
    Except Failure State := do
  let idempotency ← demand (st.idempotency.insert? key
    { requestFingerprint := fingerprint, resourceId := resourceId, hasSnapshot := true })
    (.integrity "uq_idempotency_records_scope")
  pure { st with idempotency := idempotency }

def requestedSource (organizationId projectId : Uuid) (target : Target) (topic : String)
    (payload : Payload) (now : Time) : OutboxSource where
  organizationId := organizationId
  projectId := projectId
  target := target
  topic := topic
  payload := payload
  status := .pending
  attempts := 0
  availableAt := now
  claimedAt := none
  deliveredAt := none
  lastErrorCode := none

/-- One row per build, and one per run and command. -/
def insertSource (st : State) (ref : SourceRef) (source : OutboxSource) :
    Except Failure State := do
  require (∀ row ∈ st.outbox.rows, row.2.target ≠ source.target) (.integrity "outbox target")
  let outbox ← demand (st.outbox.insert? ref source) (.integrity "outbox_pkey")
  pure { st with outbox := outbox }

theorem insertSource_ok {st st' : State} {ref : SourceRef} {source : OutboxSource}
    (h : insertSource st ref source = .ok st') :
    (∀ ref' source', st.outbox.get? ref' = some source' → source'.target ≠ source.target) ∧
      st.outbox.insert? ref source = some st'.outbox ∧ st' = { st with outbox := st'.outbox } := by
  simp only [insertSource, bind_ok, require_ok, demand_ok, pure_ok] at h
  obtain ⟨-, hfresh, outbox, hinsert, rfl⟩ := h
  refine ⟨fun ref' source' hget => ?_, hinsert, rfl⟩
  exact hfresh (ref', source') ((st.outbox.get?_eq_some ref' source').1 hget)

theorem remember_ok {st st' : State} {key : IdempotencyKey} {fingerprint : String}
    {resourceId : Uuid} (h : remember st key fingerprint resourceId = .ok st') :
    ∃ idempotency, st' = { st with idempotency := idempotency } := by
  simp only [remember, bind_ok, demand_ok, pure_ok] at h
  obtain ⟨idempotency, -, rfl⟩ := h
  exact ⟨idempotency, rfl⟩

def missingResource : Failure := notFound "The requested resource was not found."

def sourceUnavailable (message : String) : Failure :=
  apiError 409 "SOURCE_OBJECT_NOT_AVAILABLE" message

def buildTimeoutSeconds (d : Deployment) (version : AgentVersion) : ℤ :=
  match read version.manifest "resources" with
  | .object resources =>
    match read resources "timeoutSeconds" with
    | .int n => min n d.settings.sandboxMaxBuildSeconds
    | _ => d.settings.sandboxMaxBuildSeconds
  | _ => d.settings.sandboxMaxBuildSeconds

def requestedBuild (versionId : Uuid) (version : AgentVersion) (objectId : Uuid) : Build where
  organizationId := version.organizationId
  projectId := version.projectId
  agentId := version.agentId
  agentVersionId := versionId
  sourceObjectId := some objectId
  status := .queued
  artifactDigest := none
  errorCode := none
  errorMessage := none
  startedAt := none
  completedAt := none
  version := 1

def sourceUsable (version : AgentVersion) (object : StorageObject) : Bool :=
  object.organizationId = version.organizationId && object.projectId = version.projectId &&
    object.agentId = version.agentId && object.status = .available &&
    object.scanStatus = .passed && object.deletedAt = none

def agentUsable (version : AgentVersion) (agent : Agent) : Bool :=
  agent.organizationId = version.organizationId && agent.projectId = version.projectId &&
    agent.deletedAt = none

def createBuild (d : Deployment) (st : State) (caller : Caller) (versionId buildId jobId : Uuid) :
    Except Failure (State × Uuid) := do
  let version ← demand (st.directory.agentVersions.get? versionId) missingResource
  let _ ← validateIdempotencyKey caller.idempotencyKey
  let objectId ← demand version.sourceObjectId
    (sourceUnavailable "This legacy Agent version has no verified source archive.")
  let fingerprint := d.canonicalFingerprint (.object [("agent_version_id", .uuid versionId),
    ("manifest_digest", .text version.manifestDigest), ("source_object_id", .uuid objectId)])
  let key := idempotencyKey d caller version.organizationId
    "POST:/api/v1/agent-versions/\x7bversion_id\x7d/builds"
  match ← replay st key fingerprint with
  | some id => pure (st, id)
  | none => do
    require ((st.directory.agents.get? version.agentId).any (agentUsable version)) missingResource
    require ((st.directory.storageObjects.get? objectId).any (sourceUsable version))
      (sourceUnavailable "The immutable Agent source archive is unavailable.")
    let builds ← demand (st.builds.insert? buildId (requestedBuild versionId version objectId))
      (.integrity "builds_pkey")
    let st ← insertSource { st with builds := builds } (.buildDispatch jobId)
      (requestedSource version.organizationId version.projectId (.build buildId)
        "rdc.build.requested.v1"
        [("build_id", .uuid buildId), ("timeout_seconds", .int (buildTimeoutSeconds d version))]
        caller.now)
    let st ← remember st key fingerprint buildId
    pure (st, buildId)

theorem createBuild_ok {d : Deployment} {st st' : State} {caller : Caller}
    {versionId buildId jobId id : Uuid}
    (h : createBuild d st caller versionId buildId jobId = .ok (st', id)) :
    st' = st ∨ ∃ builds source mid idempotency, source.target = .build buildId ∧
      source.status = .pending ∧ source.attempts = 0 ∧
      insertSource { st with builds := builds } (.buildDispatch jobId) source = .ok mid ∧
      st' = { mid with idempotency := idempotency } := by
  simp only [createBuild, bind_ok] at h
  obtain ⟨version, -, -, -, objectId, -, found, -, hrest⟩ := h
  split at hrest
  · simp only [pure_ok, Prod.mk.injEq] at hrest
    exact .inl hrest.1.symm
  · simp only [bind_ok, pure_ok, Prod.mk.injEq] at hrest
    obtain ⟨-, -, -, -, builds, -, mid, hsource, last, hremember, rfl, -⟩ := hrest
    obtain ⟨idempotency, rfl⟩ := remember_ok hremember
    exact .inr ⟨builds, _, mid, idempotency, rfl, rfl, rfl, hsource, rfl⟩

/-- What the validation of a run's intent leaves to write down. `receiptOnly` is any of the
intents that are recorded without being dispatched. -/
structure RunPlan where
  runtime : Payload
  inputReference : Payload
  intent : Value
  receiptOnly : Bool

def requestedRun (versionId : Uuid) (version : AgentVersion) (buildId : Uuid) (plan : RunPlan) :
    Run where
  organizationId := version.organizationId
  projectId := version.projectId
  agentId := version.agentId
  agentVersionId := versionId
  buildId := buildId
  status := if plan.receiptOnly then .draft else .queued
  inputReference := plan.inputReference
  startedAt := none
  finishedAt := none
  cancelRequestedAt := none
  cancelDeadlineAt := none
  failureCode := none
  failureSummary := none
  version := 1

def buildOf (versionId : Uuid) (version : AgentVersion) (build : Build) : Bool :=
  build.organizationId = version.organizationId && build.projectId = version.projectId &&
    build.agentId = version.agentId && build.agentVersionId = versionId

def insertRun (st : State) (runId commandId : Uuid) (run : Run) (plan : RunPlan) (now : Time) :
    Except Failure State := do
  let runs ← demand (st.runs.insert? runId run) (.integrity "runs_pkey")
  let st : State := { st with runs := runs }
  if plan.receiptOnly then pure st
  else
    insertSource st (.runCommand commandId)
      (requestedSource run.organizationId run.projectId (.runStart runId) "rdc.run.requested.v1"
        [("run_id", .uuid runId), ("runtime", .object plan.runtime)] now)

def createRun (d : Deployment) (st : State) (caller : Caller) (versionId buildId : Uuid)
    (plan : Except Failure RunPlan) (runId commandId : Uuid) : Except Failure (State × Uuid) := do
  let version ← demand (st.directory.agentVersions.get? versionId) missingResource
  let _ ← validateIdempotencyKey caller.idempotencyKey
  let build ← demand (st.builds.get? buildId) missingResource
  require (buildOf versionId version build) missingResource
  require (build.status = .succeeded ∧ build.artifactDigest.isSome) (apiError 409 "BUILD_NOT_READY"
    "A successful Build artifact is required before creating a Run.")
  let plan ← plan
  let fingerprint := d.canonicalFingerprint plan.intent
  let key := idempotencyKey d caller version.organizationId
    "POST:/api/v1/agent-versions/\x7bversion_id\x7d/runs"
  match ← replay st key fingerprint with
  | some id => pure (st, id)
  | none => do
    let st ← insertRun st runId commandId (requestedRun versionId version buildId plan) plan
      caller.now
    let st ← remember st key fingerprint runId
    pure (st, runId)

theorem createRun_ok {d : Deployment} {st st' : State} {caller : Caller}
    {versionId buildId runId commandId id : Uuid} {plan : Except Failure RunPlan}
    (h : createRun d st caller versionId buildId plan runId commandId = .ok (st', id)) :
    st' = st ∨ ∃ version chosen mid idempotency, plan = .ok chosen ∧
      insertRun st runId commandId (requestedRun versionId version buildId chosen) chosen
        caller.now = .ok mid ∧ st' = { mid with idempotency := idempotency } := by
  simp only [createRun, bind_ok] at h
  obtain ⟨version, -, -, -, build, -, -, -, -, -, chosen, hplan, found, -, hrest⟩ := h
  split at hrest
  · simp only [pure_ok, Prod.mk.injEq] at hrest
    exact .inl hrest.1.symm
  · simp only [bind_ok, pure_ok, Prod.mk.injEq] at hrest
    obtain ⟨mid, hinsert, last, hremember, rfl, -⟩ := hrest
    obtain ⟨idempotency, rfl⟩ := remember_ok hremember
    exact .inr ⟨version, chosen, mid, idempotency, hplan, hinsert, rfl⟩

theorem insertRun_ok {st st' : State} {runId commandId : Uuid} {run : Run} {plan : RunPlan}
    {now : Time} (h : insertRun st runId commandId run plan now = .ok st') :
    ∃ runs, st.runs.insert? runId run = some runs ∧
      ((plan.receiptOnly = true ∧ st' = { st with runs := runs }) ∨
      (plan.receiptOnly = false ∧ ∃ source, source.target = .runStart runId ∧
        source.status = .pending ∧ source.attempts = 0 ∧
        insertSource { st with runs := runs } (.runCommand commandId) source = .ok st')) := by
  simp only [insertRun, bind_ok, demand_ok] at h
  obtain ⟨runs, hinsert, hrest⟩ := h
  refine ⟨runs, hinsert, ?_⟩
  split_ifs at hrest with hreceipt
  · rw [pure_ok] at hrest
    exact .inl ⟨hreceipt, hrest.symm⟩
  · exact .inr ⟨by simpa using hreceipt, _, rfl, rfl, rfl, hrest⟩

def cancelCommand (runId : Uuid) (run : Run) (now : Time) : OutboxSource :=
  requestedSource run.organizationId run.projectId (.runCancel runId) "rdc.run.cancel.requested.v1"
    [("run_id", .uuid runId), ("cancel_deadline_at", match run.cancelDeadlineAt with
      | some deadline => .timestamp true deadline
      | none => .null)] now

def ensureCancelCommand (st : State) (runId commandId : Uuid) (run : Run) (now : Time) :
    Except Failure State :=
  match st.outbox.find? (fun _ source => source.target = .runCancel runId) with
  | some _ => pure st
  | none => insertSource st (.runCommand commandId) (cancelCommand runId run now)

theorem ensureCancelCommand_ok {st st' : State} {runId commandId : Uuid} {run : Run} {now : Time}
    (h : ensureCancelCommand st runId commandId run now = .ok st') :
    st' = st ∨ ∃ source, source.target = .runCancel runId ∧ source.status = .pending ∧
      source.attempts = 0 ∧ insertSource st (.runCommand commandId) source = .ok st' := by
  unfold ensureCancelCommand at h
  split at h
  · rw [pure_ok] at h
    exact .inl h.symm
  · exact .inr ⟨_, rfl, rfl, rfl, h⟩

/-- The trigger that keeps a recorded cancellation as it was first written. -/
def cancellationImmutable (before after : Run) : Bool :=
  (before.cancelRequestedAt = none || after.cancelRequestedAt = before.cancelRequestedAt) &&
    (before.cancelDeadlineAt = none || after.cancelDeadlineAt = before.cancelDeadlineAt)

def cancelledRun (d : Deployment) (now : Time) (run : Run) : Run :=
  { run with
    cancelRequestedAt := some now
    cancelDeadlineAt := some (now + seconds d.settings.workerCancelConvergenceSeconds)
    version := run.version + 1 }

def abortedRun (d : Deployment) (now : Time) (run : Run) : Run :=
  { cancelledRun d now run with status := .aborted, finishedAt := some now }

def abortingRun (d : Deployment) (now : Time) (run : Run) : Run :=
  { cancelledRun d now run with status := .aborting }

def withdrawnSource (source : OutboxSource) : OutboxSource :=
  { source with status := .cancelled }

def withdrawStart (st : State) (runId : Uuid) : State :=
  match st.outbox.find? (fun _ source => source.target = .runStart runId) with
  | some (ref, source) =>
    if source.status = .pending then
      st.setSource ref withdrawnSource
    else st
  | none => st

def immutableCancellation : Failure := .integrity "Run cancellation request is immutable"

/-- The status decides: terminal runs are left alone, waiting ones end at once, active ones
get a cancel command. -/
def requestCancellation (d : Deployment) (st : State) (runId commandId : Uuid) (run : Run)
    (now : Time) : Except Failure State :=
  if run.status ∈ runTerminalStatuses then pure st
  else if run.status ∈ [RunStatus.draft, .ready, .queued] then do
    require (cancellationImmutable run (abortedRun d now run)) immutableCancellation
    pure (withdrawStart (st.setRun runId (fun _ => abortedRun d now run)) runId)
  else if run.status ∈ runCancellableActiveStatuses then do
    require (cancellationImmutable run (abortingRun d now run)) immutableCancellation
    ensureCancelCommand (st.setRun runId (fun _ => abortingRun d now run)) runId commandId
      (abortingRun d now run) now
  else if run.status = .aborting then ensureCancelCommand st runId commandId run now
  else throw (apiError 409 "RUN_STATE_CONFLICT"
    "The Run cannot be cancelled from its current state.")

theorem requestCancellation_ok {d : Deployment} {st st' : State} {runId commandId : Uuid}
    {run : Run} {now : Time} (h : requestCancellation d st runId commandId run now = .ok st') :
    (run.status ∈ runTerminalStatuses ∧ st' = st) ∨
    (run.status ∈ [RunStatus.draft, .ready, .queued] ∧
      st' = withdrawStart (st.setRun runId (fun _ => abortedRun d now run)) runId) ∨
    (run.status ∈ runCancellableActiveStatuses ∧
      ensureCancelCommand (st.setRun runId (fun _ => abortingRun d now run)) runId commandId
        (abortingRun d now run) now = .ok st') ∨
    (run.status = .aborting ∧ ensureCancelCommand st runId commandId run now = .ok st') := by
  unfold requestCancellation at h
  split_ifs at h with hterminal hwaiting hactive haborting
  · rw [pure_ok] at h
    exact .inl ⟨hterminal, h.symm⟩
  · simp only [bind_ok, pure_ok] at h
    obtain ⟨-, -, rfl⟩ := h
    exact .inr (.inl ⟨hwaiting, rfl⟩)
  · simp only [bind_ok] at h
    obtain ⟨-, -, hensure⟩ := h
    exact .inr (.inr (.inl ⟨hactive, hensure⟩))
  · exact .inr (.inr (.inr ⟨haborting, h⟩))

def cancelRun (d : Deployment) (st : State) (caller : Caller) (runId commandId : Uuid) :
    Except Failure (State × Uuid) := do
  let run ← demand (st.runs.get? runId) missingResource
  let _ ← validateIdempotencyKey caller.idempotencyKey
  let fingerprint := d.canonicalFingerprint (.object [("run_id", .uuid runId)])
  let key := idempotencyKey d caller run.organizationId "POST:/api/v1/runs/\x7brun_id\x7d/cancel"
  match ← replay st key fingerprint with
  | some id => pure (st, id)
  | none => do
    let st ← requestCancellation d st runId commandId run caller.now
    let st ← remember st key fingerprint runId
    pure (st, runId)

theorem cancelRun_ok {d : Deployment} {st st' : State} {caller : Caller} {runId commandId id : Uuid}
    (h : cancelRun d st caller runId commandId = .ok (st', id)) :
    st' = st ∨ ∃ run mid idempotency, st.runs.get? runId = some run ∧
      requestCancellation d st runId commandId run caller.now = .ok mid ∧
      st' = { mid with idempotency := idempotency } := by
  simp only [cancelRun, bind_ok, demand_ok] at h
  obtain ⟨run, hrun, -, -, found, -, hrest⟩ := h
  split at hrest
  · simp only [pure_ok, Prod.mk.injEq] at hrest
    exact .inl hrest.1.symm
  · simp only [bind_ok, pure_ok, Prod.mk.injEq] at hrest
    obtain ⟨mid, hrequest, last, hremember, rfl, -⟩ := hrest
    obtain ⟨idempotency, rfl⟩ := remember_ok hremember
    exact .inr ⟨run, mid, idempotency, hrun, hrequest, rfl⟩

end RoozDataCloud.RunRequests
