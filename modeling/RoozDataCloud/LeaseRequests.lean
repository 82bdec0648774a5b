import RoozDataCloud.WorkClaims

set_option autoImplicit false

/-!
# What the holder of a lease can ask for
-/
namespace RoozDataCloud.LeaseRequests
open KeyedTable ExecutionModels FallibleSteps ExecutionRecovery CancellationConvergence
open LeaseReaper WorkClaims

def credentialInvalid : Failure :=
  apiError 401 "INTERNAL_CREDENTIAL_INVALID" "The internal credential is invalid."

def leaseCredentialInvalid : Failure :=
  apiError 401 "LEASE_CREDENTIAL_INVALID" "The lease credential is invalid or expired."

def notFound (message : String) : Failure := apiError 404 "RESOURCE_NOT_FOUND" message

/-- The worker's credential, seen at `now`. -/
structure WorkerCredential where
  workerId : Uuid
  tokenDigest : String
  now : Time

def resolveWorkerContext (st : State) (c : WorkerCredential) :
    Except Failure (State × WorkerIdentity) := do
  let worker ← demand (st.directory.workers.get? c.workerId) credentialInvalid
  require (worker.status = .active ∨ worker.status = .draining) credentialInvalid
  require (worker.revokedAt = none) credentialInvalid
  require (∀ expires ∈ worker.expiresAt, c.now < expires) credentialInvalid
  require (worker.tokenDigest = c.tokenDigest) credentialInvalid
  pure ({ st with directory := { st.directory with
    workers := st.directory.workers.modify c.workerId
      (fun worker => { worker with lastSeenAt := some c.now }) } }, worker)

theorem resolveWorkerContext_ok {st st' : State} {c : WorkerCredential} {worker : WorkerIdentity}
    (h : resolveWorkerContext st c = .ok (st', worker)) :
    ∃ directory, st' = { st with directory := directory } := by
  simp only [resolveWorkerContext, bind_ok, pure_ok, Prod.mk.injEq] at h
  obtain ⟨-, -, -, -, -, -, -, -, -, -, rfl, -⟩ := h
  exact ⟨_, rfl⟩

def requireStartNotCancelled (st : State) : Target → Except Failure Unit
  | .runStart r => require (cancelRequested st r = false) leaseCredentialInvalid
  | _ => pure ()

def requireLeaseAccess (st : State) (c : WorkerCredential) (leaseId : Uuid)
    (leaseTokenDigest : String) : Except Failure ExecutionLease := do
  let lease ← demand (st.leases.get? leaseId) leaseCredentialInvalid
  require (lease.workerId = c.workerId) leaseCredentialInvalid
  require (lease.status = .active) leaseCredentialInvalid
  require (c.now < lease.expiresAt) leaseCredentialInvalid
  require (c.now < lease.deadlineAt) leaseCredentialInvalid
  require (lease.leaseTokenDigest = leaseTokenDigest) leaseCredentialInvalid
  let _ ← requireStartNotCancelled st lease.target
  pure lease

theorem requireLeaseAccess_ok {st : State} {c : WorkerCredential} {leaseId : Uuid}
    {digest : String} {lease : ExecutionLease}
    (h : requireLeaseAccess st c leaseId digest = .ok lease) :
    st.leases.get? leaseId = some lease ∧ lease.status = .active ∧
      ∀ r, lease.target = .runStart r → cancelRequested st r = false := by
  simp only [requireLeaseAccess, bind_ok, require_ok, demand_ok, pure_ok] at h
  obtain ⟨lease', hlease, -, -, -, hactive, -, -, -, -, -, -, _, hcancel, rfl⟩ := h
  refine ⟨hlease, hactive, fun r htarget => ?_⟩
  rw [htarget] at hcancel
  exact require_ok.1 hcancel

def renewLease (d : Deployment) (st : State) (leaseId : Uuid) (lease : ExecutionLease)
    (extendSeconds : ℕ) (now : Time) : Except Failure State := do
  let extended ← clampLeaseExpiry (max now lease.expiresAt + seconds extendSeconds) lease.claimedAt
    d.settings.workerLeaseMaxSeconds lease.deadlineAt
  require (now < extended)
    (if lease.deadlineAt ≤ now then apiError 409 "WORKLOAD_DEADLINE_EXCEEDED"
        "The workload execution deadline was exceeded."
      else apiError 409 "LEASE_MAXIMUM_REACHED" "The lease reached its maximum lifetime.")
  pure (st.setLease leaseId (fun lease =>
    { lease with expiresAt := extended, lastRenewedAt := some now }))

theorem renewLease_ok {d : Deployment} {st st' : State} {leaseId : Uuid} {lease : ExecutionLease}
    {extendSeconds : ℕ} {now : Time}
    (h : renewLease d st leaseId lease extendSeconds now = .ok st') :
    ∃ extended, extended ≤ lease.deadlineAt ∧ st' = st.setLease leaseId (fun lease =>
      { lease with expiresAt := extended, lastRenewedAt := some now }) := by
  simp only [renewLease, bind_ok, require_ok, pure_ok] at h
  obtain ⟨extended, hclamp, -, -, rfl⟩ := h
  refine ⟨extended, ?_, rfl⟩
  rw [(clampLeaseExpiry_ok hclamp).2]
  exact min_le_right _ _

inductive StatusReport where
  | starting | running | aborting
  deriving DecidableEq

def StatusReport.build? : StatusReport → Option BuildStatus
  | starting => some .starting
  | running => some .running
  | aborting => none

def StatusReport.run : StatusReport → RunStatus
  | starting => .starting
  | running => .running
  | aborting => .aborting

def reportedRun (status : RunStatus) (now : Time) (run : Run) : Run :=
  { run with
    status := status
    startedAt := run.startedAt.or (some now)
    version := run.version + 1 }

def updateRunStatus (st : State) (runId : Uuid) (start : Bool) (report : StatusReport)
    (now : Time) : Except Failure State := do
  let run ← demand (st.runs.get? runId) (notFound "The Run was not found.")
  require (¬ (start ∧ run.cancelRequestedAt.isSome)) (apiError 409 "RUN_CANCELLATION_PENDING"
    "The Run is awaiting cancellation convergence.")
  require (report.run ∈ if start then [RunStatus.starting, .running] else [.aborting])
    (stateConflict "That status is invalid for this Run lease.")
  pure (st.setRun runId (reportedRun report.run now))

def updateTargetStatus (st : State) (report : StatusReport) (now : Time) :
    Target → Except Failure State
  | .build b => do
    let status ← demand report.build? (stateConflict "That status is invalid for a Build lease.")
    let _ ← demand (st.builds.get? b) (notFound "The Build was not found.")
    pure (st.setBuild b (fun build =>
      { build with
        status := status
        startedAt := build.startedAt.or (some now)
        version := build.version + 1 }))
  | .runStart r => updateRunStatus st r true report now
  | .runCancel r => updateRunStatus st r false report now

/-- A report on a start is accepted only while no cancellation is recorded. -/
theorem updateTargetStatus_ok {st st' : State} {report : StatusReport} {now : Time}
    {target : Target} (h : updateTargetStatus st report now target = .ok st') :
    (∃ b f, target = .build b ∧ st' = st.setBuild b f) ∨
    (∃ r run status, target = .runStart r ∧ st.runs.get? r = some run ∧
      run.cancelRequestedAt = none ∧ (status = .starting ∨ status = .running) ∧
      st' = st.setRun r (reportedRun status now)) ∨
    (∃ r run, target = .runCancel r ∧ st.runs.get? r = some run ∧
      st' = st.setRun r (reportedRun .aborting now)) := by
  cases target with
  | build b =>
    simp only [updateTargetStatus, bind_ok, demand_ok, pure_ok] at h
    obtain ⟨-, -, -, -, rfl⟩ := h
    exact .inl ⟨b, _, rfl, rfl⟩
  | runStart r =>
    simp only [updateTargetStatus, updateRunStatus, bind_ok, require_ok, demand_ok, pure_ok,
      true_and, ↓reduceIte, List.mem_cons, List.not_mem_nil, or_false] at h
    obtain ⟨run, hrun, -, hcancel, -, hreport, rfl⟩ := h
    exact .inr (.inl ⟨r, run, _, rfl, hrun, by simpa using hcancel, hreport, rfl⟩)
  | runCancel r =>
    simp only [updateTargetStatus, updateRunStatus, bind_ok, require_ok, demand_ok, pure_ok,
      Bool.false_eq_true, ↓reduceIte, List.mem_cons, List.not_mem_nil, or_false] at h
    obtain ⟨run, hrun, -, -, -, hreport, rfl⟩ := h
    exact .inr (.inr ⟨r, run, rfl, hrun, by rw [hreport]⟩)

def reportedLease (now : Time) (lease : ExecutionLease) : ExecutionLease :=
  { lease with lastRenewedAt := some now }

def updateLeaseStatus (st : State) (leaseId : Uuid) (lease : ExecutionLease)
    (report : StatusReport) (now : Time) : Except Failure State := do
  let st ← updateTargetStatus st report now lease.target
  pure (st.setLease leaseId (reportedLease now))

def digestConflict (message : String) : Failure :=
  apiError 409 "ARTIFACT_DIGEST_CONFLICT" message

/-- An artifact already registered under this digest and kind is returned as it is. -/
def registerArtifact (d : Deployment) (leaseId : Uuid) (lease : ExecutionLease)
    (acc : State × List ExecutionArtifact) (entry : Uuid × ArtifactRegistration) :
    Except Failure (State × List ExecutionArtifact) :=
  let (st, registered) := acc
  let (id, payload) := entry
  match d.verifyArtifact leaseId payload with
  | some e => throw e
  | none =>
    match st.artifacts.find? (fun _ artifact =>
        artifact.organizationId = lease.organizationId &&
        artifact.digestAlgorithm = payload.digestAlgorithm &&
        artifact.digest = payload.digest && artifact.kind = payload.kind) with
    | some (_, existing) => do
      require (existing.objectKey = payload.objectKey ∧ existing.sizeBytes = payload.sizeBytes ∧
          existing.mediaType = payload.mediaType ∧
          (d.leaseActivated leaseId → d.sameProvenance existing.provenance payload.provenance))
        (digestConflict "The artifact digest is already registered with different metadata.")
      pure (st, registered ++ [existing])
    | none => do
      let record : ExecutionArtifact :=
        { toArtifactRegistration := payload
          organizationId := lease.organizationId
          projectId := lease.projectId
          target := lease.target
          leaseId := leaseId
          createdByWorkerId := lease.workerId }
      let artifacts ← demand (st.artifacts.insert? id record)
        (digestConflict "The artifact digest could not be registered.")
      pure ({ st with artifacts := artifacts }, registered ++ [record])

theorem registerArtifacts_ok {d : Deployment} {leaseId : Uuid} {lease : ExecutionLease}
    {entries : List (Uuid × ArtifactRegistration)} {st st' : State}
    {registered : List ExecutionArtifact}
    (h : entries.foldlM (registerArtifact d leaseId lease) (st, []) = .ok (st', registered)) :
    ∃ artifacts, st' = { st with artifacts := artifacts } := by
  refine foldlM_rule (fun acc _ => ∃ artifacts, acc.1 = { st with artifacts := artifacts }) ?_
    entries (st, []) (st', registered) ⟨st.artifacts, rfl⟩ h
  rintro ⟨mid, before⟩ ⟨mid', after⟩ ⟨id, payload⟩ rest ⟨artifacts, hmid⟩ hstep
  simp only at hmid
  simp only [registerArtifact] at hstep
  split at hstep
  · simp only [throw_ok] at hstep
  · split at hstep
    · simp only [bind_ok, pure_ok, Prod.mk.injEq] at hstep
      obtain ⟨-, -, rfl, -⟩ := hstep
      exact ⟨artifacts, hmid⟩
    · simp only [bind_ok, demand_ok, pure_ok, Prod.mk.injEq] at hstep
      obtain ⟨artifacts', -, rfl, -⟩ := hstep
      exact ⟨artifacts', by rw [hmid]⟩

structure CompleteLeaseRequest where
  outcome : Outcome
  retryable : Bool
  errorCode : Option String
  errorSummary : Option String
  artifacts : List (Uuid × ArtifactRegistration)

def resetBuild (build : Build) : Build :=
  { build with
    status := .queued
    errorCode := none
    errorMessage := none
    completedAt := none
    version := build.version + 1 }

def resetRun (run : Run) : Run :=
  { run with
    status := .queued
    failureCode := none
    failureSummary := none
    finishedAt := none
    version := run.version + 1 }

def resetRetryTarget (st : State) : Target → State
  | .build b => st.setBuild b resetBuild
  | .runStart r => st.setRun r resetRun
  | .runCancel _ => st

def completedBuild (payload : CompleteLeaseRequest) (artifact : Option ExecutionArtifact)
    (now : Time) (build : Build) : Except Failure Build :=
  let ended (status : BuildStatus) (code : Option String) (message : Option String) : Build :=
    { build with
      status := status
      errorCode := code
      errorMessage := message
      completedAt := some now
      version := build.version + 1 }
  let required := apiError 422 "ARTIFACT_REQUIRED"
    "A passed, available container image artifact is required."
  match payload.outcome with
  | .succeeded => do
    let artifact ← demand artifact required
    require (artifact.kind = .containerImage ∧ artifact.status = .available ∧
      artifact.scanStatus = .passed) required
    pure { ended .succeeded none none with
      artifactDigest := some (artifact.digestAlgorithm ++ ":" ++ artifact.digest) }
  | .timedOut =>
    pure (ended .timedOut (some (payload.errorCode.getD "BUILD_TIMED_OUT")) payload.errorSummary)
  | .aborted | .cancelled => pure (ended .cancelled payload.errorCode payload.errorSummary)
  | .failed =>
    pure (ended .failed (some (payload.errorCode.getD "BUILD_FAILED")) payload.errorSummary)

def completedRun (payload : CompleteLeaseRequest) (cancel : Bool) (now : Time) (run : Run) : Run :=
  let ended (status : RunStatus) (code : Option String) (summary : Option String) : Run :=
    { run with
      status := status
      failureCode := code
      failureSummary := summary
      finishedAt := some now
      version := run.version + 1 }
  if cancel then
    match payload.outcome with
    | .aborted | .succeeded => ended .aborted none none
    | _ => ended .failed (some (payload.errorCode.getD "CANCEL_FAILED")) payload.errorSummary
  else
    match payload.outcome with
    | .succeeded => ended .succeeded none none
    | .timedOut =>
      ended .timedOut (some (payload.errorCode.getD "RUN_TIMED_OUT")) payload.errorSummary
    | .aborted | .cancelled => ended .aborted payload.errorCode payload.errorSummary
    | .failed => ended .failed (some (payload.errorCode.getD "RUN_FAILED")) payload.errorSummary

def completedLease (delivered : Bool) (code summary : Option String) (now : Time)
    (lease : ExecutionLease) : ExecutionLease :=
  { lease with
    status := if delivered then .completed else .failed
    completedAt := some now
    failureCode := code
    failureSummary := summary }

def completedSource (delivered : Bool) (code : Option String) (now : Time)
    (source : OutboxSource) : OutboxSource :=
  { source with
    status := if delivered then .delivered else .failed
    deliveredAt := some now
    lastErrorCode := code }

def closeLease (st : State) (leaseId : Uuid) (lease : ExecutionLease) (delivered : Bool)
    (code summary : Option String) (now : Time) : State :=
  (st.setLease leaseId (completedLease delivered code summary now)).setSource lease.source
    (completedSource delivered code now)

def completeBuildLease (st : State) (leaseId : Uuid) (lease : ExecutionLease) (buildId : Uuid)
    (payload : CompleteLeaseRequest) (artifact : Option ExecutionArtifact) (now : Time) :
    Except Failure State := do
  let build ← demand (st.builds.get? buildId) (notFound "The Build was not found.")
  let build ← completedBuild payload artifact now build
  pure (closeLease (st.setBuild buildId (fun _ => build)) leaseId lease
    (payload.outcome = .succeeded) build.errorCode build.errorMessage now)

/-- A confirmed cancellation fences the other leases and commands of the run; a failed one
leaves them. -/
def confirmFence (st : State) (leaseId : Uuid) (lease : ExecutionLease) (runId : Uuid)
    (cancel : Bool) (payload : CompleteLeaseRequest) (now : Time) : State :=
  if cancel ∧ (payload.outcome = .aborted ∨ payload.outcome = .succeeded) then
    fenceCancelledRunLeases st runId now (some leaseId)
      ((st.outbox.get? lease.source).map (fun _ => lease.source))
  else st

def completeRunLease (st : State) (leaseId : Uuid) (lease : ExecutionLease) (runId : Uuid)
    (cancel : Bool) (payload : CompleteLeaseRequest) (now : Time) : Except Failure State := do
  let run ← demand (st.runs.get? runId) (notFound "The Run was not found.")
  let run := completedRun payload cancel now run
  pure (closeLease ((confirmFence st leaseId lease runId cancel payload now).setRun runId
    (fun _ => run)) leaseId lease (run.status = .succeeded ∨ run.status = .aborted)
    run.failureCode run.failureSummary now)

def retriedSource (available : Time) (code : String) (source : OutboxSource) : OutboxSource :=
  { source with status := .pending, availableAt := available, lastErrorCode := some code }

def retryLease (st : State) (leaseId : Uuid) (lease : ExecutionLease)
    (payload : CompleteLeaseRequest) (available : Time) (now : Time) : State :=
  let code := payload.errorCode.getD "WORKER_RETRYABLE_FAILURE"
  let st := st.setLease leaseId (completedLease false (some code) payload.errorSummary now)
  let st := st.setSource lease.source (retriedSource available code)
  resetRetryTarget st lease.target

def settleLease (d : Deployment) (st : State) (leaseId : Uuid) (lease : ExecutionLease)
    (payload : CompleteLeaseRequest) (now : Time) : Except Failure State := do
  let retry := executionRetryAllowed payload.retryable payload.outcome lease.attempt
    d.settings.workerMaxAttempts (st.outbox.get? lease.source).isSome
  let (st, registered) ← payload.artifacts.foldlM (registerArtifact d leaseId lease) (st, [])
  let artifact := registered.find? (fun item => item.kind = .containerImage)
  if retry then do
    let available ← retryAvailableAt now lease.attempt d.settings.workerRetryBaseSeconds
      d.settings.workerRetryMaxSeconds
    pure (retryLease st leaseId lease payload available now)
  else
    match lease.target with
    | .build b => completeBuildLease st leaseId lease b payload artifact now
    | .runStart r => completeRunLease st leaseId lease r false payload now
    | .runCancel r => completeRunLease st leaseId lease r true payload now

/-- A completion is a retry with an attempt left, the end of a build, or the end of a run. -/
theorem settleLease_ok {d : Deployment} {st st' : State} {leaseId : Uuid} {lease : ExecutionLease}
    {payload : CompleteLeaseRequest} {now : Time}
    (h : settleLease d st leaseId lease payload now = .ok st') :
    ∃ artifacts, let mid : State := { st with artifacts := artifacts }
      (∃ available, lease.attempt < d.settings.workerMaxAttempts ∧
        st' = retryLease mid leaseId lease payload available now) ∨
      (∃ b build delivered, lease.target = .build b ∧
        st' = closeLease (mid.setBuild b (fun _ => build)) leaseId lease delivered
          build.errorCode build.errorMessage now) ∨
      (∃ r run cancel, lease.target = (if cancel then .runCancel r else .runStart r) ∧
        st.runs.get? r = some run ∧
        st' = closeLease ((confirmFence mid leaseId lease r cancel payload now).setRun r
            (fun _ => completedRun payload cancel now run)) leaseId lease
          ((completedRun payload cancel now run).status = .succeeded ∨
            (completedRun payload cancel now run).status = .aborted)
          (completedRun payload cancel now run).failureCode
          (completedRun payload cancel now run).failureSummary now) := by
  simp only [settleLease, bind_ok] at h
  obtain ⟨⟨mid, registered⟩, hregister, hrest⟩ := h
  obtain ⟨artifacts, rfl⟩ := registerArtifacts_ok hregister
  refine ⟨artifacts, ?_⟩
  split_ifs at hrest with hretry
  · simp only [bind_ok, pure_ok] at hrest
    obtain ⟨available, -, rfl⟩ := hrest
    exact .inl ⟨available, (executionRetryAllowed_iff.1 hretry).2.2.2.2, rfl⟩
  · split at hrest
    · rename_i b htarget
      simp only [completeBuildLease, bind_ok, demand_ok, pure_ok] at hrest
      obtain ⟨-, -, build, -, rfl⟩ := hrest
      exact .inr (.inl ⟨b, build, _, htarget, rfl⟩)
    · rename_i r htarget
      simp only [completeRunLease, bind_ok, demand_ok, pure_ok] at hrest
      obtain ⟨run, hrun, rfl⟩ := hrest
      exact .inr (.inr ⟨r, run, false, htarget, hrun, rfl⟩)
    · rename_i r htarget
      simp only [completeRunLease, bind_ok, demand_ok, pure_ok] at hrest
      obtain ⟨run, hrun, rfl⟩ := hrest
      exact .inr (.inr ⟨r, run, true, htarget, hrun, rfl⟩)

def completeLease (d : Deployment) (st : State) (leaseId : Uuid) (lease : ExecutionLease)
    (payload : CompleteLeaseRequest) (now : Time) : Except Failure State :=
  let (st, converged) := match lease.target with
    | .runStart r => if cancelRequested st r then convergeCancelledRun st r now else (st, false)
    | _ => (st, false)
  if converged then pure st
  else do
    let st ← settleLease d st leaseId lease payload now
    pure (st.closeGrants leaseId .revoked)

structure SecretEnvelopeRequest where
  names : List String
  environment : String
  workerPublicKey : String

def declaredSecrets (version : AgentVersion) : List String :=
  match read version.manifest "secrets" with
  | .array items => items.filterMap (fun item => match item with
    | .text name => some name
    | _ => none)
  | _ => []

def configuredSecret (st : State) (lease : ExecutionLease) (payload : SecretEnvelopeRequest)
    (name : String) : Option (Uuid × ProjectSecret) :=
  st.directory.projectSecrets.find? (fun _ secret =>
    secret.organizationId = lease.organizationId && secret.projectId = lease.projectId &&
    secret.environment = payload.environment && secret.name = name)

def readSecret (d : Deployment) (st : State) (lease : ExecutionLease)
    (payload : SecretEnvelopeRequest) (name : String) : Except Failure Unit := do
  let (id, secret) ← demand (configuredSecret st lease payload name) (.value name)
  require (secret.masterKeyVersion = d.settings.projectSecretMasterKeyVersion)
    (apiError 503 "SECRET_KEY_VERSION_UNAVAILABLE" "A required secret key version is unavailable.")
  require (d.decryptProjectSecret id) (.value "The project secret could not be decrypted.")

def missingSecrets (st : State) (lease : ExecutionLease) (payload : SecretEnvelopeRequest) :
    List String :=
  payload.names.filter (fun name => (configuredSecret st lease payload name).isNone)

def issuedGrant (d : Deployment) (leaseId : Uuid) (lease : ExecutionLease) (runId : Uuid)
    (payload : SecretEnvelopeRequest) (fingerprint : String) (now : Time) :
    SecretInjectionGrant where
  workerId := lease.workerId
  leaseId := leaseId
  organizationId := lease.organizationId
  projectId := lease.projectId
  runId := runId
  requestFingerprint := fingerprint
  secretNames := payload.names
  environment := payload.environment
  status := .issued
  issuedAt := now
  expiresAt := min lease.expiresAt (now + seconds d.settings.workerSecretEnvelopeSeconds)

def workerPublicKey (d : Deployment) (payload : SecretEnvelopeRequest) : Except Failure String :=
  match d.decodeWorkerPublicKey payload.workerPublicKey with
  | .ok key => .ok key
  | .error message => .error (apiError 422 "VALIDATION_FAILED" message)

def envelopeFingerprint (d : Deployment) (leaseId : Uuid) (payload : SecretEnvelopeRequest)
    (publicKey : String) : String :=
  d.canonicalFingerprint (.object [("lease_id", .uuid leaseId),
    ("names", .array (payload.names.map .text)), ("environment", .text payload.environment),
    ("worker_public_key_digest", .text (d.sha256 publicKey))])

def issueSecretEnvelope (d : Deployment) (st : State) (worker : WorkerIdentity) (leaseId : Uuid)
    (lease : ExecutionLease) (payload : SecretEnvelopeRequest) (grantId : Uuid) (now : Time) :
    Except Failure (State × Uuid) := do
  let runId ← demand (match lease.target with
    | .runStart r => some r
    | _ => none) (stateConflict "Secret envelopes are available only for Run execution leases.")
  require (.secretEnvelope ∈ worker.capabilities) (apiError 403 "WORKER_CAPABILITY_DENIED"
    "The worker cannot request secret envelopes.")
  let run ← demand (st.runs.get? runId) (notFound "The Run was not found.")
  let version ← demand (st.directory.agentVersions.get? run.agentVersionId)
    (notFound "The immutable Agent version was not found.")
  require (∀ name ∈ payload.names, name ∈ declaredSecrets version)
    (apiError 403 "SECRET_NOT_DECLARED"
      "The Agent version did not declare every requested secret.")
  let publicKey ← workerPublicKey d payload
  let fingerprint := envelopeFingerprint d leaseId payload publicKey
  match st.grants.find? (fun _ grant =>
      grant.leaseId = leaseId && grant.requestFingerprint = fingerprint) with
  | some (id, existing) => do
    require (now < existing.expiresAt ∧ existing.status = .issued)
      (apiError 409 "SECRET_GRANT_EXPIRED"
        "The secret grant expired. Claim a new execution lease.")
    pure (st, id)
  | none => do
    let missing := missingSecrets st lease payload
    require (missing = []) (.api 409 "SECRET_NOT_CONFIGURED"
      "One or more declared project secrets are not configured."
      [("names", .array (missing.map .text)), ("environment", .text payload.environment)])
    let _ ← payload.names.foldlM (fun _ name => readSecret d st lease payload name) ()
    let grants ← demand (st.grants.insert? grantId
      (issuedGrant d leaseId lease runId payload fingerprint now))
      (.integrity "secret_injection_grants_pkey")
    pure ({ st with grants := grants }, grantId)

/-- A request answered from an earlier grant writes nothing. -/
theorem issueSecretEnvelope_ok {d : Deployment} {st st' : State} {worker : WorkerIdentity}
    {leaseId : Uuid} {lease : ExecutionLease} {payload : SecretEnvelopeRequest} {grantId id : Uuid}
    {now : Time}
    (h : issueSecretEnvelope d st worker leaseId lease payload grantId now = .ok (st', id)) :
    st' = st ∨ ∃ runId fingerprint, st.grants.insert? grantId
        (issuedGrant d leaseId lease runId payload fingerprint now) = some st'.grants ∧
      st' = { st with grants := st'.grants } := by
  simp only [issueSecretEnvelope, bind_ok] at h
  obtain ⟨runId, -, -, -, -, -, -, -, -, -, publicKey, -, hrest⟩ := h
  split at hrest
  · simp only [bind_ok, pure_ok, Prod.mk.injEq] at hrest
    obtain ⟨-, -, rfl, -⟩ := hrest
    exact .inl rfl
  · simp only [bind_ok, demand_ok, pure_ok, Prod.mk.injEq] at hrest
    obtain ⟨-, -, -, -, grants, hinsert, rfl, -⟩ := hrest
    exact .inr ⟨_, _, hinsert, rfl⟩

end RoozDataCloud.LeaseRequests
