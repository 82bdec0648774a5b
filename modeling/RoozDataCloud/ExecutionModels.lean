import RoozDataCloud.KeyedTable
import RoozDataCloud.FallibleSteps

set_option autoImplicit false

/-!
# The execution tables

Rows of the control plane that builds, runs, leases and secret grants are kept
in. The two dispatch outboxes are one table here, keyed by which of them a row
stands in; a row's target says what the worker is asked to do.
-/
namespace RoozDataCloud.ExecutionModels
open KeyedTable

def Uuid : Type := ℕ
  deriving DecidableEq, LinearOrder

instance (n : ℕ) : OfNat Uuid n := ⟨n⟩

/-- Microseconds since the epoch. -/
abbrev Time := ℕ

def seconds (n : ℕ) : Time := n * 1000000

/-- A JSON value. Text holding an identifier or an ISO timestamp is told apart from other
text, so that parsing it back is a match. -/
inductive Value where
  | null
  | bool (b : Bool)
  | int (n : ℤ)
  | text (s : String)
  | uuid (id : Uuid)
  | timestamp (aware : Bool) (t : Time)
  | array (items : List Value)
  | object (fields : List (String × Value))

abbrev Payload := List (String × Value)

def Payload.get? (p : Payload) (key : String) : Option Value := p.lookup key

inductive Failure where
  | api (statusCode : ℕ) (code message : String) (details : Payload)
  | value (message : String)
  | integrity (constraint : String)

def apiError (statusCode : ℕ) (code message : String) : Failure :=
  .api statusCode code message []

inductive RunStatus where
  | draft | ready | queued | starting | running | pausing | paused
  | succeeded | partiallySucceeded | failed | timingOut | timedOut | aborting | aborted
  deriving DecidableEq

def runTerminalStatuses : List RunStatus :=
  [.succeeded, .partiallySucceeded, .failed, .timedOut, .aborted]

def runCancellableActiveStatuses : List RunStatus :=
  [.starting, .running, .pausing, .paused, .timingOut]

inductive BuildStatus where
  | queued | starting | running | succeeded | failed | cancelled | timedOut
  deriving DecidableEq

inductive OutboxStatus where
  | pending | claimed | delivered | failed | cancelled
  deriving DecidableEq

inductive LeaseStatus where
  | active | completed | failed | expired | cancelled
  deriving DecidableEq

inductive GrantStatus where
  | issued | consumed | expired | revoked
  deriving DecidableEq

inductive Outcome where
  | succeeded | failed | timedOut | aborted | cancelled
  deriving DecidableEq

inductive WorkKind where
  | build | runStart | runCancel
  deriving DecidableEq

inductive WorkerCapability where
  | work (kind : WorkKind)
  | eventIngest | secretEnvelope | datasetAppend | kvAccess | requestQueueAccess
  deriving DecidableEq

/-- What a source or a lease is about; the kind decides which identifier there is. -/
inductive Target where
  | build (buildId : Uuid)
  | runStart (runId : Uuid)
  | runCancel (runId : Uuid)
  deriving DecidableEq

namespace Target

def kind : Target → WorkKind
  | build _ => .build
  | runStart _ => .runStart
  | runCancel _ => .runCancel

def runId? : Target → Option Uuid
  | build _ => none
  | runStart r => some r
  | runCancel r => some r

end Target

/-- A row of `build_dispatch_outbox` or of `run_command_outbox`. -/
inductive SourceRef where
  | buildDispatch (id : Uuid)
  | runCommand (id : Uuid)
  deriving DecidableEq

def SourceRef.id : SourceRef → Uuid
  | buildDispatch id => id
  | runCommand id => id

structure OutboxSource where
  organizationId : Uuid
  projectId : Uuid
  target : Target
  topic : String
  payload : Payload
  status : OutboxStatus
  attempts : ℕ
  availableAt : Time
  claimedAt : Option Time
  deliveredAt : Option Time
  lastErrorCode : Option String

structure Run where
  organizationId : Uuid
  projectId : Uuid
  agentId : Uuid
  agentVersionId : Uuid
  buildId : Uuid
  status : RunStatus
  inputReference : Payload
  startedAt : Option Time
  finishedAt : Option Time
  cancelRequestedAt : Option Time
  cancelDeadlineAt : Option Time
  failureCode : Option String
  failureSummary : Option String
  version : ℕ

structure Build where
  organizationId : Uuid
  projectId : Uuid
  agentId : Uuid
  agentVersionId : Uuid
  sourceObjectId : Option Uuid
  status : BuildStatus
  artifactDigest : Option String
  errorCode : Option String
  errorMessage : Option String
  startedAt : Option Time
  completedAt : Option Time
  version : ℕ

structure ExecutionLease where
  workerId : Uuid
  organizationId : Uuid
  projectId : Uuid
  source : SourceRef
  sourceTopic : String
  target : Target
  leaseTokenDigest : String
  status : LeaseStatus
  attempt : ℕ
  claimedAt : Time
  expiresAt : Time
  deadlineAt : Time
  lastRenewedAt : Option Time
  completedAt : Option Time
  failureCode : Option String
  failureSummary : Option String

structure SecretInjectionGrant where
  workerId : Uuid
  leaseId : Uuid
  organizationId : Uuid
  projectId : Uuid
  runId : Uuid
  requestFingerprint : String
  secretNames : List String
  environment : String
  status : GrantStatus
  issuedAt : Time
  expiresAt : Time

inductive ArtifactKind where
  | containerImage | sbom | provenance | runOutput | logBundle
  deriving DecidableEq

inductive ArtifactStatus where
  | available | quarantined | rejected | deleted
  deriving DecidableEq

inductive ScanStatus where
  | pending | passed | failed | notRequired
  deriving DecidableEq

/-- The columns a worker registers an artifact with. -/
structure ArtifactRegistration where
  kind : ArtifactKind
  digestAlgorithm : String
  digest : String
  objectKey : String
  mediaType : String
  sizeBytes : ℕ
  status : ArtifactStatus
  scanStatus : ScanStatus
  provenance : Payload

structure ExecutionArtifact extends ArtifactRegistration where
  organizationId : Uuid
  projectId : Uuid
  target : Target
  leaseId : Uuid
  createdByWorkerId : Uuid

structure IdempotencyKey where
  organizationId : Uuid
  principalId : Uuid
  endpoint : String
  keyDigest : String
  deriving DecidableEq

structure IdempotencyRecord where
  requestFingerprint : String
  resourceId : Uuid
  hasSnapshot : Bool

/-- Any status other than `ACTIVE` keeps a project's work from being admitted. -/
inductive ProjectStatus where
  | active | inactive
  deriving DecidableEq

structure Project where
  status : ProjectStatus
  deletedAt : Option Time
  maxActiveLeases : ℕ

inductive WorkerStatus where
  | active | draining | revoked
  deriving DecidableEq

structure WorkerIdentity where
  tokenDigest : String
  capabilities : List WorkerCapability
  maxConcurrency : ℕ
  status : WorkerStatus
  lastSeenAt : Option Time
  lastLostAt : Option Time
  lastRecoveredAt : Option Time
  expiresAt : Option Time
  revokedAt : Option Time

structure Agent where
  organizationId : Uuid
  projectId : Uuid
  deletedAt : Option Time

structure AgentVersion where
  organizationId : Uuid
  projectId : Uuid
  agentId : Uuid
  manifestDigest : String
  manifest : Payload
  sourceObjectId : Option Uuid

inductive StorageStatus where
  | pendingUpload | quarantined | available | rejected | deleted
  deriving DecidableEq

structure StorageObject where
  organizationId : Uuid
  projectId : Uuid
  agentId : Uuid
  status : StorageStatus
  scanStatus : ScanStatus
  deletedAt : Option Time

inductive EgressPolicyStatus where
  | draft | active | disabled
  deriving DecidableEq

structure EgressPolicy where
  organizationId : Uuid
  projectId : Uuid
  status : EgressPolicyStatus
  activeRevisionId : Option Uuid

structure EgressPolicyRevision where
  organizationId : Uuid
  projectId : Uuid
  policyId : Uuid
  revisionNumber : ℤ
  policyDigest : String
  credentialSecretId : Option Uuid

structure ProjectSecret where
  organizationId : Uuid
  projectId : Uuid
  name : String
  environment : String
  masterKeyVersion : String

/-- Rows the execution plane reads and other services maintain. -/
structure Directory where
  projects : Table Uuid Project
  workers : Table Uuid WorkerIdentity
  agents : Table Uuid Agent
  agentVersions : Table Uuid AgentVersion
  storageObjects : Table Uuid StorageObject
  egressPolicies : Table Uuid EgressPolicy
  egressRevisions : Table Uuid EgressPolicyRevision
  projectSecrets : Table Uuid ProjectSecret

structure State where
  directory : Directory
  builds : Table Uuid Build
  runs : Table Uuid Run
  outbox : Table SourceRef OutboxSource
  leases : Table Uuid ExecutionLease
  grants : Table Uuid SecretInjectionGrant
  artifacts : Table Uuid ExecutionArtifact
  idempotency : Table IdempotencyKey IdempotencyRecord

namespace State

def setBuild (st : State) (id : Uuid) (f : Build → Build) : State :=
  { st with builds := st.builds.modify id f }

def setRun (st : State) (id : Uuid) (f : Run → Run) : State :=
  { st with runs := st.runs.modify id f }

def setSource (st : State) (ref : SourceRef) (f : OutboxSource → OutboxSource) : State :=
  { st with outbox := st.outbox.modify ref f }

def setLease (st : State) (id : Uuid) (f : ExecutionLease → ExecutionLease) : State :=
  { st with leases := st.leases.modify id f }

/-- Moves the `ISSUED` grants of one lease to `status`. -/
def closeGrants (st : State) (leaseId : Uuid) (status : GrantStatus) : State :=
  { st with grants := st.grants.mapRows (fun _ grant =>
      if grant.leaseId = leaseId ∧ grant.status = .issued then { grant with status := status }
      else grant) }

end State

/-- The settings the execution plane reads, within the bounds their validators enforce. -/
structure Settings where
  workerLeaseSeconds : ℕ
  workerLeaseMaxSeconds : ℕ
  workerMaxAttempts : ℕ
  workerRetryBaseSeconds : ℕ
  workerRetryMaxSeconds : ℕ
  workerCancelConvergenceSeconds : ℕ
  workerSecretEnvelopeSeconds : ℕ
  workerLostAfterSeconds : ℕ
  sandboxMaxBuildSeconds : ℕ
  sandboxMaxRunSeconds : ℕ
  projectSecretMasterKeyVersion : String
  lease_bounds : 15 ≤ workerLeaseSeconds ∧ workerLeaseSeconds ≤ workerLeaseMaxSeconds
  attempt_bounds : 1 ≤ workerMaxAttempts ∧ workerMaxAttempts ≤ 20
  retry_bounds : 1 ≤ workerRetryBaseSeconds ∧ workerRetryBaseSeconds ≤ workerRetryMaxSeconds
  convergence_bounds :
    30 ≤ workerCancelConvergenceSeconds ∧ workerCancelConvergenceSeconds ≤ 3600
  envelope_bounds : 15 ≤ workerSecretEnvelopeSeconds ∧ workerSecretEnvelopeSeconds ≤ 300
  lost_bounds : 15 ≤ workerLostAfterSeconds ∧ workerLostAfterSeconds ≤ 300
  build_bounds : 30 ≤ sandboxMaxBuildSeconds ∧ sandboxMaxBuildSeconds ≤ 3600
  run_bounds : 1 ≤ sandboxMaxRunSeconds ∧ sandboxMaxRunSeconds ≤ 86400

def defaultSettings : Settings where
  workerLeaseSeconds := 60
  workerLeaseMaxSeconds := 300
  workerMaxAttempts := 5
  workerRetryBaseSeconds := 2
  workerRetryMaxSeconds := 300
  workerCancelConvergenceSeconds := 300
  workerSecretEnvelopeSeconds := 60
  workerLostAfterSeconds := 45
  sandboxMaxBuildSeconds := 900
  sandboxMaxRunSeconds := 600
  projectSecretMasterKeyVersion := "local-v1"
  lease_bounds := by decide
  attempt_bounds := by decide
  retry_bounds := by decide
  convergence_bounds := by decide
  envelope_bounds := by decide
  lost_bounds := by decide
  build_bounds := by decide
  run_bounds := by decide

/-- A deployment: its settings, and the digests, key decoding, object-store checks and
decryption the requests call out to. -/
structure Deployment where
  settings : Settings
  sha256 : String → String
  canonicalFingerprint : Value → String
  boundEgressPolicy : Payload → Bool
  decodeWorkerPublicKey : String → Except String String
  verifyArtifact : Uuid → ArtifactRegistration → Option Failure
  leaseActivated : Uuid → Bool
  sameProvenance : Payload → Payload → Bool
  decryptProjectSecret : Uuid → Bool

/-- Default settings; digests are the texts themselves and every check passes. -/
def plainDeployment : Deployment where
  settings := defaultSettings
  sha256 := id
  canonicalFingerprint := fun _ => "fingerprint"
  boundEgressPolicy := fun _ => true
  decodeWorkerPublicKey := .ok
  verifyArtifact := fun _ _ => none
  leaseActivated := fun _ => false
  sameProvenance := fun _ _ => true
  decryptProjectSecret := fun _ => true

end RoozDataCloud.ExecutionModels
