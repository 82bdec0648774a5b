import RoozDataCloud.WorkerCapabilities

set_option autoImplicit false

/-!
# The capability checks of a request

A lease keeps the payload of its claim with the activation and the capabilities that
were issued. Each request under the lease computes its capability again and compares.
-/
namespace RoozDataCloud.CapabilityChecks
open KeyedTable ExecutionModels JsonDocuments SandboxSettings WorkerCapabilities FallibleSteps
open Datasets (Json)

inductive CapabilityProfile where
  | offlineMinimal | brokeredWebEgress | controlledBrowser
  deriving DecidableEq

/-- The activation of a workload. The facts are those that its validator asks for. -/
structure SandboxActivation where
  agentVersionId : Option Uuid
  workerName : String
  attestationDigest : String
  sandboxPolicyDigest : String
  constraintsDigest : String
  capabilityProfile : CapabilityProfile
  egressPolicyDigest : Option String
  projectEgressPolicyBindingDigest : Option String
  browserPolicyDigest : Option String
  datasetWriteEnabled : Bool
  keyValueStoreEnabled : Bool
  requestQueueEnabled : Bool
  requestQueueHttpEnabled : Bool
  requestQueueBrowserEnabled : Bool
  requestQueueDatasetEnabled : Bool
  requestQueueKeyValueStoreEnabled : Bool
  egress_profile : capabilityProfile = .offlineMinimal ↔ egressPolicyDigest = none
  browser_profile : capabilityProfile = .controlledBrowser ↔ browserPolicyDigest.isSome = true
  project_egress : projectEgressPolicyBindingDigest.isSome = true → egressPolicyDigest.isSome = true
  http_profile : requestQueueHttpEnabled = true →
    requestQueueEnabled = true ∧ capabilityProfile = .brokeredWebEgress
  queue_browser_profile : requestQueueBrowserEnabled = true →
    requestQueueEnabled = true ∧ capabilityProfile = .controlledBrowser
  dataset_composition : requestQueueDatasetEnabled = (requestQueueEnabled && datasetWriteEnabled)
  keyValueStore_composition :
    requestQueueKeyValueStoreEnabled = (requestQueueEnabled && keyValueStoreEnabled)

/-- `lease.payload_snapshot` -/
structure Snapshot where
  payload : ClaimPayload
  activation : Option SandboxActivation
  datasetAppendCapability : Option Members
  keyValueStoreCapability : Option Members
  requestQueueCapability : Option Members

/-- A capability that is expected, and is the one that is stored. -/
def granted (stored expected : Option Members) : Option Members :=
  match stored, expected with
  | some stored, some expected =>
    if same (.object stored) (.object expected) then some expected else none
  | _, _ => none

section Checks
variable {e : Encoding} (settings : Settings e)

/-- What `_enabled` tells of the stored activation. The digest of the browser's egress policy is
read from the input, whether or not the activation has a browser. -/
def storedGrant (snapshot : Snapshot) : QueueGrant where
  requestQueueEnabled := settings.sandboxExecutionEnabled &&
    decide (settings.sandboxActivationMode = .canary) &&
    snapshot.activation.any (·.requestQueueEnabled)
  httpEnabled := snapshot.activation.any (·.requestQueueHttpEnabled)
  egressPolicyDigest := (snapshot.activation.filter (·.requestQueueHttpEnabled)).bind
    (·.egressPolicyDigest)
  browserEnabled := snapshot.activation.any (·.requestQueueBrowserEnabled)
  browserPolicyDigest := (snapshot.activation.filter (·.requestQueueBrowserEnabled)).bind
    (·.browserPolicyDigest)
  browserEgressPolicyDigest :=
    text? (member snapshot.payload.input "request_queue_browser_egress_policy_digest")
  datasetEnabled := snapshot.activation.any (·.requestQueueDatasetEnabled)
  keyValueStoreEnabled := snapshot.activation.any (·.requestQueueKeyValueStoreEnabled)
  projectBindingDigest := snapshot.activation.bind (·.projectEgressPolicyBindingDigest)

def queueDisabled : Failure :=
  apiError 403 "WORKER_REQUEST_QUEUE_DISABLED" "Worker Request Queue access is disabled."

/-- `_enabled` -/
def enabled (worker : SandboxWorker) (lease : ExecutionLease) (snapshot : Snapshot) :
    Except Failure Members := do
  require (lease.target.kind = .runStart) queueDisabled
  demand (granted snapshot.requestQueueCapability
    (requestQueueCapability settings worker snapshot.payload (storedGrant settings snapshot)))
    queueDisabled

def resourceNotFound : Failure :=
  apiError 404 "RESOURCE_NOT_FOUND" "The requested resource was not found."

/-- The run of a lease, if it is a run of the canary version. -/
def canaryRunOf (st : State) (lease : ExecutionLease) (snapshot : Snapshot) (runId : Uuid) :
    Except Failure Run := do
  let run ← demand ((st.runs.get? runId).filter (fun run =>
    run.organizationId = lease.organizationId && run.projectId = lease.projectId)) resourceNotFound
  require (e.uuidText run.agentVersionId = settings.canaryAgentVersionId) resourceNotFound
  require (snapshot.payload.agentVersionId = e.uuidText run.agentVersionId) resourceNotFound
  pure run

def workerRunContext (st : State) (worker : SandboxWorker) (lease : ExecutionLease)
    (snapshot : Snapshot) : Except Failure (Run × Members) := do
  require (settings.keyValueStoreEnabled = true) (apiError 403 "KV_WORKER_ACCESS_DISABLED"
    "Worker Key-Value Store access is disabled.")
  require (lease.target.kind = .runStart ∧ .kvAccess ∈ worker.capabilities)
    (apiError 403 "KV_WORKER_CAPABILITY_DENIED" "The worker cannot access Key-Value Store state.")
  let runId ← demand lease.target.runId? (apiError 403 "KV_WORKER_CAPABILITY_DENIED"
    "The worker cannot access Key-Value Store state.")
  let capability ← demand (granted snapshot.keyValueStoreCapability
    (keyValueStoreCapability settings worker snapshot.payload
      (snapshot.activation.any (·.keyValueStoreEnabled))
      (snapshot.activation.any (·.requestQueueKeyValueStoreEnabled))))
    (apiError 403 "KV_WORKER_CAPABILITY_INVALID"
      "The worker Key-Value Store capability receipt is invalid.")
  require (snapshot.payload.runId.getD "" = e.uuidText runId)
    (apiError 403 "KV_WORKER_CAPABILITY_INVALID"
      "The worker Key-Value Store capability receipt is invalid.")
  let run ← canaryRunOf settings st lease snapshot runId
  pure (run, capability)

/-- The checks of `append_worker_dataset_items`, before it looks for the dataset. -/
def datasetContext (st : State) (worker : SandboxWorker) (lease : ExecutionLease)
    (snapshot : Snapshot) : Except Failure (Run × Members) := do
  require (settings.datasetWritesEnabled = true) (apiError 403 "DATASET_WORKER_APPEND_DISABLED"
    "Worker Dataset append is disabled.")
  require (lease.target.kind = .runStart) (apiError 409 "WORK_ITEM_STATE_CONFLICT"
    "Only active Run execution leases can append Dataset items.")
  let runId ← demand lease.target.runId? (apiError 409 "WORK_ITEM_STATE_CONFLICT"
    "Only active Run execution leases can append Dataset items.")
  require (.datasetAppend ∈ worker.capabilities) (apiError 403 "WORKER_CAPABILITY_DENIED"
    "The worker cannot append Dataset items.")
  let capability ← demand (granted snapshot.datasetAppendCapability
    (datasetAppendCapability settings worker snapshot.payload
      (snapshot.activation.any (·.datasetWriteEnabled))
      (snapshot.activation.any (·.requestQueueDatasetEnabled))))
    (apiError 403 "DATASET_WORKER_CAPABILITY_INVALID"
      "The worker Dataset capability receipt is invalid.")
  require (snapshot.payload.runId.getD "" = e.uuidText runId)
    (apiError 403 "DATASET_WORKER_CAPABILITY_INVALID"
      "The worker Dataset capability receipt is invalid.")
  let run ← canaryRunOf settings st lease snapshot runId
  pure (run, capability)

end Checks

section Grants
variable {stored expected : Option Members} {capability : Members}

theorem granted_eq (h : granted stored expected = some capability) : expected = some capability := by
  cases stored <;> cases expected <;> simp_all [granted]

theorem granted_self (expected : Option Members) : granted expected expected = expected := by
  cases expected <;> simp [granted]

end Grants
end RoozDataCloud.CapabilityChecks
