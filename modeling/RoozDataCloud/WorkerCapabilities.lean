import RoozDataCloud.SandboxSettings

set_option autoImplicit false

/-!
# The capabilities of a lease

What a worker may do with the queue, the store and the dataset of the run it holds.
A capability is a document; it is computed from the settings, the worker and the
payload of the claim when the lease is issued, and again whenever it is used.
-/
namespace RoozDataCloud.WorkerCapabilities
open ExecutionModels JsonDocuments SandboxSettings FallibleSteps
open Datasets (Json)
open KeyValueProtocol (logicalKeyValid)

structure SandboxWorker extends WorkerIdentity where
  name : String
  sandboxExecutionEnabled : Bool
  sandboxAttestationDigest : Option String

/-- The payload of a claim, as far as it is read. A build has no run and no input. -/
structure ClaimPayload where
  workKind : WorkKind
  agentVersionId : String
  runId : Option String
  manifest : Members
  inputReference : Option Members
  artifact : Option Json

/-- `payload.get("input_reference")` where it is no dict -/
def ClaimPayload.input (payload : ClaimPayload) : Members := payload.inputReference.getD []

structure ValidatedKVReadRequest where
  keys : List String
  requestDigest : String

def readSchemaVersion : String := "rdc.kv-worker-read/v1"

section ReadRequests
variable (e : Encoding)

def readKey (value : Json) : Except String String :=
  demand ((text? value).filter logicalKeyValid) "KV read logical key is invalid."

/-- The message of a `KVWorkerProtocolError` stands for it. -/
def validateKvReadRequest : Json → Except String ValidatedKVReadRequest
  | .object members => do
    require (hasExactly members ["schema_version", "keys"] = true)
      "KV read request fields are invalid."
    require (text? (member members "schema_version") = some readSchemaVersion)
      "KV read schema version is unsupported."
    let raw ← demand ((list? (member members "keys")).filter (fun items =>
      1 ≤ items.length && items.length ≤ 16)) "KV read key count is invalid."
    let keys ← raw.mapM readKey
    require keys.Nodup "KV read logical keys must be unique."
    let encoded ← demand (e.canonicalJsonBytes (.object [("schema_version", .text readSchemaVersion),
      ("keys", texts keys)])) "KV worker request cannot be canonically JSON encoded."
    require (encoded.length ≤ 4096) "KV read request is too large."
    pure ⟨keys, e.sha256 encoded⟩
  | _ => .error "KV read request must be an object."

/-- The digest of the read that the input of a run asks for, if it asks for one. -/
def readRequestDigest (value : Json) : Except String (Option String) :=
  match (object? value).elim .null (member · "_rdc_kv_read") with
  | .null => pure none
  | request => do
    let validated ← validateKvReadRequest e request
    pure (some validated.requestDigest)

end ReadRequests

def optionalText (value : Option String) : Json := value.elim .null .text

section Receipts
variable (e : Encoding) (queueId : Uuid) (agentVersionId : String)

def normalizedBinding : Json :=
  .object [("schema_version", .text "rdc.run-queue/v1"), ("queue_id", .text (e.uuidText queueId))]

/-- The receipts of the three ways to acquire a page differ in the middle. -/
def bindingReceipt (schemaVersion : String) (acquisition : Members) : Json :=
  let start : Members := [("schema_version", .text schemaVersion),
    ("binding_digest", .text (e.canonicalFingerprint (normalizedBinding e queueId))),
    ("queue_id", .text (e.uuidText queueId)), ("agent_version_id", .text agentVersionId)]
  let access : Members := [("direct_database_access", .bool false),
    ("direct_object_storage_access", .bool false)]
  .object (start ++ acquisition ++ access)

def browserBindingReceipt (policyDigest egressDigest : String) (dispatch : Bool) : Json :=
  bindingReceipt e queueId agentVersionId "rdc.request-queue-binding-receipt/v3"
    [("acquisition_mode", .text "controlled-browser"), ("browser_policy_digest", .text policyDigest),
      ("browser_egress_policy_digest", .text egressDigest), ("dispatch_enabled", .bool dispatch),
      ("agent_container_network", .text "none")]

def httpBindingReceipt (egressDigest : String) (dispatch : Bool) : Json :=
  bindingReceipt e queueId agentVersionId "rdc.request-queue-binding-receipt/v2"
    [("acquisition_mode", .text "brokered-http"), ("egress_policy_digest", .text egressDigest),
      ("dispatch_enabled", .bool dispatch), ("agent_container_network", .text "none")]

def offlineBindingReceipt : Json :=
  bindingReceipt e queueId agentVersionId "rdc.request-queue-binding-receipt/v1" []

/-- What a queue is combined with, told by the receipt of its binding. -/
def compositionReceipt (schemaVersion : String) (receipt : Json) (target : Members)
    (dispatch : Bool) (order : String) : Json :=
  let start : Members := [("schema_version", .text schemaVersion),
    ("queue_id", .text (e.uuidText queueId)), ("agent_version_id", .text agentVersionId),
    ("queue_binding_receipt_digest", .text (e.canonicalFingerprint receipt))]
  let access : Members := [("dispatch_enabled", .bool dispatch), ("completion_order", .text order),
    ("agent_container_network", .text "none"), ("direct_database_access", .bool false),
    ("direct_object_storage_access", .bool false)]
  .object (start ++ target ++ access)

def datasetReceipt (receipt : Json) (dispatch : Bool) : Json :=
  compositionReceipt e queueId agentVersionId "rdc.request-queue-dataset-receipt/v1" receipt
    [("dataset_name", .text "default")] dispatch "dataset-before-queue-handled"

def keyValueStoreReceipt (receipt : Json) (readDigest : Option String) (dispatch : Bool) : Json :=
  compositionReceipt e queueId agentVersionId "rdc.request-queue-key-value-store-receipt/v1" receipt
    [("store_name", .text "default"), ("read_request_digest", optionalText readDigest),
      ("mutation_idempotency_scope", .text "queue-request-index")] dispatch "kv-before-queue-handled"

end Receipts

section Queue
variable {e : Encoding} (settings : Settings e)

/-- A run of the canary version that the canary worker holds, if it can do what is asked. -/
def canaryRun (worker : SandboxWorker) (payload : ClaimPayload) (capability : WorkerCapability) :
    Bool :=
  decide (payload.workKind = .runStart) && decide (worker.name = settings.canaryWorkerName) &&
    decide (capability ∈ worker.capabilities) &&
    decide (payload.agentVersionId = settings.canaryAgentVersionId)

/-- What `request_queue_capability` is told about the activation. -/
structure QueueGrant where
  requestQueueEnabled : Bool
  httpEnabled : Bool
  egressPolicyDigest : Option String
  browserEnabled : Bool
  browserPolicyDigest : Option String
  browserEgressPolicyDigest : Option String
  datasetEnabled : Bool
  keyValueStoreEnabled : Bool
  projectBindingDigest : Option String
  deriving DecidableEq

inductive Acquisition where
  | controlledBrowser | brokeredHttp | offline
  deriving DecidableEq

structure QueueManifest where
  acquisition : Acquisition
  dataset : Bool
  keyValueStore : Bool

def networks : List String := ["none", "web-egress"]

def acquisitionOf (network : String) (browser : Bool) : Acquisition :=
  if network = "web-egress" then (if browser then .controlledBrowser else .brokeredHttp) else .offline

/-- The manifest's capabilities for a queue. A network that has no hash raises in the source; it is
refused. -/
def declaredQueue (capabilities : Members) : Option QueueManifest := do
  guard (bool? (member capabilities "requestQueue") = some true)
  let network ← (text? (member capabilities "network")).filter (· ∈ networks)
  let browser ← bool? (member capabilities "browser")
  let dataset ← bool? (member capabilities "dataset")
  let keyValueStore ← bool? (member capabilities "keyValueStore")
  guard (browser = true → network = "web-egress")
  guard ¬ (dataset = true ∧ keyValueStore = true)
  pure ⟨acquisitionOf network browser, dataset, keyValueStore⟩

def queueManifest (grant : QueueGrant) (capabilities : Members) : Option QueueManifest :=
  (declaredQueue capabilities).filter (fun manifest =>
    manifest.keyValueStore = grant.keyValueStoreEnabled)

def boundQueue (input : Members) : Option Uuid := do
  let binding ← object? (member input "request_queue")
  guard (hasExactly binding ["schema_version", "queue_id"] = true)
  guard (text? (member binding "schema_version") = some "rdc.run-queue/v1")
  e.parseUuid (e.str (member binding "queue_id"))

def projectReceiptMatches (grant : QueueGrant) (input : Members) (acquisition : Acquisition) : Bool :=
  match grant.projectBindingDigest with
  | some digest =>
    (object? (member input "project_egress_policy_receipt")).any (fun receipt =>
      same (member receipt "binding_digest") (.text digest)) && decide (acquisition ≠ .offline)
  | none => decide (member input "project_egress_policy_receipt" = .null)

/-- A policy of the input with the digest it is stored with. -/
def storedPolicy (input : Members) (name : String) : Option (Members × String) := do
  let policy ← object? (member input name)
  let digest ← text? (member input (name ++ "_digest"))
  guard (e.canonicalFingerprint (.object policy) = digest)
  pure (policy, digest)

def expectedBindingReceipt (grant : QueueGrant) (payload : ClaimPayload) (input : Members)
    (queueId : Uuid) : Acquisition → Option Json
  | .controlledBrowser => do
    guard (grant.httpEnabled = false ∧ grant.egressPolicyDigest = none ∧ grant.browserEnabled = true ∧
      settings.requestQueueBrowserEnabled = true ∧ settings.browserEnabled = true ∧
      settings.browserLiveNavigationEnabled = true ∧ settings.webEgressEnabled = true)
    let (_, policyDigest) ← storedPolicy (e := e) input "request_queue_browser_policy"
    let (_, egressDigest) ← storedPolicy (e := e) input "request_queue_browser_egress_policy"
    guard (grant.browserPolicyDigest = some policyDigest)
    guard (grant.browserEgressPolicyDigest = some egressDigest)
    pure (browserBindingReceipt e queueId payload.agentVersionId policyDigest egressDigest true)
  | .brokeredHttp => do
    guard (grant.browserEnabled = false ∧ grant.browserPolicyDigest = none ∧
      grant.browserEgressPolicyDigest = none ∧ grant.httpEnabled = true ∧
      settings.requestQueueHttpEnabled = true ∧ settings.webEgressEnabled = true)
    let (_, digest) ← storedPolicy (e := e) input "request_queue_egress_policy"
    guard (grant.egressPolicyDigest = some digest)
    pure (httpBindingReceipt e queueId payload.agentVersionId digest true)
  | .offline => do
    guard (grant.httpEnabled = false ∧ grant.egressPolicyDigest = none ∧ grant.browserEnabled = false ∧
      grant.browserPolicyDigest = none ∧ grant.browserEgressPolicyDigest = none)
    pure (offlineBindingReceipt e queueId payload.agentVersionId)

/-- The receipt of the combination with a dataset, or that there is none. -/
def datasetComposed (grant : QueueGrant) (payload : ClaimPayload) (input : Members) (queueId : Uuid)
    (receipt : Json) (dataset : Bool) : Bool :=
  if dataset then
    grant.datasetEnabled && settings.requestQueueDatasetEnabled && settings.datasetWritesEnabled &&
      same (member input "request_queue_dataset_receipt")
        (datasetReceipt e queueId payload.agentVersionId receipt true)
  else !grant.datasetEnabled && decide (member input "request_queue_dataset_receipt" = .null)

def keyValueStoreComposed (grant : QueueGrant) (payload : ClaimPayload) (input : Members)
    (queueId : Uuid) (receipt : Json) (keyValueStore : Bool) : Bool :=
  if keyValueStore then
    match readRequestDigest e (member input "value") with
    | .error _ => false
    | .ok readDigest =>
      grant.keyValueStoreEnabled && settings.requestQueueKeyValueStoreEnabled &&
        settings.keyValueStoreEnabled && same (member input "request_queue_key_value_store_receipt")
          (keyValueStoreReceipt e queueId payload.agentVersionId receipt readDigest true)
  else !grant.keyValueStoreEnabled &&
    decide (member input "request_queue_key_value_store_receipt" = .null)

def queueSchemaVersion (grant : QueueGrant) (manifest : QueueManifest) : String :=
  if grant.projectBindingDigest.isSome then "rdc.request-queue-worker-capability/v6"
  else if manifest.keyValueStore then "rdc.request-queue-worker-capability/v5"
  else if manifest.dataset then "rdc.request-queue-worker-capability/v4"
  else match manifest.acquisition with
    | .controlledBrowser => "rdc.request-queue-worker-capability/v3"
    | .brokeredHttp => "rdc.request-queue-worker-capability/v2"
    | .offline => "rdc.request-queue-worker-capability/v1"

def acquisitionMembers (grant : QueueGrant) : Acquisition → Members
  | .controlledBrowser => [("acquisition_mode", .text "controlled-browser"),
      ("browser_policy_digest", optionalText grant.browserPolicyDigest),
      ("browser_egress_policy_digest", optionalText grant.browserEgressPolicyDigest),
      ("agent_container_network", .text "none")]
  | .brokeredHttp => [("acquisition_mode", .text "brokered-http"),
      ("egress_policy_digest", optionalText grant.egressPolicyDigest),
      ("agent_container_network", .text "none")]
  | .offline => []

def queueMembers (grant : QueueGrant) (worker : SandboxWorker) (payload : ClaimPayload)
    (queueId : Uuid) (manifest : QueueManifest) : Members :=
  [("schema_version", .text (queueSchemaVersion grant manifest)),
    ("queue_id", .text (e.uuidText queueId)), ("run_id", .text (payload.runId.getD "")),
    ("agent_version_id", .text payload.agentVersionId), ("worker_name", .text worker.name),
    ("max_claims_per_run", .int 1), ("claim_completion_required", .bool true),
    ("direct_database_access", .bool false), ("direct_object_storage_access", .bool false),
    ("enabled", .bool true)]

def projectMembers : Option String → Members
  | some digest => [("project_egress_policy_binding_digest", .text digest)]
  | none => []

def queueDatasetMembers : Bool → Members
  | true => [("dataset_write_enabled", .bool true), ("dataset_name", .text "default"),
      ("completion_order", .text "dataset-before-queue-handled")]
  | false => []

def queueKeyValueStoreMembers : Bool → Members
  | true => [("key_value_store_enabled", .bool true), ("store_name", .text "default"),
      ("mutation_idempotency_scope", .text "queue-request-index"),
      ("completion_order", .text "kv-before-queue-handled")]
  | false => []

def queueCapabilityMembers (grant : QueueGrant) (worker : SandboxWorker) (payload : ClaimPayload)
    (queueId : Uuid) (manifest : QueueManifest) : Members :=
  queueMembers (e := e) grant worker payload queueId manifest ++
    projectMembers grant.projectBindingDigest ++ acquisitionMembers grant manifest.acquisition ++
    queueDatasetMembers manifest.dataset ++ queueKeyValueStoreMembers manifest.keyValueStore

def requestQueueCapability (worker : SandboxWorker) (payload : ClaimPayload) (grant : QueueGrant) :
    Option Members := do
  guard (grant.requestQueueEnabled = true ∧ settings.requestQueueEnabled = true ∧
    canaryRun settings worker payload .requestQueueAccess = true)
  let input ← payload.inputReference
  let capabilities ← object? (member payload.manifest "capabilities")
  let manifest ← queueManifest grant capabilities
  let receipt ← (object? (member input "queue_binding_receipt")).map Json.object
  guard (projectReceiptMatches grant input manifest.acquisition = true)
  let queueId ← boundQueue (e := e) input
  let expected ← expectedBindingReceipt settings grant payload input queueId manifest.acquisition
  guard (same receipt expected = true)
  guard (datasetComposed settings grant payload input queueId receipt manifest.dataset = true)
  guard (keyValueStoreComposed settings grant payload input queueId receipt
    manifest.keyValueStore = true)
  pure (queueCapabilityMembers (e := e) grant worker payload queueId manifest)

/-- The checks of `request_queue_capability`, one by one. -/
structure GrantsQueue (worker : SandboxWorker) (payload : ClaimPayload) (grant : QueueGrant)
    (input capabilities receipt : Members) (manifest : QueueManifest) (queueId : Uuid) : Prop where
  enabled : grant.requestQueueEnabled = true
  gate : settings.requestQueueEnabled = true
  canary : canaryRun settings worker payload .requestQueueAccess = true
  input_eq : payload.inputReference = some input
  capabilities_eq : member payload.manifest "capabilities" = .object capabilities
  declared : declaredQueue capabilities = some manifest
  composed : manifest.keyValueStore = grant.keyValueStoreEnabled
  receipt_eq : member input "queue_binding_receipt" = .object receipt
  project : projectReceiptMatches grant input manifest.acquisition = true
  binding : boundQueue (e := e) input = some queueId
  expected : ∃ expected, expectedBindingReceipt settings grant payload input queueId
    manifest.acquisition = some expected ∧ same (.object receipt) expected = true
  dataset : datasetComposed settings grant payload input queueId (.object receipt)
    manifest.dataset = true
  keyValueStore : keyValueStoreComposed settings grant payload input queueId (.object receipt)
    manifest.keyValueStore = true

theorem requestQueueCapability_iff {worker : SandboxWorker} {payload : ClaimPayload}
    {grant : QueueGrant} {capability : Members} :
    requestQueueCapability settings worker payload grant = some capability ↔
      ∃ input capabilities receipt manifest queueId,
        GrantsQueue settings worker payload grant input capabilities receipt manifest queueId ∧
        capability = queueCapabilityMembers (e := e) grant worker payload queueId manifest := by
  simp only [requestQueueCapability, bind_some, guard_some, pure_some, object?_eq, queueManifest,
    Option.filter_eq_some_iff, Option.map_eq_some_iff, decide_eq_true_eq]
  constructor
  · rintro ⟨-, ⟨henabled, hgate, hcanary⟩, input, hinput, capabilities, hcapabilities, manifest,
      ⟨hdeclared, hcomposed⟩, -, ⟨receipt, hreceipt, rfl⟩, -, hproject, queueId, hbinding, expected,
      hexpected, -, hsame, -, hdataset, -, hstore, rfl⟩
    exact ⟨input, capabilities, receipt, manifest, queueId, ⟨henabled, hgate, hcanary, hinput,
      hcapabilities, hdeclared, hcomposed, hreceipt, hproject, hbinding, ⟨expected, hexpected, hsame⟩,
      hdataset, hstore⟩, rfl⟩
  · rintro ⟨input, capabilities, receipt, manifest, queueId, h, rfl⟩
    obtain ⟨expected, hexpected, hsame⟩ := h.expected
    exact ⟨(), ⟨h.enabled, h.gate, h.canary⟩, input, h.input_eq, capabilities, h.capabilities_eq,
      manifest, ⟨h.declared, h.composed⟩, _, ⟨receipt, h.receipt_eq, rfl⟩, (), h.project, queueId,
      h.binding, expected, hexpected, (), hsame, (), h.dataset, (), h.keyValueStore, rfl⟩

theorem acquisitionOf_eq (network : String) (browser : Bool) :
    (acquisitionOf network browser = .controlledBrowser ↔ network = "web-egress" ∧ browser = true) ∧
    (acquisitionOf network browser = .brokeredHttp ↔ network = "web-egress" ∧ browser = false) ∧
    (acquisitionOf network browser = .offline ↔ network ≠ "web-egress") := by
  by_cases h : network = "web-egress" <;> cases browser <;> simp [acquisitionOf, h]

theorem declaredQueue_iff {capabilities : Members} {manifest : QueueManifest} :
    declaredQueue capabilities = some manifest ↔
      member capabilities "requestQueue" = .bool true ∧
      ∃ network browser, member capabilities "network" = .text network ∧ network ∈ networks ∧
        member capabilities "browser" = .bool browser ∧
        member capabilities "dataset" = .bool manifest.dataset ∧
        member capabilities "keyValueStore" = .bool manifest.keyValueStore ∧
        (browser = true → network = "web-egress") ∧
        ¬ (manifest.dataset = true ∧ manifest.keyValueStore = true) ∧
        manifest.acquisition = acquisitionOf network browser := by
  simp only [declaredQueue, bind_some, guard_some, pure_some, bool?_eq, Option.filter_eq_some_iff,
    text?_eq, decide_eq_true_eq]
  constructor
  · rintro ⟨-, hqueue, network, ⟨hnetwork, hknown⟩, browser, hbrowser, dataset, hdataset, store, hstore,
      -, hweb, -, halone, rfl⟩
    exact ⟨hqueue, network, browser, hnetwork, hknown, hbrowser, hdataset, hstore, hweb, halone, rfl⟩
  · rintro ⟨hqueue, network, browser, hnetwork, hknown, hbrowser, hdataset, hstore, hweb, halone, heq⟩
    refine ⟨(), hqueue, network, ⟨hnetwork, hknown⟩, browser, hbrowser, _, hdataset, _, hstore, (), hweb,
      (), halone, ?_⟩
    rw [← heq]

end Queue

section Stores
variable {e : Encoding} (settings : Settings e)

def nonEmpty (text : Option String) : Option String := text.filter (· ≠ "")

/-- A binding that is only asked for its version and its queue. -/
def boundQueueText (input : Members) : Option String := do
  let binding ← object? (member input "request_queue")
  guard (text? (member binding "schema_version") = some "rdc.run-queue/v1")
  text? (member binding "queue_id")

def keyValueStoreMembers (worker : SandboxWorker) (payload : ClaimPayload) (runId : String)
    (readDigest : Option String) (queued : Bool) : Members :=
  [("schema_version", .text (if queued then "rdc.kv-worker-capability/v2"
      else "rdc.kv-worker-capability/v1")),
    ("write_schema_version", .text "rdc.kv-write/v1"),
    ("read_schema_version", .text "rdc.kv-worker-read/v1"),
    ("output_schema_version", .text "rdc.kv-worker-output/v1"), ("run_id", .text runId),
    ("agent_version_id", .text payload.agentVersionId), ("worker_name", .text worker.name),
    ("store_name", .text "default"), ("read_request_digest", optionalText readDigest),
    ("max_read_keys", .int 16), ("max_read_total_bytes", .int 262144), ("max_mutations", .int 4),
    ("max_value_bytes", .int 1048576), ("post_run_mutations_only", .bool true),
    ("direct_database_access", .bool false), ("direct_object_storage_access", .bool false),
    ("enabled", .bool true)]

/-- The receipt here has the text of the queue as the binding has it. -/
def queuedStoreReceipt (payload : ClaimPayload) (queue : String) (receipt : Members)
    (readDigest : Option String) : Json :=
  .object [("schema_version", .text "rdc.request-queue-key-value-store-receipt/v1"),
    ("queue_id", .text queue), ("agent_version_id", .text payload.agentVersionId),
    ("queue_binding_receipt_digest", .text (e.canonicalFingerprint (.object receipt))),
    ("store_name", .text "default"), ("read_request_digest", optionalText readDigest),
    ("mutation_idempotency_scope", .text "queue-request-index"), ("dispatch_enabled", .bool true),
    ("completion_order", .text "kv-before-queue-handled"), ("agent_container_network", .text "none"),
    ("direct_database_access", .bool false), ("direct_object_storage_access", .bool false)]

def queuedStoreMembers (payload : ClaimPayload) (input : Members) (readDigest : Option String) :
    Bool → Option Members
  | true => do
    let queue ← boundQueueText input
    let receipt ← object? (member input "queue_binding_receipt")
    guard (same (member input "request_queue_key_value_store_receipt")
      (queuedStoreReceipt (e := e) payload queue receipt readDigest) = true)
    pure [("queue_id", .text queue), ("mutation_idempotency_scope", .text "queue-request-index"),
      ("completion_order", .text "kv-before-queue-handled")]
  | false => some []

def keyValueStoreManifest (capabilities : Members) (queued : Bool) : Bool :=
  decide (bool? (member capabilities "keyValueStore") = some true) &&
  decide (bool? (member capabilities "dataset") = some false) &&
  decide (bool? (member capabilities "requestQueue") = some queued) &&
  (bool? (member capabilities "browser")).any (fun browser => !browser || queued) &&
  (!queued || settings.requestQueueEnabled && settings.requestQueueKeyValueStoreEnabled)

def keyValueStoreCapability (worker : SandboxWorker) (payload : ClaimPayload)
    (keyValueStoreEnabled queued : Bool) : Option Members := do
  guard (keyValueStoreEnabled = true ∧ settings.keyValueStoreEnabled = true ∧
    canaryRun settings worker payload .kvAccess = true)
  let capabilities ← object? (member payload.manifest "capabilities")
  guard (keyValueStoreManifest settings capabilities queued = true)
  let runId ← nonEmpty payload.runId
  let input ← payload.inputReference
  let value ← object? (member input "value")
  guard (value.lookup "_rdc_kv" = none)
  let readDigest ← (readRequestDigest e (.object value)).toOption
  let queueMembers ← queuedStoreMembers (e := e) payload input readDigest queued
  pure (keyValueStoreMembers worker payload runId readDigest queued ++ queueMembers)

def datasetManifest (capabilities : Members) (queued : Bool) : Bool :=
  decide (bool? (member capabilities "dataset") = some true) &&
  decide (bool? (member capabilities "keyValueStore") = some false) &&
  decide (bool? (member capabilities "requestQueue") = some queued) &&
  (decide (bool? (member capabilities "browser") = some false) || queued) &&
  (!queued || settings.requestQueueDatasetEnabled)

def datasetMembers (worker : SandboxWorker) (payload : ClaimPayload) (runId : String)
    (queued : Bool) : Members :=
  [("schema_version", .text (if queued then "rdc.dataset-worker-capability/v2"
      else "rdc.dataset-worker-capability/v1")),
    ("append_schema_version", .text "rdc.dataset-append/v1"), ("run_id", .text runId),
    ("agent_version_id", .text payload.agentVersionId), ("worker_name", .text worker.name),
    ("dataset_name", .text "default"), ("max_items_per_append", .int 100),
    ("max_item_bytes", .int 65536), ("max_batch_bytes", .int 262144),
    ("max_dataset_items", .int 100000), ("max_dataset_bytes", .int 268435456),
    ("enabled", .bool true)]

def queuedDatasetMembers (input : Members) : Bool → Option Members
  | true => (boundQueueText input).map (fun queue => [("queue_id", .text queue),
      ("completion_order", .text "dataset-before-queue-handled")])
  | false => some []

def datasetAppendCapability (worker : SandboxWorker) (payload : ClaimPayload)
    (datasetWriteEnabled queued : Bool) : Option Members := do
  guard (datasetWriteEnabled = true ∧ settings.datasetWritesEnabled = true ∧
    canaryRun settings worker payload .datasetAppend = true)
  let capabilities ← object? (member payload.manifest "capabilities")
  guard (datasetManifest settings capabilities queued = true)
  let runId ← nonEmpty payload.runId
  let queueMembers ← queuedDatasetMembers payload.input queued
  pure (datasetMembers worker payload runId queued ++ queueMembers)

theorem keyValueStoreCapability_some {worker : SandboxWorker} {payload : ClaimPayload}
    {enabled queued : Bool} {capability : Members}
    (h : keyValueStoreCapability settings worker payload enabled queued = some capability) :
    enabled = true ∧ settings.keyValueStoreEnabled = true ∧
      canaryRun settings worker payload .kvAccess = true := by
  simp only [keyValueStoreCapability, bind_some, guard_some] at h
  exact h.choose_spec.1

theorem datasetAppendCapability_some {worker : SandboxWorker} {payload : ClaimPayload}
    {enabled queued : Bool} {capability : Members}
    (h : datasetAppendCapability settings worker payload enabled queued = some capability) :
    enabled = true ∧ settings.datasetWritesEnabled = true ∧
      canaryRun settings worker payload .datasetAppend = true := by
  simp only [datasetAppendCapability, bind_some, guard_some] at h
  exact h.choose_spec.1

theorem canaryRun_iff {worker : SandboxWorker} {payload : ClaimPayload}
    {capability : WorkerCapability} :
    canaryRun settings worker payload capability = true ↔ payload.workKind = .runStart ∧
      worker.name = settings.canaryWorkerName ∧ capability ∈ worker.capabilities ∧
      payload.agentVersionId = settings.canaryAgentVersionId := by
  simp only [canaryRun, Bool.and_eq_true, decide_eq_true_eq, and_assoc]

end Stores
end RoozDataCloud.WorkerCapabilities
