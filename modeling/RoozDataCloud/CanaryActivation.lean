import RoozDataCloud.CapabilityChecks
import RoozDataCloud.EgressBindings

set_option autoImplicit false

/-!
# Activation of a claimed workload

What `claim_work` decides about a claim: whether the workload is admitted by the
sandbox policy and activated, and which capabilities its lease is issued with.
-/
namespace RoozDataCloud.CanaryActivation
open KeyedTable ExecutionModels JsonDocuments SandboxSettings WorkerCapabilities CapabilityChecks
open EgressBindings FallibleSteps
open Datasets (Json)

/-- The capabilities that a manifest declares, for a kind of work. -/
structure Features where
  workKind : WorkKind
  network : String
  browser : Bool
  dataset : Bool
  keyValueStore : Bool
  requestQueue : Bool

namespace Features

def started (f : Features) : Bool := decide (f.workKind = .runStart)

def webEgress (f : Features) : Bool := decide (f.network = "web-egress")

def kvRuntime (f : Features) : Bool := f.keyValueStore && f.started

def queueRuntime (f : Features) : Bool := f.requestQueue && f.started

def queueDataset (f : Features) : Bool := f.queueRuntime && f.dataset

def queueKv (f : Features) : Bool := f.queueRuntime && f.kvRuntime

def queueBrowser (f : Features) : Bool := f.queueRuntime && f.webEgress && f.browser

def queueHttp (f : Features) : Bool := f.queueRuntime && f.webEgress && !f.browser

end Features

def declaredFeatures (workKind : WorkKind) (capabilities : Members) : Option Features := do
  let network ← (text? (member capabilities "network")).filter (· ∈ networks)
  let browser ← bool? (member capabilities "browser")
  let dataset ← bool? (member capabilities "dataset")
  let keyValueStore ← bool? (member capabilities "keyValueStore")
  let requestQueue ← bool? (member capabilities "requestQueue")
  pure ⟨workKind, network, browser, dataset, keyValueStore, requestQueue⟩

/-- What is found of a claim before its policy or its activation is made. A bound policy is one for
web egress. -/
structure Admission where
  features : Features
  resources : Members
  bound : Option (Members × String)
  bound_webEgress : bound.isSome = true → features.webEgress = true

section Admission
variable {e : Encoding} (settings : Settings e)

def effectivePolicy (bound : Option (Members × String)) : Members :=
  bound.elim (egressPolicyPayload settings) Prod.fst

def egressDigest (f : Features) (bound : Option (Members × String)) : Option String :=
  if f.webEgress then some (e.canonicalFingerprint (.object (effectivePolicy settings bound)))
  else none

def browserDigest : String := e.canonicalFingerprint (.object (browserPolicyPayload settings))

def browserEgressDigest (bound : Option (Members × String)) : String :=
  e.canonicalFingerprint (.object (browserEgressPolicyPayload (effectivePolicy settings bound)))

/-- What the capability is tried with before there is an activation. -/
def trialGrant (f : Features) (bound : Option (Members × String)) : QueueGrant where
  requestQueueEnabled := true
  httpEnabled := f.queueHttp
  egressPolicyDigest := if f.queueHttp then egressDigest settings f bound else none
  browserEnabled := f.queueBrowser
  browserPolicyDigest := if f.browser then some (browserDigest settings) else none
  browserEgressPolicyDigest :=
    if f.queueBrowser then some (browserEgressDigest settings bound) else none
  datasetEnabled := f.queueDataset
  keyValueStoreEnabled := f.queueKv
  projectBindingDigest := bound.map Prod.snd

def queueAdmitted (worker : SandboxWorker) (payload : ClaimPayload) (f : Features)
    (bound : Option (Members × String)) : Bool :=
  !f.queueRuntime || settings.requestQueueEnabled &&
    (!f.queueKv || settings.keyValueStoreEnabled && settings.requestQueueKeyValueStoreEnabled) &&
    (!f.queueDataset || settings.datasetWritesEnabled && settings.requestQueueDatasetEnabled) &&
    (!f.queueHttp || settings.requestQueueHttpEnabled) &&
    (!f.queueBrowser || settings.requestQueueBrowserEnabled) &&
    (requestQueueCapability settings worker payload (trialGrant settings f bound)).isSome

def datasetAdmitted (worker : SandboxWorker) (f : Features) : Bool :=
  !f.dataset || f.started && (!f.browser || f.queueDataset) && settings.datasetWritesEnabled &&
    decide (WorkerCapability.datasetAppend ∈ worker.capabilities)

def keyValueStoreAdmitted (worker : SandboxWorker) (payload : ClaimPayload) (f : Features) : Bool :=
  !f.kvRuntime || (keyValueStoreCapability settings worker payload true f.queueKv).isSome

/-- The checks that `_sandbox_claim_policy` and `_canary_activation` have in common. -/
def admitted (worker : SandboxWorker) (payload : ClaimPayload) : Option Admission := do
  let capabilities ← object? (member payload.manifest "capabilities")
  let resources ← object? (member payload.manifest "resources")
  let f ← declaredFeatures payload.workKind capabilities
  guard (f.webEgress = true → settings.webEgressEnabled = true)
  let bound ← (boundEgressPolicy settings payload.input).toOption
  guard ¬ (f.started = true ∧ f.dataset = true ∧ f.kvRuntime = true)
  guard ¬ (f.started = true ∧ f.browser = true ∧ f.kvRuntime = true ∧ f.queueKv = false)
  guard (queueAdmitted settings worker payload f bound = true)
  guard (datasetAdmitted settings worker f = true)
  guard (keyValueStoreAdmitted settings worker payload f = true)
  if h : bound.isSome = true → f.webEgress = true then some ⟨f, resources, bound, h⟩ else none

theorem declaredFeatures_iff {workKind : WorkKind} {capabilities : Members} {f : Features} :
    declaredFeatures workKind capabilities = some f ↔
      f.workKind = workKind ∧ member capabilities "network" = .text f.network ∧ f.network ∈ networks ∧
        member capabilities "browser" = .bool f.browser ∧
        member capabilities "dataset" = .bool f.dataset ∧
        member capabilities "keyValueStore" = .bool f.keyValueStore ∧
        member capabilities "requestQueue" = .bool f.requestQueue := by
  simp only [declaredFeatures, bind_some, pure_some, Option.filter_eq_some_iff, text?_eq, bool?_eq,
    decide_eq_true_eq]
  constructor
  · rintro ⟨network, ⟨hnetwork, hknown⟩, browser, hbrowser, dataset, hdataset, store, hstore, queue,
      hqueue, rfl⟩
    exact ⟨rfl, hnetwork, hknown, hbrowser, hdataset, hstore, hqueue⟩
  · rintro ⟨rfl, hnetwork, hknown, hbrowser, hdataset, hstore, hqueue⟩
    exact ⟨_, ⟨hnetwork, hknown⟩, _, hbrowser, _, hdataset, _, hstore, _, hqueue, rfl⟩

theorem queueAdmitted_gates {settings : Settings e} {worker : SandboxWorker} {payload : ClaimPayload}
    {f : Features} {bound : Option (Members × String)}
    (h : queueAdmitted settings worker payload f bound = true) (hqueue : f.queueRuntime = true) :
    settings.requestQueueEnabled = true ∧
    (f.queueKv = true → settings.requestQueueKeyValueStoreEnabled = true) ∧
    (f.queueDataset = true → settings.requestQueueDatasetEnabled = true) ∧
    ∃ capability, requestQueueCapability settings worker payload (trialGrant settings f bound) =
      some capability := by
  simp only [queueAdmitted, hqueue, Bool.not_true, Bool.false_or, Bool.and_eq_true,
    Bool.or_eq_true, Bool.not_eq_true', Option.isSome_iff_exists] at h
  obtain ⟨⟨⟨⟨⟨hgate, hstore⟩, hdataset⟩, -⟩, -⟩, hcapability⟩ := h
  exact ⟨hgate, fun hk => (hstore.resolve_left (by simp [hk])).2,
    fun hd => (hdataset.resolve_left (by simp [hd])).2, hcapability⟩

/-- The checks of `admitted`, one by one. -/
structure Admits (worker : SandboxWorker) (payload : ClaimPayload) (capabilities : Members)
    (a : Admission) : Prop where
  capabilities_eq : member payload.manifest "capabilities" = .object capabilities
  resources_eq : member payload.manifest "resources" = .object a.resources
  declared : declaredFeatures payload.workKind capabilities = some a.features
  webEgress : a.features.webEgress = true → settings.webEgressEnabled = true
  bound_eq : boundEgressPolicy settings payload.input = .ok a.bound
  dataset_alone : ¬ (a.features.started = true ∧ a.features.dataset = true ∧
    a.features.kvRuntime = true)
  browser_queued : ¬ (a.features.started = true ∧ a.features.browser = true ∧
    a.features.kvRuntime = true ∧ a.features.queueKv = false)
  queue : queueAdmitted settings worker payload a.features a.bound = true
  dataset : datasetAdmitted settings worker a.features = true
  keyValueStore : keyValueStoreAdmitted settings worker payload a.features = true

theorem admitted_iff {worker : SandboxWorker} {payload : ClaimPayload} {a : Admission} :
    admitted settings worker payload = some a ↔
      ∃ capabilities, Admits settings worker payload capabilities a := by
  simp only [admitted, bind_some, guard_some, object?_eq, toOption_some]
  constructor
  · rintro ⟨capabilities, hcapabilities, resources, hresources, f, hf, -, hweb, bound, hbound, -, hdata,
      -, hbrowser, -, hqueue, -, hdataset, -, hstore, h⟩
    split at h
    · obtain rfl := Option.some.inj h
      exact ⟨capabilities, hcapabilities, hresources, hf, hweb, hbound, hdata, hbrowser, hqueue,
        hdataset, hstore⟩
    · cases h
  · rintro ⟨capabilities, h⟩
    refine ⟨capabilities, h.capabilities_eq, a.resources, h.resources_eq, a.features, h.declared, (),
      h.webEgress, a.bound, h.bound_eq, (), h.dataset_alone, (), h.browser_queued, (), h.queue, (),
      h.dataset, (), h.keyValueStore, ?_⟩
    rw [dif_pos a.bound_webEgress]

theorem Admits.workKind {settings : Settings e} {worker : SandboxWorker} {payload : ClaimPayload}
    {capabilities : Members} {a : Admission} (h : Admits settings worker payload capabilities a) :
    a.features.workKind = payload.workKind :=
  (declaredFeatures_iff.1 h.declared).1

def navigationReceipt (navigation : Json) (policyDigest egressDigest : String) (enabled : Bool) :
    Json :=
  .object [("schema_version", .text "rdc.browser-navigation-receipt/v1"),
    ("request_schema_version", .text "rdc.browser/v2"),
    ("request_digest", .text (e.canonicalFingerprint navigation)),
    ("browser_policy_digest", .text policyDigest),
    ("browser_egress_policy_digest", .text egressDigest), ("execution_enabled", .bool enabled),
    ("dispatch_enabled", .bool enabled), ("browser_network", .text "none"),
    ("browser_egress_gateway_required", .bool true)]

/-- `_browser_navigation_canary_receipt_allowed` -/
def navigationAllowed (input : Members) (bound : Option (Members × String)) : Bool :=
  settings.browserLiveNavigationEnabled &&
  match object? (member input "browser_navigation"), object? (member input "browser_navigation_receipt"),
    object? (member input "browser_policy"), object? (member input "browser_egress_policy") with
  | some navigation, some receipt, some policy, some egress =>
    same (.object policy) (.object (browserPolicyPayload settings)) &&
    decide (member input "browser_policy_digest" = .text (browserDigest settings)) &&
    same (.object egress) (.object (browserEgressPolicyPayload (effectivePolicy settings bound))) &&
    decide (member input "browser_egress_policy_digest" =
      .text (browserEgressDigest settings bound)) &&
    same (.object receipt) (navigationReceipt (e := e) (.object navigation) (browserDigest settings)
      (browserEgressDigest settings bound) true)
  | _, _, _, _ => false

/-- What a browser needs before the form of its plan is looked at. -/
def browserStartable (f : Features) : Bool := f.started && f.webEgress && settings.browserEnabled

/-- A plan and a policy are there; `_sandbox_claim_policy` asks for no more. -/
def browserPlanned (input : Members) : Bool :=
  (object? (member input "browser")).isSome && (object? (member input "browser_policy")).isSome &&
    (text? (member input "browser_policy_digest")).isSome

/-- `_canary_activation` compares the policy with the present one as well. -/
def browserPlanCurrent (input : Members) : Bool :=
  browserPlanned input && decide (e.canonicalFingerprint (member input "browser_policy") =
    browserDigest settings) &&
    decide (member input "browser_policy_digest" = .text (browserDigest settings))

def browserAdmitted (payload : ClaimPayload) (a : Admission) (planned : Members → Bool) : Bool :=
  !a.features.browser || browserStartable settings a.features &&
    payload.inputReference.any (fun input =>
      a.features.queueBrowser ||
        if (input.lookup "browser_navigation").isSome then navigationAllowed settings input a.bound
        else planned input)

end Admission

/-- `int` raises where a resource is no number. -/
structure Resources where
  memoryMb : ℤ
  cpuMillis : ℤ
  pids : ℤ
  diskMb : ℤ
  timeoutSeconds : ℤ

section Policy
variable {e : Encoding} (settings : Settings e)

def resource (resources : Members) (key : String) (standard : Option ℤ) : Option ℤ :=
  match resources.lookup key with
  | some value => e.intOf value
  | none => standard

def requestedResources (resources : Members) (memoryMb cpuMillis pids diskMb timeoutSeconds :
    Option ℤ) : Option Resources := do
  let memoryMb ← resource (e := e) resources "memoryMb" memoryMb
  let cpuMillis ← resource (e := e) resources "cpuUnits" cpuMillis
  let pids ← resource (e := e) resources "maxProcesses" pids
  let diskMb ← resource (e := e) resources "ephemeralDiskMb" diskMb
  let timeoutSeconds ← resource (e := e) resources "timeoutSeconds" timeoutSeconds
  pure ⟨memoryMb, cpuMillis, pids, diskMb, timeoutSeconds⟩

def Resources.within (r : Resources) (limits : ResourceLimits) : Prop :=
  r.memoryMb ≤ limits.memoryMb ∧ r.cpuMillis ≤ limits.cpuMillis ∧ r.pids ≤ limits.pids ∧
    r.diskMb ≤ limits.ephemeralDiskMb

instance decidableResourcesWithin (r : Resources) (limits : ResourceLimits) :
    Decidable (r.within limits) := inferInstanceAs (Decidable (_ ∧ _ ∧ _ ∧ _))

def timeoutCeiling (limits : ResourceLimits) : WorkKind → ℤ
  | .build => limits.buildSeconds
  | _ => limits.runSeconds

def policyMembers (attestation : String) (f : Features) (r : Resources) : Members :=
  [("schema_version", .text settings.sandboxRequiredProfile),
    ("attestation_digest", .text attestation), ("runtime", .text "containerd-rootless"),
    ("builder", .text "buildkit-rootless"), ("network_policy", .text "deny-all"),
    ("brokered_web_egress", .bool f.webEgress), ("rootless", .bool true),
    ("no_host_docker_socket", .bool true), ("no_new_privileges", .bool true),
    ("read_only_rootfs", .bool true), ("drop_all_capabilities", .bool true),
    ("seccomp_profile", .text "rdc-default"), ("memory_mb", .int r.memoryMb),
    ("cpu_millis", .int r.cpuMillis), ("pids", .int r.pids), ("ephemeral_disk_mb", .int r.diskMb),
    ("timeout_seconds", .int (min r.timeoutSeconds (timeoutCeiling settings.sandboxMax f.workKind))),
    ("max_output_bytes", .int settings.sandboxMaxOutputBytes)]

/-- What is asked for, with the ceilings where nothing is. -/
def sandboxResources (resources : Members) : Option Resources :=
  requestedResources (e := e) resources (some settings.sandboxMax.memoryMb)
    (some settings.sandboxMax.cpuMillis) (some settings.sandboxMax.pids)
    (some settings.sandboxMax.ephemeralDiskMb) (some settings.sandboxMax.runSeconds)

def resourceNotANumber : Failure := .value "invalid literal for int()"

def sandboxClaimPolicy (worker : SandboxWorker) (payload : ClaimPayload) :
    Except Failure (Option Members) :=
  match worker.sandboxAttestationDigest, admitted settings worker payload with
  | some attestation, some a =>
    if settings.sandboxExecutionEnabled && worker.sandboxExecutionEnabled &&
        browserAdmitted settings payload a browserPlanned then do
      let r ← demand (sandboxResources settings a.resources) resourceNotANumber
      pure (if r.within settings.sandboxMax ∧
          (a.features.started = true → payload.artifact.isSome = true) then
        some (policyMembers settings attestation a.features r) else none)
    else pure none
  | _, _ => pure none

/-- Every resource has to be there. -/
def canaryResources (resources : Members) : Option Resources :=
  requestedResources (e := e) resources none none none none none

def constraints (f : Features) : Members :=
  [("memory_mb", .int settings.canaryMax.memoryMb), ("cpu_millis", .int settings.canaryMax.cpuMillis),
    ("pids", .int settings.canaryMax.pids),
    ("ephemeral_disk_mb", .int settings.canaryMax.ephemeralDiskMb),
    ("build_timeout_seconds", .int settings.canaryMax.buildSeconds),
    ("run_timeout_seconds", .int settings.canaryMax.runSeconds),
    ("network", .text (if f.webEgress then "brokered-web-egress" else "none")),
    ("browser", .bool f.browser), ("dataset", .bool f.dataset),
    ("key_value_store", .bool f.kvRuntime), ("request_queue", .bool f.queueRuntime),
    ("request_queue_http", .bool f.queueHttp), ("request_queue_browser", .bool f.queueBrowser),
    ("request_queue_dataset", .bool f.queueDataset),
    ("request_queue_key_value_store", .bool f.queueKv), ("secrets", .bool false),
    ("max_concurrency", .int 1)]

end Policy

section Activation
variable {e : Encoding} (settings : Settings e)

theorem browserAdmitted_webEgress {settings : Settings e} {payload : ClaimPayload} {a : Admission}
    {planned : Members → Bool} (h : browserAdmitted settings payload a planned = true)
    (hbrowser : a.features.browser = true) : a.features.webEgress = true := by
  simp only [browserAdmitted, hbrowser, Bool.not_true, Bool.false_or, Bool.and_eq_true,
    browserStartable] at h
  exact h.1.1.2

def profileOf (f : Features) : CapabilityProfile :=
  if f.browser then .controlledBrowser
  else if f.webEgress then .brokeredWebEgress else .offlineMinimal

/-- The activation of an admitted claim. A browser comes with web egress. -/
def activationOf (policy : Members) (a : Admission)
    (hbrowser : a.features.browser = true → a.features.webEgress = true) : SandboxActivation where
  agentVersionId := e.parseUuid settings.canaryAgentVersionId
  workerName := settings.canaryWorkerName
  attestationDigest := e.str (member policy "attestation_digest")
  sandboxPolicyDigest := e.canonicalFingerprint (.object policy)
  constraintsDigest := e.canonicalFingerprint (.object (constraints settings a.features))
  capabilityProfile := profileOf a.features
  egressPolicyDigest := egressDigest settings a.features a.bound
  projectEgressPolicyBindingDigest := a.bound.map Prod.snd
  browserPolicyDigest := if a.features.browser then some (browserDigest settings) else none
  datasetWriteEnabled := a.features.dataset
  keyValueStoreEnabled := a.features.kvRuntime
  requestQueueEnabled := a.features.queueRuntime
  requestQueueHttpEnabled := a.features.queueHttp
  requestQueueBrowserEnabled := a.features.queueBrowser
  requestQueueDatasetEnabled := a.features.queueDataset
  requestQueueKeyValueStoreEnabled := a.features.queueKv
  egress_profile := by
    cases hb : a.features.browser <;> cases hw : a.features.webEgress <;>
      simp_all [profileOf, egressDigest]
  browser_profile := by
    cases hb : a.features.browser <;> cases hw : a.features.webEgress <;> simp_all [profileOf]
  project_egress := by
    intro h
    simp [egressDigest, a.bound_webEgress (by simpa using h)]
  http_profile := by
    cases hb : a.features.browser <;> cases hw : a.features.webEgress <;>
      simp_all [profileOf, Features.queueHttp]
  queue_browser_profile := by
    cases hb : a.features.browser <;> cases hw : a.features.webEgress <;>
      simp_all [profileOf, Features.queueBrowser]
  dataset_composition := rfl
  keyValueStore_composition := rfl

/-- The secrets of a manifest; a canary has none. -/
def withoutSecrets (manifest : Members) : Bool :=
  decide ((manifest.lookup "secrets").getD (.list []) = .list [])

/-- The canary, and the worker and the version that it is configured for. -/
def canaryConfigured (worker : SandboxWorker) (payload : ClaimPayload) : Bool :=
  settings.sandboxExecutionEnabled && decide (settings.sandboxActivationMode = .canary) &&
    decide (settings.canaryAgentVersionId ≠ "") && decide (settings.canaryWorkerName ≠ "") &&
    decide (worker.name = settings.canaryWorkerName) && decide (worker.maxConcurrency = 1) &&
    decide (payload.agentVersionId = settings.canaryAgentVersionId)

def withinCanary (payload : ClaimPayload) (a : Admission) : Bool :=
  (canaryResources (e := e) a.resources).any (fun r => decide (r.within settings.canaryMax) &&
    decide (r.timeoutSeconds ≤ timeoutCeiling settings.canaryMax payload.workKind))

def canaryActivation (worker : SandboxWorker) (payload : ClaimPayload) (policy : Option Members) :
    Option SandboxActivation :=
  match policy, admitted settings worker payload with
  | some policy, some a =>
    if h : browserAdmitted settings payload a (browserPlanCurrent settings) = true ∧
        canaryConfigured settings worker payload = true ∧ withoutSecrets payload.manifest = true ∧
        withinCanary settings payload a = true then
      some (activationOf settings policy a (browserAdmitted_webEgress h.1))
    else none
  | _, _ => none

theorem canaryActivation_some {worker : SandboxWorker} {payload : ClaimPayload}
    {policy : Option Members} {activation : SandboxActivation}
    (h : canaryActivation settings worker payload policy = some activation) :
    ∃ policy' a capabilities, policy = some policy' ∧ Admits settings worker payload capabilities a ∧
      canaryConfigured settings worker payload = true ∧ withoutSecrets payload.manifest = true ∧
      withinCanary settings payload a = true ∧
      ∃ hbrowser, activation = activationOf settings policy' a hbrowser := by
  unfold canaryActivation at h
  split at h
  · rename_i policy' a ha
    obtain ⟨capabilities, hadmits⟩ := (admitted_iff settings).1 ha
    split at h
    · rename_i hchecks
      obtain ⟨hbrowser, hconfigured, hsecrets, hwithin⟩ := hchecks
      exact ⟨policy', a, capabilities, rfl, hadmits, hconfigured, hsecrets, hwithin,
        browserAdmitted_webEgress hbrowser, (Option.some.inj h).symm⟩
    · cases h
  · cases h

/-- What `claim_work` tells `request_queue_capability` of the activation it has made. -/
def issuedGrant (payload : ClaimPayload) (activation : Option SandboxActivation) : QueueGrant where
  requestQueueEnabled := activation.any (·.requestQueueEnabled)
  httpEnabled := activation.any (·.requestQueueHttpEnabled)
  egressPolicyDigest := (activation.filter (·.requestQueueHttpEnabled)).bind (·.egressPolicyDigest)
  browserEnabled := activation.any (·.requestQueueBrowserEnabled)
  browserPolicyDigest := (activation.filter (·.requestQueueBrowserEnabled)).bind
    (·.browserPolicyDigest)
  browserEgressPolicyDigest := (activation.filter (·.requestQueueBrowserEnabled)).bind (fun _ =>
    text? (member payload.input "request_queue_browser_egress_policy_digest"))
  datasetEnabled := activation.any (·.requestQueueDatasetEnabled)
  keyValueStoreEnabled := activation.any (·.requestQueueKeyValueStoreEnabled)
  projectBindingDigest := activation.bind (·.projectEgressPolicyBindingDigest)

def issuedSnapshot (worker : SandboxWorker) (payload : ClaimPayload)
    (activation : Option SandboxActivation) : Snapshot where
  payload := payload
  activation := activation
  datasetAppendCapability := datasetAppendCapability settings worker payload
    (activation.any (·.datasetWriteEnabled)) (activation.any (·.requestQueueDatasetEnabled))
  keyValueStoreCapability := keyValueStoreCapability settings worker payload
    (activation.any (·.keyValueStoreEnabled)) (activation.any (·.requestQueueKeyValueStoreEnabled))
  requestQueueCapability :=
    requestQueueCapability settings worker payload (issuedGrant payload activation)

/-- The snapshot that `claim_work` stores with a lease. -/
def claimSnapshot (worker : SandboxWorker) (payload : ClaimPayload) : Except Failure Snapshot := do
  let policy ← sandboxClaimPolicy settings worker payload
  pure (issuedSnapshot settings worker payload (canaryActivation settings worker payload policy))

end Activation

/-- Both decisions of the claim are for the run. -/
def Executable {e : Encoding} (settings : Settings e) (worker : SandboxWorker)
    (payload : ClaimPayload) : Prop :=
  ∃ policy, sandboxClaimPolicy settings worker payload = .ok (some policy) ∧
    (canaryActivation settings worker payload (some policy)).isSome = true

end RoozDataCloud.CanaryActivation
