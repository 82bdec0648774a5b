import RoozDataCloud.CanaryActivation
import Mathlib.Tactic.FinCases

set_option autoImplicit false

/-!
# The intent of a run

What `create_run` makes of a request before it writes: the input reference with the
policies and receipts that it records, and whether the run is queued for dispatch or
only recorded as a draft.
-/
namespace RoozDataCloud.RunIntents
open KeyedTable ExecutionModels JsonDocuments SandboxSettings WorkerCapabilities CapabilityChecks
open EgressBindings CanaryActivation FallibleSteps
open Datasets (Json)

structure WebFetchRequest where
  id : String
  method : String
  url : String

structure SnapshotAction where
  id : String
  includeHtml : Bool

inductive NavigationStep where
  | goto (id url waitUntil : String)
  | waitForSelector (id selector state : String) (timeoutMs : ℤ)
  | extractText (id selector : String) (maxChars : ℤ)
  | extractHtml (id selector : String) (maxBytes : ℤ)
  | screenshot (id : String)

/-- The external surface that a run asks for; it has at most one. -/
inductive Surface where
  | absent
  | webFetch (requests : List WebFetchRequest)
  | browser (startUrl waitUntil : String) (actions : List SnapshotAction)
  | navigation (steps : List NavigationStep)
  | requestQueue (queueId : Uuid)

def reservedQueueKeys : List String :=
  ["_rdc_queue", "_rdc_queue_http", "_rdc_queue_browser", "_rdc_web_requests",
    "_rdc_web_fetch_result"]

structure RuntimeRequest where
  memoryMb : Option ℤ
  cpuMillis : Option ℤ
  timeoutSeconds : Option ℤ

structure CreateRunRequest where
  input : Members
  surface : Surface
  egressPolicy : Option Uuid
  runtime : RuntimeRequest
  policy_surface : egressPolicy.isSome = true → surface ≠ .absent
  reserved : ∀ queueId, surface = .requestQueue queueId →
    ∀ key ∈ reservedQueueKeys, input.lookup key = none

/-- A revision of an egress policy, as its service has validated and stored it. -/
structure PolicyRevision (e : Encoding) where
  id : Uuid
  policyId : Uuid
  revisionNumber : ℤ
  allowedHosts : List String
  allowedMethods : List String
  limits : EgressLimits
  policyDigest : String
  credentialConfigured : Bool
  numbered : 1 ≤ revisionNumber
  hosts_ascii : ∀ host ∈ allowedHosts, ∃ name, e.normalizeHostname name = some host
  hosts_sorted : sortedSet allowedHosts = allowedHosts
  methods_known : ∀ method ∈ allowedMethods, method ∈ ["GET", "HEAD"]
  methods_sorted : sortedSet allowedMethods = allowedMethods
  limits_least : 1 ≤ limits.maxRequests ∧ 65536 ≤ limits.maxResponseBytes ∧
    65536 ≤ limits.maxTotalBytes ∧ 0 ≤ limits.maxRedirects ∧ 1 ≤ limits.connectTimeoutSeconds ∧
    1 ≤ limits.requestTimeoutSeconds

structure Version where
  id : Uuid
  manifest : Members

/-- The rows of the project that a request refers to: its build, the active revisions of its active
policies (a policy may have lost its revision), and its queues. -/
structure ProjectRows (e : Encoding) where
  buildReady : Option Bool
  activePolicy : Uuid → Option (Option (PolicyRevision e))
  queueExists : Uuid → Bool

def manifestInvalid (message : String) : Failure := apiError 409 "AGENT_MANIFEST_INVALID" message

def manifestNetwork (manifest : Members) : Except Failure String := do
  let capabilities ← demand (object? (member manifest "capabilities"))
    (manifestInvalid "The immutable Agent version has invalid capabilities.")
  demand ((text? (member capabilities "network")).filter (· ∈ networks))
    (manifestInvalid "The immutable Agent version has invalid network capability.")

def manifestBrowser (manifest : Members) : Except Failure Bool := do
  let capabilities ← demand (object? (member manifest "capabilities"))
    (manifestInvalid "The immutable Agent version has invalid capabilities.")
  demand (bool? (member capabilities "browser"))
    (manifestInvalid "The immutable Agent version has invalid browser capability.")

def manifestResource (manifest : Members) (key : String) : Except Failure ℤ := do
  let resources ← demand (object? (member manifest "resources"))
    (manifestInvalid "The immutable Agent version has invalid resource limits.")
  demand (int? (member resources key))
    (manifestInvalid "The immutable Agent version has invalid resource limits.")

def effectiveLimit (name : String) (supplied : Option ℤ) (maximum : ℤ) : Except Failure ℤ := do
  let value := supplied.getD maximum
  require (value ≤ maximum) (apiError 422 "RUNTIME_LIMIT_EXCEEDED"
    ("Requested " ++ name ++ " exceeds the immutable Agent version limit."))
  pure value

structure RuntimeConfiguration where
  memoryMb : ℤ
  cpuMillis : ℤ
  timeoutSeconds : ℤ

def runtimeConfiguration (manifest : Members) (runtime : RuntimeRequest) :
    Except Failure RuntimeConfiguration := do
  let memoryMax ← manifestResource manifest "memoryMb"
  let cpuMax ← manifestResource manifest "cpuUnits"
  let timeoutMax ← manifestResource manifest "timeoutSeconds"
  let memoryMb ← effectiveLimit "memory_mb" runtime.memoryMb memoryMax
  let cpuMillis ← effectiveLimit "cpu_millis" runtime.cpuMillis cpuMax
  let timeoutSeconds ← effectiveLimit "timeout_seconds" runtime.timeoutSeconds timeoutMax
  pure ⟨memoryMb, cpuMillis, timeoutSeconds⟩

section Policies
variable {e : Encoding} (settings : Settings e)

def withinCeiling (policy : ValidatedEgressPolicy) : Prop :=
  (∀ host ∈ policy.allowedHosts, host ∈ settings.webEgressAllowedHosts.map e.foldHost) ∧
    (∀ method ∈ policy.allowedMethods, method ∈ ["GET", "HEAD"]) ∧
    EgressLimits.within policy.limits settings.webEgress

instance decidableWithinCeiling (policy : ValidatedEgressPolicy) :
    Decidable (withinCeiling settings policy) :=
  inferInstanceAs (Decidable (_ ∧ _ ∧ _))

def receiptMembers (revision : PolicyRevision e) (runtime : Members) : Members :=
  [("schema_version", .text "rdc.run-egress-policy-receipt/v1"),
    ("policy_id", .text (e.uuidText revision.policyId)),
    ("revision_id", .text (e.uuidText revision.id)),
    ("revision_number", .int revision.revisionNumber), ("policy_digest", .text revision.policyDigest),
    ("runtime_policy_digest", .text (e.canonicalFingerprint (.object runtime))),
    ("credential_configured", .bool revision.credentialConfigured)]

def policyReceipt (revision : PolicyRevision e) (runtime : Members) : Members :=
  receiptMembers revision runtime ++ [("binding_digest",
    .text (e.canonicalFingerprint (.object (receiptMembers revision runtime))))]

def revisionInvalid (message : String) : Failure :=
  apiError 409 "EGRESS_POLICY_ACTIVE_REVISION_INVALID" message

/-- `_resolve_run_egress_policy`: the runtime policy and its receipt -/
def resolveRunEgressPolicy (rows : ProjectRows e) (policyId : Uuid) :
    Except Failure (Members × Members) := do
  let active ← demand (rows.activePolicy policyId) resourceNotFound
  let revision ← demand active
    (revisionInvalid "The active egress-policy revision is unavailable.")
  let validated ← (validateEgressPolicy e revision.allowedHosts revision.allowedMethods
    revision.limits).mapError (fun _ =>
      revisionInvalid "The active egress-policy revision failed validation.")
  require (validated.policyDigest = revision.policyDigest)
    (revisionInvalid "The active egress-policy revision digest is invalid.")
  require (withinCeiling settings validated) (apiError 409 "EGRESS_POLICY_EXCEEDS_CANARY_CEILING"
    "The active egress policy exceeds the runtime canary ceiling.")
  let runtime := runtimeEgressPayload validated.allowedMethods validated.allowedHosts validated.limits
  pure (runtime, policyReceipt revision runtime)

/-- The methods and the URLs that a surface needs. -/
def surfaceTargets : Surface → List String × List String
  | .webFetch requests => (requests.map (·.method), requests.map (·.url))
  | .browser startUrl _ _ => (["GET"], [startUrl])
  | .navigation steps => (["GET"], steps.filterMap (fun
      | .goto _ url _ => some url
      | _ => none))
  | .requestQueue _ => (["GET"], [])
  | .absent => ([], [])

def intentDenied : Failure := apiError 422 "EGRESS_POLICY_INTENT_DENIED"
  "The Run intent is not authorized by the active egress policy."

def targetHost (url : String) : Option String := (e.urlHostname url).bind e.asciiHostname

def validateBoundEgressIntent (surface : Surface) (runtime : Members) : Except Failure Unit := do
  let (methods, urls) := surfaceTargets surface
  let targets ← demand (urls.mapM (targetHost (e := e))) intentDenied
  require ((∀ method ∈ methods, Json.text method ∈ (list? (member runtime "allowed_methods")).getD []) ∧
    ∀ host ∈ targets, Json.text host ∈ (list? (member runtime "allowed_hosts")).getD []) intentDenied

/-- `_resolve_run_egress_policy` and the check of the intent, if the request is bound to a policy. -/
def boundPolicy (rows : ProjectRows e) (version : Version) (request : CreateRunRequest) :
    Except Failure (Option (Members × Members)) :=
  match request.egressPolicy with
  | none => pure none
  | some policyId => do
    let network ← manifestNetwork version.manifest
    require (network = "web-egress") (apiError 422 "EGRESS_POLICY_CAPABILITY_REQUIRED"
      "An egress-policy binding requires immutable network=web-egress.")
    let (runtime, receipt) ← resolveRunEgressPolicy settings rows policyId
    validateBoundEgressIntent (e := e) request.surface runtime
    pure (some (runtime, receipt))

end Policies

section Canaries
variable {e : Encoding} (settings : Settings e)

def resourceWithin (manifest : Members) (key : String) (limit : ℤ) : Bool :=
  (manifestResource manifest key).toOption.any (· ≤ limit)

/-- What the live canaries have in common: the canary and its limits. -/
def canaryLive (version : Version) : Bool :=
  settings.sandboxExecutionEnabled && decide (settings.sandboxActivationMode = .canary) &&
    decide (settings.canaryWorkerName ≠ "") &&
    decide (e.uuidText version.id = settings.canaryAgentVersionId) &&
    resourceWithin version.manifest "memoryMb" settings.canaryMax.memoryMb &&
    resourceWithin version.manifest "cpuUnits" settings.canaryMax.cpuMillis &&
    resourceWithin version.manifest "maxProcesses" settings.canaryMax.pids &&
    resourceWithin version.manifest "ephemeralDiskMb" settings.canaryMax.ephemeralDiskMb &&
    resourceWithin version.manifest "timeoutSeconds" settings.canaryMax.runSeconds

def hostsAllowed : Bool := decide (settings.webEgressAllowedHosts ≠ [])

def browserNavigationLiveCanaryEnabled (version : Version) : Bool :=
  canaryLive settings version && settings.webEgressEnabled && settings.browserEnabled &&
    settings.browserLiveNavigationEnabled && hostsAllowed settings

def requestQueueHttpCanaryEnabled (version : Version) : Bool :=
  canaryLive settings version && settings.requestQueueEnabled && settings.requestQueueHttpEnabled &&
    settings.webEgressEnabled && hostsAllowed settings

def requestQueueBrowserCanaryEnabled (version : Version) : Bool :=
  canaryLive settings version && settings.requestQueueEnabled &&
    settings.requestQueueBrowserEnabled && settings.webEgressEnabled && settings.browserEnabled &&
    settings.browserLiveNavigationEnabled && hostsAllowed settings

def requestQueueDatasetCanaryEnabled (version : Version) : Bool :=
  canaryLive settings version && settings.requestQueueEnabled && settings.datasetWritesEnabled &&
    settings.requestQueueDatasetEnabled

def requestQueueKeyValueStoreCanaryEnabled (version : Version) : Bool :=
  canaryLive settings version && settings.requestQueueEnabled && settings.keyValueStoreEnabled &&
    settings.requestQueueKeyValueStoreEnabled

end Canaries

section Documents

def webFetchDocument (requests : List WebFetchRequest) : Json :=
  .object [("schema_version", .text "rdc.web-fetch/v1"), ("requests", .list (requests.map fun request =>
    .object [("id", .text request.id), ("method", .text request.method), ("url", .text request.url)]))]

def browserDocument (startUrl waitUntil : String) (actions : List SnapshotAction) : Json :=
  .object [("schema_version", .text "rdc.browser/v1"), ("start_url", .text startUrl),
    ("wait_until", .text waitUntil), ("actions", .list (actions.map fun action =>
      .object [("id", .text action.id), ("type", .text "snapshot"),
        ("include_html", .bool action.includeHtml)]))]

def NavigationStep.document : NavigationStep → Json
  | goto id url waitUntil => .object [("id", .text id), ("type", .text "goto"), ("url", .text url),
      ("wait_until", .text waitUntil)]
  | waitForSelector id selector state timeoutMs => .object [("id", .text id),
      ("type", .text "wait_for_selector"), ("selector", .text selector), ("state", .text state),
      ("timeout_ms", .int timeoutMs)]
  | extractText id selector maxChars => .object [("id", .text id), ("type", .text "extract_text"),
      ("selector", .text selector), ("max_chars", .int maxChars)]
  | extractHtml id selector maxBytes => .object [("id", .text id), ("type", .text "extract_html"),
      ("selector", .text selector), ("max_bytes", .int maxBytes)]
  | screenshot id => .object [("id", .text id), ("type", .text "screenshot"),
      ("full_page", .bool false)]

def navigationDocument (steps : List NavigationStep) : Members :=
  [("schema_version", .text "rdc.browser/v2"), ("steps", .list (steps.map (·.document)))]

end Documents

section Navigation
variable {e : Encoding} (settings : Settings e)

def policyRejected (message : String) : Failure :=
  apiError 422 "BROWSER_NAVIGATION_POLICY_REJECTED" message

def navigationHost (name : String) : Except Failure String :=
  (e.navigationHostname name).mapError (apiError 422 "BROWSER_NAVIGATION_HOST_REJECTED")

def checkStep (allowedHosts : List String) : NavigationStep → Except Failure Unit
  | .goto _ url _ => do
    let hostname ← demand (e.urlHostname url) (policyRejected "Browser goto URL requires a hostname.")
    let host ← navigationHost (e := e) hostname
    require (host ∈ allowedHosts) (apiError 422 "BROWSER_NAVIGATION_HOST_NOT_ALLOWED"
      "Browser navigation hostname is not operator-allowlisted.")
  | .waitForSelector _ _ _ timeoutMs =>
    require (timeoutMs ≤ settings.browser.navigationTimeoutSeconds * 1000)
      (policyRejected "Browser selector wait exceeds operator policy.")
  | .extractHtml _ _ maxBytes => require (maxBytes ≤ settings.browser.maxDomBytes)
      (policyRejected "Browser HTML extraction exceeds operator policy.")
  | _ => pure ()

def isGoto : NavigationStep → Bool
  | .goto _ _ _ => true
  | _ => false

/-- The checks of `_browser_navigation_receipt`. -/
def checkNavigation (steps : List NavigationStep) : Except Failure Unit := do
  require (settings.webEgressAllowedHosts ≠ []) (apiError 409 "BROWSER_NAVIGATION_POLICY_UNAVAILABLE"
    "Browser navigation intent requires an operator hostname allowlist.")
  let allowedHosts ← (settings.webEgressAllowedHosts.insertionSort (· ≤ ·)).mapM
    (navigationHost (e := e))
  require (1 ≤ steps.length ∧ (steps.length : ℤ) ≤ settings.browser.maxActions)
    (policyRejected "Browser navigation step count exceeds operator policy.")
  let _ ← steps.mapM (checkStep settings allowedHosts)
  require (1 ≤ steps.countP isGoto ∧ (steps.countP isGoto : ℤ) ≤ settings.browser.maxPages)
    (policyRejected "Browser navigation page count exceeds operator policy.")

end Navigation

/-- What a surface adds to the input reference, and whether the run is dispatched. -/
structure SurfacePlan where
  members : Members
  dispatch : Bool

section Surfaces
variable {e : Encoding} (settings : Settings e) (rows : ProjectRows e) (version : Version)

def requireWebEgress (failure : Failure) : Except Failure Unit := do
  let network ← manifestNetwork version.manifest
  require (network = "web-egress") failure

def requireBrowser : Except Failure Unit := do
  requireWebEgress version (apiError 422 "BROWSER_NETWORK_CAPABILITY_REQUIRED"
    "Browser Runs require immutable network=web-egress.")
  let browser ← manifestBrowser version.manifest
  require (browser = true) (apiError 422 "BROWSER_CAPABILITY_REQUIRED"
    "This immutable Agent version does not declare browser=true.")

def browserPolicyEntries : Members :=
  [("browser_policy", .object (browserPolicyPayload settings)),
    ("browser_policy_digest", .text (browserDigest settings))]

/-- The policy in effect for a run that is bound to a policy, or to none. -/
def runPolicy (bound : Option (Members × Members)) : Members :=
  bound.elim (egressPolicyPayload settings) Prod.fst

def browserPlan (startUrl waitUntil : String) (actions : List SnapshotAction) :
    Except Failure SurfacePlan := do
  requireBrowser version
  pure ⟨("browser", browserDocument startUrl waitUntil actions) :: browserPolicyEntries settings, true⟩

def navigationPlan (bound : Option (Members × Members)) (steps : List NavigationStep) :
    Except Failure SurfacePlan := do
  requireBrowser version
  let live := browserNavigationLiveCanaryEnabled settings version
  let egress : Json := .object (browserEgressPolicyPayload (runPolicy settings bound))
  let egressDigest := e.canonicalFingerprint egress
  checkNavigation settings steps
  let receipt := navigationReceipt (e := e) (.object (navigationDocument steps))
    (browserDigest settings) egressDigest live
  let entries : Members := [("browser_navigation", .object (navigationDocument steps)),
    ("browser_navigation_receipt", receipt)]
  let egressEntries : Members := [("browser_egress_policy", egress),
    ("browser_egress_policy_digest", .text egressDigest)]
  pure ⟨entries ++ browserPolicyEntries settings ++ egressEntries, live⟩

end Surfaces

section Queues
variable {e : Encoding} (settings : Settings e) (rows : ProjectRows e) (version : Version)

/-- The canary of a way to acquire a page, with those of what the queue is combined with. -/
def acquisitionLive (manifest : QueueManifest) (canary : Bool) : Bool :=
  canary && (!manifest.dataset || requestQueueDatasetCanaryEnabled settings version) &&
    (!manifest.keyValueStore || requestQueueKeyValueStoreCanaryEnabled settings version)

def queueLive (manifest : QueueManifest) : Bool :=
  match manifest.acquisition with
  | .controlledBrowser =>
    acquisitionLive settings version manifest (requestQueueBrowserCanaryEnabled settings version)
  | .brokeredHttp =>
    acquisitionLive settings version manifest (requestQueueHttpCanaryEnabled settings version)
  | .offline => false

/-- A combination is dispatched if its canary is live, and the acquisition unless there is none. -/
def compositionLive (manifest : QueueManifest) (canary : Bool) : Bool :=
  canary && (decide (manifest.acquisition = .offline) || queueLive settings version manifest)

def queueReceipt (queueId : Uuid) (bound : Option (Members × Members)) (manifest : QueueManifest) :
    Json :=
  match manifest.acquisition with
  | .controlledBrowser => browserBindingReceipt e queueId (e.uuidText version.id)
      (browserDigest settings)
      (e.canonicalFingerprint (.object (browserEgressPolicyPayload (runPolicy settings bound))))
      (queueLive settings version manifest)
  | .brokeredHttp => httpBindingReceipt e queueId (e.uuidText version.id)
      (e.canonicalFingerprint (.object (runPolicy settings bound)))
      (queueLive settings version manifest)
  | .offline => offlineBindingReceipt e queueId (e.uuidText version.id)

def queuePolicyEntries (bound : Option (Members × Members)) : Acquisition → Members
  | .controlledBrowser => [("request_queue_browser_policy", .object (browserPolicyPayload settings)),
      ("request_queue_browser_policy_digest", .text (browserDigest settings)),
      ("request_queue_browser_egress_policy",
        .object (browserEgressPolicyPayload (runPolicy settings bound))),
      ("request_queue_browser_egress_policy_digest", .text (e.canonicalFingerprint
        (.object (browserEgressPolicyPayload (runPolicy settings bound)))))]
  | .brokeredHttp => [("request_queue_egress_policy", .object (runPolicy settings bound)),
      ("request_queue_egress_policy_digest",
        .text (e.canonicalFingerprint (.object (runPolicy settings bound))))]
  | .offline => []

def datasetEntries (queueId : Uuid) (receipt : Json) (manifest : QueueManifest) : Members :=
  if manifest.dataset then [("request_queue_dataset_receipt",
    datasetReceipt e queueId (e.uuidText version.id) receipt (compositionLive settings version manifest
      (requestQueueDatasetCanaryEnabled settings version)))]
  else []

def keyValueStoreEntries (queueId : Uuid) (receipt : Json) (readDigest : Option String)
    (manifest : QueueManifest) : Members :=
  if manifest.keyValueStore then [("request_queue_key_value_store_receipt",
    keyValueStoreReceipt e queueId (e.uuidText version.id) receipt readDigest
      (compositionLive settings version manifest
        (requestQueueKeyValueStoreCanaryEnabled settings version)))]
  else []

/-- No receipt that the run records says that it is not dispatched. -/
def queueDispatch (manifest : QueueManifest) : Bool :=
  (decide (manifest.acquisition = .offline) || queueLive settings version manifest) &&
    (!manifest.dataset || compositionLive settings version manifest
      (requestQueueDatasetCanaryEnabled settings version)) &&
    (!manifest.keyValueStore || compositionLive settings version manifest
      (requestQueueKeyValueStoreCanaryEnabled settings version))

/-- The digest of the read that is asked for; only a queue with a store looks at it. -/
def plannedRead (manifest : QueueManifest) (input : Members) : Except Failure (Option String) :=
  if manifest.keyValueStore then (readRequestDigest e (.object input)).mapError (fun _ =>
    apiError 422 "KV_WORKER_READ_PROTOCOL_INVALID" "Queue KV read request is invalid.")
  else pure none

def queuePlan (bound : Option (Members × Members)) (input : Members) (queueId : Uuid) :
    Except Failure SurfacePlan := do
  let manifest ← demand ((object? (member version.manifest "capabilities")).bind declaredQueue)
    (apiError 422 "REQUEST_QUEUE_CAPABILITY_REQUIRED"
      ("Queue-bound Runs require requestQueue=true and cannot " ++
        "combine Dataset and Key-Value Store access."))
  require (rows.queueExists queueId = true) resourceNotFound
  let readDigest ← plannedRead (e := e) manifest input
  let receipt := queueReceipt settings version queueId bound manifest
  let entries : Members := [("request_queue", normalizedBinding e queueId),
    ("queue_binding_receipt", receipt)]
  pure ⟨entries ++ datasetEntries settings version queueId receipt manifest ++
    keyValueStoreEntries settings version queueId receipt readDigest manifest ++
    queuePolicyEntries settings bound manifest.acquisition, queueDispatch settings version manifest⟩

def surfacePlan (bound : Option (Members × Members)) (input : Members) :
    Surface → Except Failure SurfacePlan
  | .absent => pure ⟨[], true⟩
  | .webFetch requests => do
    requireWebEgress version (apiError 422 "WEB_FETCH_CAPABILITY_REQUIRED"
      "This immutable Agent version does not declare network=web-egress.")
    pure ⟨[("web_fetch", webFetchDocument requests)], true⟩
  | .browser startUrl waitUntil actions => browserPlan settings version startUrl waitUntil actions
  | .navigation steps => navigationPlan settings version bound steps
  | .requestQueue queueId => queuePlan settings rows version bound input queueId

end Queues

structure RunIntent where
  inputReference : Members
  runtime : RuntimeConfiguration
  dispatch : Bool

def policyEntries : Option (Members × Members) → Members
  | some (runtime, receipt) => [("project_egress_policy", .object runtime),
      ("project_egress_policy_receipt", .object receipt)]
  | none => []

def inputEntries (input : Members) : Members :=
  [("kind", .text "inline"), ("value", .object input)]

section Creation
variable {e : Encoding} (settings : Settings e) (rows : ProjectRows e) (version : Version)

/-- `create_run` up to the lookup of its idempotency key. -/
def createRun (request : CreateRunRequest) : Except Failure RunIntent := do
  let ready ← demand rows.buildReady resourceNotFound
  require (ready = true) (apiError 409 "BUILD_NOT_READY"
    "A successful Build artifact is required before creating a Run.")
  let runtime ← runtimeConfiguration version.manifest request.runtime
  let bound ← boundPolicy settings rows version request
  let plan ← surfacePlan settings rows version bound request.input request.surface
  pure
    { inputReference := inputEntries request.input ++ policyEntries bound ++ plan.members
      runtime := runtime
      dispatch := plan.dispatch }

theorem createRun_ok {request : CreateRunRequest} {intent : RunIntent}
    (h : createRun settings rows version request = .ok intent) :
    ∃ bound plan, boundPolicy settings rows version request = .ok bound ∧
      surfacePlan settings rows version bound request.input request.surface = .ok plan ∧
      intent.inputReference = inputEntries request.input ++ policyEntries bound ++ plan.members ∧
      intent.dispatch = plan.dispatch := by
  simp only [createRun, bind_ok, pure_ok] at h
  obtain ⟨-, -, -, -, -, -, bound, hbound, plan, hplan, rfl⟩ := h
  exact ⟨bound, plan, hbound, hplan, rfl, rfl⟩

theorem queuePlan_ok {bound : Option (Members × Members)} {input : Members} {queueId : Uuid}
    {plan : SurfacePlan} (h : queuePlan settings rows version bound input queueId = .ok plan) :
    ∃ capabilities manifest readDigest, member version.manifest "capabilities" = .object capabilities ∧
      declaredQueue capabilities = some manifest ∧
      plannedRead (e := e) manifest input = .ok readDigest ∧
      plan = ⟨[("request_queue", normalizedBinding e queueId),
          ("queue_binding_receipt", queueReceipt settings version queueId bound manifest)] ++
        datasetEntries settings version queueId (queueReceipt settings version queueId bound manifest)
          manifest ++
        keyValueStoreEntries settings version queueId
          (queueReceipt settings version queueId bound manifest) readDigest manifest ++
        queuePolicyEntries settings bound manifest.acquisition,
        queueDispatch settings version manifest⟩ := by
  simp only [queuePlan, bind_ok, demand_ok, require_ok, pure_ok, Option.bind_eq_some_iff,
    object?_eq] at h
  obtain ⟨manifest, ⟨capabilities, hcapabilities, hmanifest⟩, -, -, readDigest, hread, rfl⟩ := h
  exact ⟨capabilities, manifest, readDigest, hcapabilities, hmanifest, hread, rfl⟩

/-- The members that come with a queue. -/
def queueKeys : List String :=
  ["request_queue", "queue_binding_receipt", "request_queue_dataset_receipt",
    "request_queue_key_value_store_receipt", "request_queue_egress_policy",
    "request_queue_egress_policy_digest", "request_queue_browser_policy",
    "request_queue_browser_policy_digest", "request_queue_browser_egress_policy",
    "request_queue_browser_egress_policy_digest"]

theorem surfacePlan_queueKeys {bound : Option (Members × Members)} {input : Members}
    {surface : Surface} {plan : SurfacePlan} {key : String}
    (h : surfacePlan settings rows version bound input surface = .ok plan)
    (hsurface : ∀ queueId, surface ≠ .requestQueue queueId) (hkey : key ∈ queueKeys) :
    member plan.members key = .null := by
  cases surface with
  | absent =>
    obtain rfl := pure_ok.1 h
    rfl
  | webFetch requests =>
    simp only [surfacePlan, bind_ok, pure_ok] at h
    obtain ⟨-, -, rfl⟩ := h
    fin_cases hkey <;> rfl
  | browser startUrl waitUntil actions =>
    simp only [surfacePlan, browserPlan, bind_ok, pure_ok] at h
    obtain ⟨-, -, rfl⟩ := h
    fin_cases hkey <;> rfl
  | navigation steps =>
    simp only [surfacePlan, navigationPlan, bind_ok, pure_ok] at h
    obtain ⟨-, -, -, -, rfl⟩ := h
    fin_cases hkey <;> rfl
  | requestQueue queueId => exact absurd rfl (hsurface queueId)

/-- The members that do not come with the surface of a run. -/
def commonKeys : List String :=
  ["kind", "value", "project_egress_policy", "project_egress_policy_receipt"]

theorem member_common {input members : Members} {bound : Option (Members × Members)} {key : String}
    (hkey : key ∉ commonKeys) :
    member (inputEntries input ++ policyEntries bound ++ members) key = member members key := by
  simp only [commonKeys, List.mem_cons, List.not_mem_nil, or_false, not_or] at hkey
  obtain ⟨hkind, hvalue, hpolicy, hreceipt⟩ := hkey
  apply member_append_of_none
  cases bound <;>
    simp [inputEntries, policyEntries, List.lookup_cons, List.lookup_nil, beq_false_of_ne, hkind, hvalue, hpolicy, hreceipt]

/-- `_run_claim_payload` of a run that was created so. -/
def runClaimPayload (intent : RunIntent) (runId : Uuid) (workKind : WorkKind)
    (artifact : Option Json) : ClaimPayload where
  workKind := workKind
  agentVersionId := e.uuidText version.id
  runId := some (e.uuidText runId)
  manifest := version.manifest
  inputReference := some intent.inputReference
  artifact := artifact

def buildClaimPayload : ClaimPayload where
  workKind := .build
  agentVersionId := e.uuidText version.id
  runId := none
  manifest := version.manifest
  inputReference := none
  artifact := none

end Creation
end RoozDataCloud.RunIntents
