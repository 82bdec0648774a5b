import RoozDataCloud.IdempotencyRecords
import RoozDataCloud.RunCreation
import RoozDataCloud.CapabilityAgreement
import RoozDataCloud.RunOutcomes

set_option autoImplicit false

/-!
# Repeated requests to create a run

`create_run` looks its idempotency key up after it has resolved what the request
refers to, and what it has resolved is part of the fingerprint. So a request that is
repeated is answered with the first answer as long as it resolves to the same, and
otherwise it fails. In no case does it write.
-/
namespace RoozDataCloud.RunReplays
open KeyedTable ExecutionModels JsonDocuments SandboxSettings FallibleSteps RunRequests RunIntents
open Datasets (Json)
open IdempotencyRecords (runsEndpoint)
open RunCreation (Tables Emission admitRun NewRun)

/-- How the rows hold documents. The two ways to write a document have one fingerprint. -/
structure Rendering (d : Deployment) (e : Encoding) where
  value : Json → Value
  payload : Members → Payload
  manifest : Payload → Members
  isoformat : Time → String
  fingerprint_eq : ∀ document, d.canonicalFingerprint (value document) = e.canonicalFingerprint document

structure AuditEvent where
  organizationId : Uuid
  projectId : Uuid
  actorType : String
  actorId : String
  action : String
  resourceId : Uuid
  requestId : String
  details : Members

/-- The tables, with the answers that the idempotency records keep and with the audit log. -/
structure Store where
  tables : Tables
  snapshots : Table IdempotencyKey Json
  audit : List AuditEvent

/-- What a request finds: the store, the settings, and the policies and queues of each project. -/
structure Site (e : Encoding) where
  store : Store
  settings : Settings e
  activePolicy : Uuid → Uuid → Option (Option (PolicyRevision e))
  queueExists : Uuid → Uuid → Bool

/-- A request, with the identifiers and the times that it draws. -/
structure Call where
  caller : Caller
  actorType : String
  actorId : Option String
  versionId : Uuid
  buildId : Uuid
  request : CreateRunRequest
  runId : Uuid
  commandId : Uuid
  emission : Emission

section Documents
variable {d : Deployment} {e : Encoding} (r : Rendering d e)

def runtimeMembers (runtime : RuntimeConfiguration) : Members :=
  [("memory_mb", .int runtime.memoryMb), ("cpu_millis", .int runtime.cpuMillis),
    ("timeout_seconds", .int runtime.timeoutSeconds)]

/-- What the fingerprint is taken of. What the request does not resolve is `None`, and is not in the
input reference either. -/
def fingerprintDocument (versionId buildId : Uuid) (intent : RunIntent) : Json :=
  .object ([("agent_version_id", .text (e.uuidText versionId)), ("build_id", .text (e.uuidText buildId)),
    ("input", member intent.inputReference "value")] ++
    (["web_fetch", "browser", "browser_navigation", "browser_navigation_receipt",
      "browser_policy_digest", "browser_egress_policy_digest", "request_queue",
      "queue_binding_receipt", "request_queue_egress_policy_digest",
      "request_queue_browser_policy_digest", "request_queue_browser_egress_policy_digest",
      "request_queue_dataset_receipt", "request_queue_key_value_store_receipt",
      "project_egress_policy_receipt"].map (fun key => (key, member intent.inputReference key))) ++
    [("runtime", .object (runtimeMembers intent.runtime))])

def statusText (intent : RunIntent) : String := if intent.dispatch then "QUEUED" else "DRAFT"

/-- `json_run_snapshot` of a run that was just created. -/
def jsonRunSnapshot (version : AgentVersion) (call : Call) (intent : RunIntent) : Json :=
  let id := e.uuidText call.runId
  let now := r.isoformat call.caller.now
  .object [("id", .text id), ("organization_id", .text (e.uuidText version.organizationId)),
    ("project_id", .text (e.uuidText version.projectId)),
    ("agent_id", .text (e.uuidText version.agentId)),
    ("agent_version_id", .text (e.uuidText call.versionId)),
    ("build_id", .text (e.uuidText call.buildId)), ("status", .text (statusText intent)),
    ("input_reference", .object intent.inputReference),
    ("runtime_configuration", .object (runtimeMembers intent.runtime)),
    ("memory_mb", .int intent.runtime.memoryMb), ("cpu_millis", .int intent.runtime.cpuMillis),
    ("timeout_seconds", .int intent.runtime.timeoutSeconds), ("queued_at", .text now),
    ("started_at", .null), ("finished_at", .null), ("cancel_requested_at", .null),
    ("cancel_deadline_at", .null), ("failure_code", .null), ("failure_summary", .null),
    ("created_at", .text now), ("updated_at", .text now), ("version", .int 1),
    ("status_url", .text ("/api/v1/runs/" ++ id)),
    ("events_url", .text ("/api/v1/runs/" ++ id ++ "/events")),
    ("cancel_url", .text ("/api/v1/runs/" ++ id ++ "/cancel"))]

/-- A member of a receipt, or `None` if there is no receipt. -/
def ofReceipt (reference : Members) (receipt field : String) : Json :=
  member ((object? (member reference receipt)).getD []) field

def recorded (reference : Members) (key : String) : Bool := decide (member reference key ≠ .null)

def dispatches (reference : Members) (receipt : String) : Bool :=
  decide (ofReceipt reference receipt "dispatch_enabled" = .bool true)

def receiptDigest (reference : Members) (receipt : String) : Json :=
  if recorded reference receipt then .text (e.canonicalFingerprint (member reference receipt))
  else .null

def auditAction (reference : Members) : String :=
  if recorded reference "browser_navigation" && !dispatches reference "browser_navigation_receipt" then
    "run.browser_navigation_intent_recorded"
  else if recorded reference "request_queue_dataset_receipt" &&
      !dispatches reference "request_queue_dataset_receipt" then
    "run.request_queue_dataset_intent_recorded"
  else if recorded reference "request_queue_key_value_store_receipt" &&
      !dispatches reference "request_queue_key_value_store_receipt" then
    "run.request_queue_key_value_store_intent_recorded"
  else if recorded reference "request_queue_egress_policy" &&
      !dispatches reference "queue_binding_receipt" then "run.request_queue_http_intent_recorded"
  else if recorded reference "request_queue_browser_policy" &&
      !dispatches reference "queue_binding_receipt" then "run.request_queue_browser_intent_recorded"
  else "run.queued"

def auditDetails (version : AgentVersion) (call : Call) (intent : RunIntent) : Members :=
  let reference := intent.inputReference
  [("agent_id", .text (e.uuidText version.agentId)),
    ("agent_version_id", .text (e.uuidText call.versionId)),
    ("build_id", .text (e.uuidText call.buildId)), ("memory_mb", .int intent.runtime.memoryMb),
    ("cpu_millis", .int intent.runtime.cpuMillis),
    ("timeout_seconds", .int intent.runtime.timeoutSeconds),
    ("browser_navigation_request_digest",
      ofReceipt reference "browser_navigation_receipt" "request_digest"),
    ("browser_navigation_dispatch_enabled",
      .bool (dispatches reference "browser_navigation_receipt")),
    ("browser_egress_policy_digest", member reference "browser_egress_policy_digest"),
    ("browser_egress_transport_wired", .bool true),
    ("request_queue_id", ofReceipt reference "request_queue" "queue_id"),
    ("request_queue_binding_digest", ofReceipt reference "queue_binding_receipt" "binding_digest"),
    ("request_queue_http_dispatch_enabled", .bool (recorded reference "request_queue_egress_policy" &&
      dispatches reference "queue_binding_receipt")),
    ("request_queue_browser_dispatch_enabled",
      .bool (recorded reference "request_queue_browser_policy" &&
        dispatches reference "queue_binding_receipt")),
    ("request_queue_dataset_dispatch_enabled",
      .bool (dispatches reference "request_queue_dataset_receipt")),
    ("request_queue_dataset_receipt_digest",
      receiptDigest (e := e) reference "request_queue_dataset_receipt"),
    ("request_queue_key_value_store_dispatch_enabled",
      .bool (dispatches reference "request_queue_key_value_store_receipt")),
    ("request_queue_key_value_store_receipt_digest",
      receiptDigest (e := e) reference "request_queue_key_value_store_receipt"),
    ("request_queue_egress_policy_digest", member reference "request_queue_egress_policy_digest"),
    ("request_queue_browser_policy_digest", member reference "request_queue_browser_policy_digest"),
    ("request_queue_browser_egress_policy_digest",
      member reference "request_queue_browser_egress_policy_digest"),
    ("project_egress_policy_binding_digest",
      ofReceipt reference "project_egress_policy_receipt" "binding_digest")]

def auditEvent (version : AgentVersion) (call : Call) (intent : RunIntent) : AuditEvent where
  organizationId := version.organizationId
  projectId := version.projectId
  actorType := call.actorType
  actorId := call.actorId.getD (e.uuidText call.caller.userId)
  action := auditAction intent.inputReference
  resourceId := call.runId
  requestId := call.emission.requestId
  details := auditDetails (e := e) version call intent

end Documents

section Creation
variable {d : Deployment} {e : Encoding} (r : Rendering d e)

def buildReady (st : State) (versionId buildId : Uuid) (version : AgentVersion) : Option Bool :=
  ((st.builds.get? buildId).filter (buildOf versionId version)).map
    (fun build => decide (build.status = .succeeded ∧ build.artifactDigest.isSome))

/-- The rows that a request of the version refers to. -/
def projectRows (site : Site e) (call : Call) (version : AgentVersion) : ProjectRows e where
  buildReady := buildReady site.store.tables.plane call.versionId call.buildId version
  activePolicy := site.activePolicy version.projectId
  queueExists := site.queueExists version.projectId

/-- What the request resolves to. -/
def resolve (site : Site e) (call : Call) : Except Failure (AgentVersion × RunIntent) := do
  let version ← demand (site.store.tables.plane.directory.agentVersions.get? call.versionId)
    missingResource
  let intent ← RunIntents.createRun site.settings (projectRows site call version)
    ⟨call.versionId, r.manifest version.manifest⟩ call.request
  pure (version, intent)

def runPlan (call : Call) (intent : RunIntent) : RunPlan where
  runtime := r.payload (runtimeMembers intent.runtime)
  inputReference := r.payload intent.inputReference
  intent := r.value (fingerprintDocument (e := e) call.versionId call.buildId intent)
  receiptOnly := !intent.dispatch

/-- The rows of a run, and its idempotency record. -/
def writeRows (site : Site e) (call : Call) (plan : Except Failure RunPlan) : Except Failure Tables :=
  match RunCreation.createRun d call.caller call.versionId call.buildId plan call.runId call.commandId
    call.emission site.store.tables with
  | .ok _ tables => .ok tables
  | .error failure _ => .error failure

/-- The answer that is kept under the key of the request. -/
def keptSnapshot (site : Site e) (call : Call) (version : AgentVersion) : Option Json :=
  site.store.snapshots.get? (idempotencyKey d call.caller version.organizationId runsEndpoint)

def createRun (site : Site e) (call : Call) : Except Failure (Store × Json) := do
  let resolved := resolve r site call
  let plan := (fun resolution => runPlan r call resolution.2) <$> resolved
  match ← admitRun d site.store.tables.plane call.caller call.versionId call.buildId plan with
  | .inl _ => do
    let (version, _) ← resolved
    let snapshot ← demand (keptSnapshot (d := d) site call version) (apiError 409 "RESOURCE_CONFLICT"
      "The original idempotent result is unavailable.")
    pure (site.store, snapshot)
  | .inr new => do
    let (version, intent) ← resolved
    let tables ← writeRows (d := d) site call plan
    let snapshot := jsonRunSnapshot r version call intent
    let snapshots ← demand (site.store.snapshots.insert? new.key snapshot)
      (.integrity "uq_idempotency_records_scope")
    pure (⟨tables, snapshots, site.store.audit ++ [auditEvent (e := e) version call intent]⟩, snapshot)

/-- What happens between requests: other creations, the work of the execution plane, changes of the
settings, policies and queues, and whatever other services write. -/
inductive Move (e : Encoding) where
  | create (call : Call)
  | execute (op : ExecutionSystem.Op)
  | configure (settings : Settings e)
      (activePolicy : Uuid → Uuid → Option (Option (PolicyRevision e)))
      (queueExists : Uuid → Uuid → Bool)
  | elsewhere (runEvents : NumberedLog.Log Uuid RunCreation.RunEvent)
      (webhooks : WebhookModels.WebhookTables) (audit : List AuditEvent)

/-- Runs are created by `create` alone, so that each has its answer kept. -/
def executed (d : Deployment) (st : State) : ExecutionSystem.Op → State
  | .createRun _ _ _ _ _ _ => st
  | op => ExecutionSystem.step d st op

def next (site : Site e) : Move e → Site e
  | .create call => { site with store := commit site.store (createRun r site call) }
  | .execute op => { site with
      store := { site.store with
        tables := { site.store.tables with plane := executed d site.store.tables.plane op } } }
  | .configure settings activePolicy queueExists =>
    { site with settings := settings, activePolicy := activePolicy, queueExists := queueExists }
  | .elsewhere runEvents webhooks audit => { site with
      store := { site.store with
        tables := { site.store.tables with runEvents := runEvents, webhooks := webhooks }
        audit := audit } }

end Creation

section Replays
variable {d : Deployment} {e : Encoding} {r : Rendering d e}

/-- The scope of the idempotency key of a request. -/
def scope (d : Deployment) (site : Site e) (call : Call) : Option IdempotencyKey :=
  (site.store.tables.plane.directory.agentVersions.get? call.versionId).map
    (fun version => idempotencyKey d call.caller version.organizationId runsEndpoint)

/-- An answer is kept under a key, for a request of one fingerprint. -/
structure Kept (key : IdempotencyKey) (fingerprint : String) (snapshot : Json) (s : Store) : Prop where
  record : ∃ resourceId, s.tables.plane.idempotency.get? key = some ⟨fingerprint, resourceId, true⟩
  snapshot : s.snapshots.get? key = some snapshot

theorem replay_kept {key : IdempotencyKey} {fingerprint fingerprint' : String} {snapshot : Json}
    {s : Store} {found : Option Uuid} (h : Kept key fingerprint snapshot s)
    (hreplay : replay s.tables.plane key fingerprint' = .ok found) :
    fingerprint' = fingerprint ∧ found.isSome = true := by
  obtain ⟨resourceId, hrecord⟩ := h.record
  simp only [replay, hrecord, bind_ok, require_ok, pure_ok] at hreplay
  obtain ⟨-, hsame, -, -, rfl⟩ := hreplay
  exact ⟨hsame.symm, rfl⟩

theorem replay_again {key : IdempotencyKey} {fingerprint : String} {snapshot : Json} {s : Store}
    (h : Kept key fingerprint snapshot s) :
    ∃ id, replay s.tables.plane key fingerprint = .ok (some id) := by
  obtain ⟨resourceId, hrecord⟩ := h.record
  exact ⟨resourceId, by simp [replay, hrecord, require, bind, Except.bind, pure, Except.pure]⟩

theorem admitRun_ok {st : State} {call : Call} {plan : Except Failure RunPlan}
    {admitted : Uuid ⊕ NewRun}
    (h : admitRun d st call.caller call.versionId call.buildId plan = .ok admitted) :
    ∃ version chosen, st.directory.agentVersions.get? call.versionId = some version ∧
      validateIdempotencyKey call.caller.idempotencyKey = .ok () ∧
      buildReady st call.versionId call.buildId version = some true ∧ plan = .ok chosen ∧
      let key := idempotencyKey d call.caller version.organizationId runsEndpoint
      let fingerprint := d.canonicalFingerprint chosen.intent
      (∃ id, replay st key fingerprint = .ok (some id) ∧ admitted = .inl id) ∨
        (replay st key fingerprint = .ok none ∧ admitted = .inr ⟨version, chosen, key, fingerprint⟩) := by
  simp only [admitRun, bind_ok, demand_ok, require_ok] at h
  obtain ⟨version, hversion, ⟨⟩, hkey, build, hbuild, -, hof, -, hready, chosen, hplan, found,
    hreplay, hrest⟩ := h
  refine ⟨version, chosen, hversion, hkey, ?_, hplan, ?_⟩
  · simp [buildReady, hbuild, hof, hready]
  · cases found with
    | some id => exact .inl ⟨id, hreplay, (pure_ok.1 hrest).symm⟩
    | none => exact .inr ⟨hreplay, (pure_ok.1 hrest).symm⟩

theorem admitRun_replays {st : State} {call : Call} {chosen : RunPlan} {version : AgentVersion}
    {id : Uuid} (hversion : st.directory.agentVersions.get? call.versionId = some version)
    (hkey : validateIdempotencyKey call.caller.idempotencyKey = .ok ())
    (hbuild : buildReady st call.versionId call.buildId version = some true)
    (hreplay : replay st (idempotencyKey d call.caller version.organizationId runsEndpoint)
      (d.canonicalFingerprint chosen.intent) = .ok (some id)) :
    admitRun d st call.caller call.versionId call.buildId (.ok chosen) = .ok (.inl id) := by
  simp only [buildReady, Option.map_eq_some_iff, Option.filter_eq_some_iff, decide_eq_true_eq] at hbuild
  obtain ⟨build, ⟨hget, hof⟩, hready⟩ := hbuild
  simp only [admitRun, bind_ok, demand_ok, require_ok]
  exact ⟨version, hversion, (), hkey, build, hget, (), hof, (), hready, chosen, rfl, some id, hreplay,
    rfl⟩

theorem resolve_ok {site : Site e} {call : Call} {version : AgentVersion} {intent : RunIntent}
    (h : resolve r site call = .ok (version, intent)) :
    site.store.tables.plane.directory.agentVersions.get? call.versionId = some version ∧
      RunIntents.createRun site.settings (projectRows site call version)
        ⟨call.versionId, r.manifest version.manifest⟩ call.request = .ok intent := by
  simp only [resolve, bind_ok, demand_ok, pure_ok, Prod.mk.injEq] at h
  obtain ⟨version', hversion, intent', hintent, rfl, rfl⟩ := h
  exact ⟨hversion, hintent⟩

/-- The fingerprint of a request that resolves so. -/
def fingerprintOf (e : Encoding) (call : Call) (intent : RunIntent) : String :=
  e.canonicalFingerprint (fingerprintDocument (e := e) call.versionId call.buildId intent)

theorem replay_found {st : State} {key : IdempotencyKey} {fingerprint : String} {id : Uuid}
    (h : replay st key fingerprint = .ok (some id)) :
    st.idempotency.get? key = some ⟨fingerprint, id, true⟩ := by
  unfold replay at h
  split at h
  · cases h
  next record hrecord =>
    simp only [bind_ok, require_ok, pure_ok, Option.some.injEq] at h
    obtain ⟨-, rfl, -, hsnapshot, rfl⟩ := h
    rw [hrecord, ← hsnapshot]

theorem writeRows_ok {site : Site e} {call : Call} {chosen : RunPlan} {version : AgentVersion}
    {tables : Tables}
    (hversion : site.store.tables.plane.directory.agentVersions.get? call.versionId = some version)
    (hreplay : replay site.store.tables.plane
      (idempotencyKey d call.caller version.organizationId runsEndpoint)
      (d.canonicalFingerprint chosen.intent) = .ok none)
    (h : writeRows (d := d) site call (.ok chosen) = .ok tables) :
    IdempotencyRecords.Recorded (idempotencyKey d call.caller version.organizationId runsEndpoint)
      ⟨d.canonicalFingerprint chosen.intent, call.runId, true⟩ site.store.tables.plane tables.plane := by
  unfold writeRows at h
  split at h
  next id tables' hrun =>
    obtain rfl := Except.ok.inj h
    have hplane := RunCreation.createRun_refines hrun
    simp only [RunRequests.createRun, bind_ok, demand_ok] at hplane
    obtain ⟨version', hversion', -, -, build, -, -, -, -, -, chosen', hchosen, found, hfound, hrest⟩ :=
      hplane
    obtain rfl := Option.some.inj (hversion.symm.trans hversion')
    obtain rfl := Except.ok.inj hchosen
    obtain rfl : none = found := Except.ok.inj (hreplay.symm.trans hfound)
    simp only [bind_ok, pure_ok, Prod.mk.injEq] at hrest
    obtain ⟨mid, hinsert, last, hremember, rfl, -⟩ := hrest
    exact (IdempotencyRecords.remember_recorded
      (IdempotencyRecords.insertRun_unrecorded hinsert).1 hremember).1
  next => cases h

theorem createRun_cases {site : Site e} {call : Call} {s : Store} {snapshot : Json}
    (h : createRun r site call = .ok (s, snapshot)) :
    ∃ version intent, resolve r site call = .ok (version, intent) ∧
      validateIdempotencyKey call.caller.idempotencyKey = .ok () ∧
      buildReady site.store.tables.plane call.versionId call.buildId version = some true ∧
      let key := idempotencyKey d call.caller version.organizationId runsEndpoint
      (s = site.store ∧ Kept key (fingerprintOf e call intent) snapshot s) ∨
        (replay site.store.tables.plane key (fingerprintOf e call intent) = .ok none ∧
          IdempotencyRecords.Recorded key ⟨fingerprintOf e call intent, call.runId, true⟩
            site.store.tables.plane s.tables.plane ∧
          site.store.snapshots.insert? key snapshot = some s.snapshots) := by
  simp only [createRun, bind_ok] at h
  obtain ⟨admitted, hadmitted, hrest⟩ := h
  obtain ⟨version, chosen, hversion, hkey, hbuild, hplan, hcases⟩ := admitRun_ok hadmitted
  obtain ⟨⟨version', intent⟩, hresolve, rfl⟩ := map_ok.1 hplan
  obtain rfl := Option.some.inj (hversion.symm.trans (resolve_ok hresolve).1)
  have hfingerprint : d.canonicalFingerprint (runPlan r call intent).intent =
      fingerprintOf e call intent := r.fingerprint_eq _
  refine ⟨version, intent, hresolve, hkey, hbuild, ?_⟩
  rcases hcases with ⟨id, hreplay, rfl⟩ | ⟨hreplay, rfl⟩
  · simp only [bind_ok, demand_ok, pure_ok, Prod.mk.injEq] at hrest
    obtain ⟨resolution, hresolution, kept, hkept, rfl, rfl⟩ := hrest
    obtain rfl := Except.ok.inj (hresolve.symm.trans hresolution)
    rw [hfingerprint] at hreplay
    exact .inl ⟨rfl, ⟨id, replay_found hreplay⟩, hkept⟩
  · simp only [bind_ok, demand_ok, pure_ok, Prod.mk.injEq] at hrest
    obtain ⟨resolution, hresolution, tables, htables, snapshots, hsnapshots, rfl, rfl⟩ := hrest
    obtain rfl := Except.ok.inj (hresolve.symm.trans hresolution)
    rw [hplan] at htables
    have hrecorded := writeRows_ok hversion hreplay htables
    rw [hfingerprint] at hrecorded hreplay
    exact .inr ⟨hreplay, hrecorded, hsnapshots⟩

theorem createRun_kept {site : Site e} {call : Call} {s : Store} {snapshot : Json}
    (h : createRun r site call = .ok (s, snapshot)) :
    ∃ version intent, resolve r site call = .ok (version, intent) ∧
      validateIdempotencyKey call.caller.idempotencyKey = .ok () ∧
      buildReady site.store.tables.plane call.versionId call.buildId version = some true ∧
      Kept (idempotencyKey d call.caller version.organizationId runsEndpoint)
        (fingerprintOf e call intent) snapshot s := by
  obtain ⟨version, intent, hresolve, hkey, hbuild, ⟨-, hkept⟩ | ⟨-, hrecorded, hsnapshots⟩⟩ :=
    createRun_cases h
  · exact ⟨version, intent, hresolve, hkey, hbuild, hkept⟩
  · refine ⟨version, intent, hresolve, hkey, hbuild, ⟨call.runId, ?_⟩, ?_⟩
    · rw [Table.get?_insert hrecorded.insert, if_pos rfl]
    · rw [Table.get?_insert hsnapshots, if_pos rfl]

theorem next_kept {site : Site e} {key : IdempotencyKey} {fingerprint : String} {snapshot : Json}
    (h : Kept key fingerprint snapshot site.store) (move : Move e) :
    Kept key fingerprint snapshot (next r site move).store := by
  obtain ⟨⟨resourceId, hrecord⟩, hsnapshot⟩ := h
  cases move with
  | create call =>
    refine commit_cases (P := Kept key fingerprint snapshot) ⟨⟨resourceId, hrecord⟩, hsnapshot⟩ ?_
    intro s answer hok
    obtain ⟨version, intent, -, -, -, ⟨rfl, -⟩ | ⟨-, hrecorded, hsnapshots⟩⟩ := createRun_cases hok
    · exact ⟨⟨resourceId, hrecord⟩, hsnapshot⟩
    · exact ⟨⟨resourceId, hrecorded.remembers.records key _ hrecord⟩,
        Table.get?_insert_old hsnapshots hsnapshot⟩
  | execute op =>
    refine ⟨⟨resourceId, ?_⟩, hsnapshot⟩
    have hstep := (IdempotencyRecords.step_keeps d site.store.tables.plane op).remembers.records key _
      hrecord
    cases op with
    | createRun => exact hrecord
    | _ => exact hstep
  | configure settings activePolicy queueExists => exact ⟨⟨resourceId, hrecord⟩, hsnapshot⟩
  | elsewhere runEvents webhooks audit => exact ⟨⟨resourceId, hrecord⟩, hsnapshot⟩

theorem run_kept {site : Site e} {key : IdempotencyKey} {fingerprint : String} {snapshot : Json}
    (h : Kept key fingerprint snapshot site.store) (moves : List (Move e)) :
    Kept key fingerprint snapshot (exec (next r) site moves).store :=
  exec_invariant (next r) (P := fun site => Kept key fingerprint snapshot site.store)
    (fun _ move hkept => next_kept hkept move) moves site h

theorem createRun_answers {site : Site e} {call : Call} {key : IdempotencyKey} {fingerprint : String}
    {snapshot answer : Json} {s : Store} (hkept : Kept key fingerprint snapshot site.store)
    (hscope : scope d site call = some key) (h : createRun r site call = .ok (s, answer)) :
    s = site.store ∧ answer = snapshot := by
  obtain ⟨version, intent, hresolve, -, -, hcases⟩ := createRun_cases h
  have hkey : idempotencyKey d call.caller version.organizationId runsEndpoint = key := by
    rw [scope, (resolve_ok hresolve).1] at hscope
    exact Option.some.inj hscope
  rw [hkey] at hcases
  rcases hcases with ⟨rfl, -, hanswer⟩ | ⟨hreplay, -⟩
  · exact ⟨rfl, Option.some.inj (hanswer.symm.trans hkept.snapshot)⟩
  · exact absurd (replay_kept hkept hreplay).2 (by decide)

/-- The same principal, key and payload. -/
structure Repeats (call again : Call) : Prop where
  principal : again.caller.userId = call.caller.userId
  key : again.caller.idempotencyKey = call.caller.idempotencyKey
  version : again.versionId = call.versionId
  build : again.buildId = call.buildId
  request : again.request = call.request

/-- What the request refers to is as it was: its version and build, the settings, the active revision
of the policy that it is bound to, and its queue. -/
structure Unchanged (call : Call) (site site' : Site e) : Prop where
  version : site'.store.tables.plane.directory.agentVersions.get? call.versionId =
    site.store.tables.plane.directory.agentVersions.get? call.versionId
  build : ∀ version, buildReady site'.store.tables.plane call.versionId call.buildId version =
    buildReady site.store.tables.plane call.versionId call.buildId version
  settings : site'.settings = site.settings
  policy : ∀ project policyId, call.request.egressPolicy = some policyId →
    site'.activePolicy project policyId = site.activePolicy project policyId
  queue : ∀ project queueId, call.request.surface = .requestQueue queueId →
    site'.queueExists project queueId = site.queueExists project queueId

theorem intent_congr {settings : Settings e} {rows rows' : ProjectRows e} {version : Version}
    {request : CreateRunRequest} (hbuild : rows'.buildReady = rows.buildReady)
    (hpolicy : ∀ policyId, request.egressPolicy = some policyId →
      rows'.activePolicy policyId = rows.activePolicy policyId)
    (hqueue : ∀ queueId, request.surface = .requestQueue queueId →
      rows'.queueExists queueId = rows.queueExists queueId) :
    RunIntents.createRun settings rows' version request =
      RunIntents.createRun settings rows version request := by
  have hbound : boundPolicy settings rows' version request = boundPolicy settings rows version request := by
    unfold boundPolicy
    cases hegress : request.egressPolicy with
    | none => rfl
    | some policyId => simp only [resolveRunEgressPolicy, hpolicy policyId hegress]
  have hsurface : ∀ bound, surfacePlan settings rows' version bound request.input request.surface =
      surfacePlan settings rows version bound request.input request.surface := by
    intro bound
    cases hcase : request.surface with
    | requestQueue queueId => simp only [surfacePlan, queuePlan, hqueue queueId hcase]
    | _ => rfl
  simp only [RunIntents.createRun, hbuild, hbound, hsurface]

theorem resolve_unchanged {site site' : Site e} {call again : Call} (hrepeats : Repeats call again)
    (h : Unchanged call site site') : resolve r site' again = resolve r site call := by
  have hintent : ∀ version, RunIntents.createRun site'.settings (projectRows site' again version)
        ⟨call.versionId, r.manifest version.manifest⟩ again.request =
      RunIntents.createRun site.settings (projectRows site call version)
        ⟨call.versionId, r.manifest version.manifest⟩ call.request := by
    intro version
    rw [hrepeats.request, h.settings]
    apply intent_congr
    · simp only [projectRows, hrepeats.version, hrepeats.build]
      exact h.build version
    · exact fun policyId => h.policy version.projectId policyId
    · exact fun queueId => h.queue version.projectId queueId
  simp only [resolve, hintent, hrepeats.version, h.version]

theorem createRun_again {site site' : Site e} {call again : Call} {s : Store} {snapshot : Json}
    (h : createRun r site call = .ok (s, snapshot)) (hrepeats : Repeats call again)
    (hunchanged : Unchanged call site site')
    (hkept : ∀ key fingerprint, Kept key fingerprint snapshot s →
      Kept key fingerprint snapshot site'.store) :
    createRun r site' again = .ok (site'.store, snapshot) := by
  obtain ⟨version, intent, hresolve, hkey, hbuild, hfirst⟩ := createRun_kept h
  have hsame : idempotencyKey d again.caller version.organizationId runsEndpoint =
      idempotencyKey d call.caller version.organizationId runsEndpoint := by
    simp only [idempotencyKey, hrepeats.principal, hrepeats.key]
  have hresolve' : resolve r site' again = .ok (version, intent) :=
    (resolve_unchanged hrepeats hunchanged).trans hresolve
  have hthere := hkept _ _ hfirst
  have hfingerprint : d.canonicalFingerprint (runPlan r again intent).intent =
      fingerprintOf e call intent := by
    rw [fingerprintOf, ← hrepeats.version, ← hrepeats.build]
    exact r.fingerprint_eq _
  obtain ⟨id, hreplay⟩ := replay_again hthere
  rw [← hfingerprint, ← hsame] at hreplay
  rw [← hrepeats.key] at hkey
  have hready : buildReady site'.store.tables.plane again.versionId again.buildId version = some true := by
    rw [hrepeats.version, hrepeats.build, hunchanged.build]
    exact hbuild
  have hadmitted := admitRun_replays (resolve_ok hresolve').1 hkey hready hreplay
  have hsnapshot : keptSnapshot (d := d) site' again version = some snapshot := by
    rw [keptSnapshot, hsame]
    exact hthere.snapshot
  rw [createRun, hresolve']
  exact bind_ok.2 ⟨_, hadmitted, bind_ok.2 ⟨(version, intent), rfl,
    bind_ok.2 ⟨snapshot, demand_ok.2 hsnapshot, rfl⟩⟩⟩

/-- After a request was answered, whatever happens: no request in the scope of its key writes
anything or is answered otherwise, whether its payload is the same or not, and the same request is
answered so again if what it refers to is as it was. -/
theorem creation_replayed (r : Rendering d e) (site : Site e) (call : Call) (s : Store) (snapshot : Json)
    (h : createRun r site call = .ok (s, snapshot)) (moves : List (Move e)) (again : Call) :
    let site' := exec (next r) { site with store := s } moves
    (scope d site' again = scope d site call →
      (next r site' (.create again)).store = site'.store ∧
        ∀ s' answer, createRun r site' again = .ok (s', answer) → answer = snapshot) ∧
    (Repeats call again → Unchanged call site site' →
      createRun r site' again = .ok (site'.store, snapshot)) := by
  intro site'
  have hkept : ∀ key fingerprint, Kept key fingerprint snapshot s →
      Kept key fingerprint snapshot site'.store := by
    intro key fingerprint hfirst
    have hstart : Kept key fingerprint snapshot ({ site with store := s } : Site e).store := hfirst
    exact run_kept hstart moves
  refine ⟨fun hscope => ?_, fun hrepeats hunchanged => createRun_again h hrepeats hunchanged hkept⟩
  obtain ⟨version, intent, hresolve, -, -, hfirst⟩ := createRun_kept h
  have hkey : scope d site' again =
      some (idempotencyKey d call.caller version.organizationId runsEndpoint) := by
    rw [hscope, scope, (resolve_ok hresolve).1]
    rfl
  have hthere := hkept _ _ hfirst
  constructor
  · exact commit_cases (P := fun st => st = site'.store) rfl
      (fun s' answer hok => (createRun_answers hthere hkey hok).1)
  · exact fun s' answer hok => (createRun_answers hthere hkey hok).2

end Replays

section Disabled
open CapabilityAgreement (smallEncoding smallSettings smallResources smallCapabilities silentCodec)

/-- Fingerprints as texts, so that documents are rendered by them. -/
def textDeployment : Deployment :=
  { plainDeployment with
    canonicalFingerprint := fun
      | .text s => s
      | _ => "" }

def textRendering : Rendering textDeployment (smallEncoding silentCodec) where
  value := fun document => .text ((smallEncoding silentCodec).canonicalFingerprint document)
  payload := fun _ => []
  manifest := fun _ => [("capabilities", smallCapabilities "web-egress" false),
    ("resources", smallResources), ("secrets", .list [])]
  isoformat := fun _ => ""
  fingerprint_eq := fun _ => rfl

def exampleRevision : PolicyRevision (smallEncoding silentCodec) where
  id := 3
  policyId := 2
  revisionNumber := 1
  allowedHosts := ["example.org"]
  allowedMethods := ["GET"]
  limits := ⟨1, 65536, 65536, 0, 1, 1⟩
  policyDigest := (smallEncoding silentCodec).canonicalFingerprint
    (EgressBindings.canonicalPolicy ["example.org"] ["GET"] ⟨1, 65536, 65536, 0, 1, 1⟩)
  credentialConfigured := false
  numbered := by decide
  hosts_ascii := fun host _ => ⟨host, rfl⟩
  hosts_sorted := by decide
  methods_known := by decide
  methods_sorted := by decide
  limits_least := by decide

def readyBuild : Build where
  organizationId := 1
  projectId := 1
  agentId := 1
  agentVersionId := 1
  sourceObjectId := some 1
  status := .succeeded
  artifactDigest := some "image"
  errorCode := none
  errorMessage := none
  startedAt := none
  completedAt := none
  version := 1

def startTables : Tables where
  plane := { ExecutionSystem.initial RunOutcomes.sampleDirectory with
    builds := RunOutcomes.single readyBuild }
  runEvents := .empty
  webhooks := ⟨.empty, .empty, .empty⟩

/-- One build, and one policy with its active revision. -/
def exampleSite : Site (smallEncoding silentCodec) where
  store := ⟨startTables, .empty, []⟩
  settings := smallSettings silentCodec
  activePolicy := fun _ policyId => if policyId = 2 then some (some exampleRevision) else none
  queueExists := fun _ _ => false

/-- A fetch from the host that the policy allows. -/
def exampleCall : Call where
  caller := ⟨1, "idempotency-key", 0⟩
  actorType := "user"
  actorId := none
  versionId := 1
  buildId := 1
  request :=
    { input := []
      surface := .webFetch [⟨"page", "GET", "example.org"⟩]
      egressPolicy := some 2
      runtime := ⟨none, none, none⟩
      policy_surface := fun _ => nofun
      reserved := nofun }
  runId := 5
  commandId := 6
  emission :=
    { requestId := "request"
      alnum := Char.isAlphanum
      now := 0
      eventId := 7
      deliveryId := fun n => n
      listed := .empty
      visible := fun _ => ⟨.empty, .empty⟩ }

theorem exampleCall_ok : (createRun textRendering exampleSite exampleCall).isOk = true := by
  decide +kernel

/-- The policy is disabled. -/
def policyDisabled : Move (smallEncoding silentCodec) :=
  .configure (smallSettings silentCodec) (fun _ _ => none) (fun _ _ => false)

def firstAnswer : Store × Json := okValue _ exampleCall_ok

theorem firstAnswer_ok : createRun textRendering exampleSite exampleCall = .ok firstAnswer :=
  okValue_eq _ exampleCall_ok

def disabledSite : Site (smallEncoding silentCodec) :=
  exec (next textRendering) { exampleSite with store := firstAnswer.1 } [policyDisabled]

/-- The same request writes nothing once its policy is disabled. -/
theorem disabled_nothing_written :
    (next textRendering disabledSite (.create exampleCall)).store = disabledSite.store := by
  have hscope : scope textDeployment disabledSite exampleCall =
      scope textDeployment exampleSite exampleCall := by decide +kernel
  exact ((creation_replayed textRendering exampleSite exampleCall firstAnswer.1 firstAnswer.2
    firstAnswer_ok [policyDisabled] exampleCall).1 hscope).1

/-- The status and the code of an `ApiError`. -/
def apiCode {α : Type} : Except Failure α → Option (ℕ × String)
  | .error (.api statusCode code _ _) => some (statusCode, code)
  | _ => none

/-- A request was answered, its policy is disabled, and the same request is not answered again. -/
theorem disabled_policy_not_replayed :
    createRun textRendering exampleSite exampleCall = .ok firstAnswer ∧
      apiCode (createRun textRendering disabledSite exampleCall) =
        some (404, "RESOURCE_NOT_FOUND") := by
  refine ⟨firstAnswer_ok, ?_⟩
  decide +kernel

end Disabled

end RoozDataCloud.RunReplays
