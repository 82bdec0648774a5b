import RoozDataCloud.RunRequests
import RoozDataCloud.WebhookModels
import RoozDataCloud.SessionSteps

set_option autoImplicit false

/-!
# Creating a run in an open session

The creation of a run statement by statement: the run and its start command, the
first run event, the `run.created` event with a delivery for every destination
that takes it, and last the idempotency record. Under READ COMMITTED every
statement sees the webhook destinations as they are committed at that moment.
-/
namespace RoozDataCloud.RunCreation
open KeyedTable NumberedLog ExecutionModels WebhookModels WorkClaims LeaseRequests
open FallibleSteps hiding bind_ok bind_error pure_ok pure_error
open SessionSteps hiding pure_ok pure_error
open RunRequests hiding createRun

structure RunEvent where
  eventType : String
  payload : Payload

/-- The tables that the creation of a run reads and writes. Run events are numbered per run. -/
structure Tables where
  plane : State
  runEvents : Log Uuid RunEvent
  webhooks : WebhookTables

structure EventDefinition where
  subjectType : String
  payloadKeys : List String
  allowedStatuses : List String

def eventDefinitions : List (String × EventDefinition) :=
  [ ("build.created",
      { subjectType := "build"
        payloadKeys := ["agent_id", "agent_version_id", "status"]
        allowedStatuses := ["QUEUED"] }),
    ("run.created",
      { subjectType := "run"
        payloadKeys := ["agent_id", "agent_version_id", "build_id", "status"]
        allowedStatuses := ["DRAFT", "QUEUED"] }) ]

def envelopeInvalid : Failure :=
  apiError 422 "EVENT_ENVELOPE_INVALID" "The event envelope is invalid."

def isIdentifier : Value → Bool
  | .uuid _ => true
  | _ => false

def statusAllowed (definition : EventDefinition) : Value → Bool
  | .text status => decide (status ∈ definition.allowedStatuses)
  | _ => false

def validateEventPayload (eventType subjectType : String) (payload : Payload) :
    Except Failure Payload := do
  let definition ← demand (eventDefinitions.lookup eventType) envelopeInvalid
  require (subjectType = definition.subjectType) envelopeInvalid
  require ((∀ key ∈ payload.map Prod.fst, key ∈ definition.payloadKeys) ∧
    ∀ key ∈ definition.payloadKeys, key ∈ payload.map Prod.fst) envelopeInvalid
  require (statusAllowed definition (read payload "status")) envelopeInvalid
  require (∀ key ∈ definition.payloadKeys, key ≠ "status" → isIdentifier (read payload key))
    envelopeInvalid
  -- The bounds on nesting, strings and bytes hold of every payload that has this shape.
  pure payload

/-- One emission: its request, the identifiers it draws, and the destinations that its statements
see. `alnum` is `str.isalnum`. -/
structure Emission where
  requestId : String
  alnum : Char → Bool
  now : Time
  eventId : Uuid
  deliveryId : ℕ → Uuid
  listed : Table Uuid WebhookDestination
  visible : ℕ → Visible

def requestIdValid (emission : Emission) : Bool :=
  decide (1 ≤ emission.requestId.length) && decide (emission.requestId.length ≤ 100) &&
    emission.requestId.toList.all (fun c => emission.alnum c || decide (c ∈ ['.', '_', '-']))

/-- `ck_events_request_id`. -/
def storableRequestId (requestId : String) : Bool :=
  match requestId.toList with
  | [] => false
  | c :: rest => c.isAlphanum && decide (rest.length ≤ 99) &&
    rest.all (fun c => c.isAlphanum || decide (c ∈ ['.', '_', '-']))

def sameSubject (event event' : Event) : Bool :=
  event.projectId = event'.projectId && event.eventType = event'.eventType &&
    event.subjectType = event'.subjectType && event.subjectId = event'.subjectId

def insertEvent (t : Tables) (eventId : Uuid) (event : Event) : Except Failure Tables := do
  require ((t.plane.directory.projects.get? event.projectId).any (·.deletedAt = none))
    (.integrity "Event project reference is invalid")
  require (storableRequestId event.requestId) (.integrity "ck_events_request_id")
  require (∀ row ∈ t.webhooks.events.rows, sameSubject row.2 event = false)
    (.integrity "uq_events_project_type_subject")
  let events ← demand (t.webhooks.events.insert? eventId event) (.integrity "events_pkey")
  pure { t with webhooks := { t.webhooks with events := events } }

def matchingDestinations (emission : Emission) (projectId : Uuid) (eventType : String) :
    List Uuid :=
  (emission.listed.select (fun _ destination => destination.projectId = projectId &&
    destination.status = .active && decide (eventType ∈ destination.eventTypes))).map Prod.fst

def enqueueFor (emission : Emission) (projectId : Uuid) (item : Uuid × ℕ) (t : Tables) :
    Except Failure Tables := do
  let (webhooks, _) ← enqueueWebhookDelivery t.webhooks (emission.visible item.2) projectId item.1
    emission.eventId (emission.deliveryId item.2) 5 emission.now
  pure { t with webhooks := webhooks }

def emittedEvent (emission : Emission) (organizationId projectId : Uuid)
    (eventType subjectType : String) (subjectId : Uuid) (payload : Payload) : Event where
  organizationId := organizationId
  projectId := projectId
  eventType := eventType
  subjectType := subjectType
  subjectId := subjectId
  payload := payload
  requestId := emission.requestId
  occurredAt := emission.now

/-- `emit_event`, with `idempotent=False` as both of its callers have it. -/
def emitEvent (emission : Emission) (organizationId projectId : Uuid)
    (eventType subjectType : String) (subjectId : Uuid) (payload : Payload) :
    EStateM Failure Tables Unit := do
  let payload ← query (fun _ => validateEventPayload eventType subjectType payload)
  query (fun _ => require (requestIdValid emission) envelopeInvalid)
  write (fun t => insertEvent t emission.eventId
    (emittedEvent emission organizationId projectId eventType subjectType subjectId payload))
  (matchingDestinations emission projectId eventType).zipIdx.forM
    (fun item => write (enqueueFor emission projectId item))

/-- A run that is to be written: nothing is known under its idempotency key. -/
structure NewRun where
  version : AgentVersion
  plan : RunPlan
  key : IdempotencyKey
  fingerprint : String

/-- Everything that is checked before the first row is written. -/
def admitRun (d : Deployment) (st : State) (caller : Caller) (versionId buildId : Uuid)
    (plan : Except Failure RunPlan) : Except Failure (Uuid ⊕ NewRun) := do
  let version ← demand (st.directory.agentVersions.get? versionId) missingResource
  let _ ← validateIdempotencyKey caller.idempotencyKey
  let build ← demand (st.builds.get? buildId) missingResource
  require (buildOf versionId version build) missingResource
  require (build.status = .succeeded ∧ build.artifactDigest.isSome) (apiError 409 "BUILD_NOT_READY"
    "A successful Build artifact is required before creating a Run.")
  let plan ← plan
  let fingerprint := d.canonicalFingerprint plan.intent
  let key := idempotencyKey d caller version.organizationId
    "POST:/api/v1/agent-versions/\x7bversion_id\x7d/runs"
  match ← replay st key fingerprint with
  | some id => pure (.inl id)
  | none => pure (.inr { version := version, plan := plan, key := key, fingerprint := fingerprint })

def initialStatus (plan : RunPlan) : Value := .text (if plan.receiptOnly then "DRAFT" else "QUEUED")

def createdPayload (run : Run) (plan : RunPlan) : Payload :=
  [("agent_id", .uuid run.agentId), ("agent_version_id", .uuid run.agentVersionId),
    ("build_id", .uuid run.buildId), ("status", initialStatus plan)]

/-- `append_run_event` for the event of a new run, whose type is persisted and whose payload is
its own sanitized form. -/
def appendStatusEvent (t : Tables) (runId : Uuid) (plan : RunPlan) : Tables :=
  { t with
    runEvents := append t.runEvents runId
      { eventType := "run.status"
        payload := [("previous_status", .null), ("status", initialStatus plan)] } }

def onPlane (f : State → Except Failure State) (t : Tables) : Except Failure Tables := do
  let plane ← f t.plane
  pure { t with plane := plane }

def writeRun (versionId buildId runId commandId : Uuid) (now : Time) (new : NewRun) (t : Tables) :
    Except Failure Tables := do
  let t ← onPlane (fun st => insertRun st runId commandId
    (requestedRun versionId new.version buildId new.plan) new.plan now) t
  pure (appendStatusEvent t runId new.plan)

def createRun (d : Deployment) (caller : Caller) (versionId buildId : Uuid)
    (plan : Except Failure RunPlan) (runId commandId : Uuid) (emission : Emission) :
    EStateM Failure Tables Uuid := do
  match ← query (fun t => admitRun d t.plane caller versionId buildId plan) with
  | .inl id => pure id
  | .inr new => do
    let run := requestedRun versionId new.version buildId new.plan
    write (writeRun versionId buildId runId commandId caller.now new)
    emitEvent emission run.organizationId run.projectId "run.created" "run" runId
      (createdPayload run new.plan)
    write (onPlane (fun st => remember st new.key new.fingerprint runId))
    pure runId

theorem onPlane_ok {f : State → Except Failure State} {t t' : Tables} :
    onPlane f t = .ok t' ↔ ∃ plane, f t.plane = .ok plane ∧ { t with plane := plane } = t' := by
  simp only [onPlane, FallibleSteps.bind_ok, FallibleSteps.pure_ok]

theorem insertEvent_plane {t t' : Tables} {eventId : Uuid} {event : Event}
    (h : insertEvent t eventId event = .ok t') : t'.plane = t.plane := by
  simp only [insertEvent, FallibleSteps.bind_ok, FallibleSteps.pure_ok] at h
  obtain ⟨-, -, -, -, -, -, events, -, rfl⟩ := h
  rfl

theorem enqueueFor_plane {emission : Emission} {projectId : Uuid} {item : Uuid × ℕ} {t t' : Tables}
    (h : enqueueFor emission projectId item t = .ok t') : t'.plane = t.plane := by
  simp only [enqueueFor, FallibleSteps.bind_ok, FallibleSteps.pure_ok] at h
  obtain ⟨⟨webhooks, id⟩, -, rfl⟩ := h
  rfl

theorem emitEvent_plane {emission : Emission} {organizationId projectId subjectId : Uuid}
    {eventType subjectType : String} {payload : Payload} {t t' : Tables}
    (h : emitEvent emission organizationId projectId eventType subjectType subjectId payload t =
      .ok () t') : t'.plane = t.plane := by
  simp only [emitEvent, bind_ok, query_ok, write_ok] at h
  obtain ⟨valid, _, ⟨-, rfl⟩, _, _, ⟨-, rfl⟩, _, mid, hinsert, hloop⟩ := h
  refine forM_rule (fun t' _ => t'.plane = t.plane) (fun s s' item _ hs hstep => ?_) _ mid t'
    (insertEvent_plane hinsert) hloop
  exact (enqueueFor_plane (write_ok.1 hstep)).trans hs

/-- A run that is created is created as the request that does it in one transaction creates it. -/
theorem createRun_refines {d : Deployment} {caller : Caller} {versionId buildId runId commandId id : Uuid}
    {plan : Except Failure RunPlan} {emission : Emission} {t t' : Tables}
    (h : createRun d caller versionId buildId plan runId commandId emission t = .ok id t') :
    RunRequests.createRun d t.plane caller versionId buildId plan runId commandId =
      .ok (t'.plane, id) := by
  simp only [createRun, bind_ok, query_ok] at h
  obtain ⟨admitted, _, ⟨hadmission, rfl⟩, hrest⟩ := h
  simp only [admitRun, FallibleSteps.bind_ok] at hadmission
  obtain ⟨version, hversion, u, hkey, build, hbuild, u', hof, u'', hready, chosen, hplan, found,
    hreplay, hadmitted⟩ := hadmission
  simp only [RunRequests.createRun, FallibleSteps.bind_ok]
  refine ⟨version, hversion, u, hkey, build, hbuild, u', hof, u'', hready, chosen, hplan, found,
    hreplay, ?_⟩
  cases found with
  | some known =>
    obtain rfl := FallibleSteps.pure_ok.1 hadmitted
    obtain ⟨rfl, rfl⟩ := SessionSteps.pure_ok.1 hrest
    rfl
  | none =>
    obtain rfl := FallibleSteps.pure_ok.1 hadmitted
    simp only [bind_ok, write_ok, SessionSteps.pure_ok, onPlane_ok] at hrest
    obtain ⟨_, mid, hwrite, _, emitted, hemit, _, _, ⟨plane, hremember, rfl⟩, rfl, rfl⟩ := hrest
    simp only [writeRun, FallibleSteps.bind_ok, FallibleSteps.pure_ok, onPlane_ok] at hwrite
    obtain ⟨_, ⟨inserted, hinsert, rfl⟩, rfl⟩ := hwrite
    rw [emitEvent_plane hemit] at hremember
    simp only [FallibleSteps.bind_ok, FallibleSteps.pure_ok]
    exact ⟨inserted, hinsert, plane, hremember, rfl⟩

end RoozDataCloud.RunCreation
