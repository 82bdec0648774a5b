import RoozDataCloud.RunCreation
import RoozDataCloud.ExecutionSystem

set_option autoImplicit false

/-!
# Schedules and the dispatch sweep

A sweep is one transaction over all schedules it selects. An `ApiError` or a
validation error of one schedule is caught and recorded as a `FAILED` trigger;
the sweep goes on in the same session. Any other error ends the sweep.
-/
namespace RoozDataCloud.Schedules
open KeyedTable NumberedLog ExecutionModels WebhookModels RunCreation
open FallibleSteps hiding bind_ok bind_error pure_ok pure_error
open RunRequests hiding createRun

inductive ScheduleStatus where
  | active | paused | completed
  deriving DecidableEq

inductive CadenceKind where
  | once | interval
  deriving DecidableEq

inductive MissedRunPolicy where
  | skip | fireOnce
  deriving DecidableEq

structure Schedule where
  organizationId : Uuid
  projectId : Uuid
  agentVersionId : Uuid
  name : String
  status : ScheduleStatus
  cadenceKind : CadenceKind
  startsAt : Time
  intervalSeconds : Option ℕ
  missedRunPolicy : MissedRunPolicy
  misfireGraceSeconds : ℕ
  runPayload : Payload
  nextFireAt : Option Time
  lastTriggeredAt : Option Time
  firedCount : ℕ
  skippedCount : ℕ
  failedCount : ℕ
  createdByUserId : Uuid
  version : ℕ

inductive TriggerOutcome where
  | fired | skipped | failed
  deriving DecidableEq

structure ScheduleTrigger where
  runId : Option Uuid
  observedAt : Time
  outcome : TriggerOutcome
  reason : String
  errorCode : Option String

/-- Triggers are unique per schedule and scheduled instant. -/
structure Session where
  tables : Tables
  schedules : Table Uuid Schedule
  triggers : Table (Uuid × Time) ScheduleTrigger

structure CreateRunRequest where
  buildId : Uuid
  intent : Payload

/-- What the scheduler calls outside the database: `datetime.isoformat`, `str` of an identifier,
`str.isalnum` of a character, and the validation of a stored template. -/
structure Platform where
  isoformat : Time → String
  uuidText : Uuid → String
  alnum : Char → Bool
  validateRunRequest : Payload → Option CreateRunRequest

/-- A validated request; its fields say what validation guarantees. `document` is its dump. -/
structure CreateScheduleRequest where
  name : String
  cadenceKind : CadenceKind
  startsAt : Time
  intervalSeconds : Option ℕ
  missedRunPolicy : MissedRunPolicy
  misfireGraceSeconds : ℕ
  buildId : Uuid
  runPayload : Payload
  document : Payload
  interval_bounds : ∀ n, intervalSeconds = some n → 60 ≤ n ∧ n ≤ 31536000
  grace_bounds : 60 ≤ misfireGraceSeconds ∧ misfireGraceSeconds ≤ 86400
  interval_iff : intervalSeconds.isSome ↔ cadenceKind = .interval

def requestedSchedule (userId versionId : Uuid) (version : AgentVersion)
    (request : CreateScheduleRequest) : Schedule where
  organizationId := version.organizationId
  projectId := version.projectId
  agentVersionId := versionId
  name := request.name
  status := .active
  cadenceKind := request.cadenceKind
  startsAt := request.startsAt
  intervalSeconds := request.intervalSeconds
  missedRunPolicy := request.missedRunPolicy
  misfireGraceSeconds := request.misfireGraceSeconds
  runPayload := request.runPayload
  nextFireAt := some request.startsAt
  lastTriggeredAt := none
  firedCount := 0
  skippedCount := 0
  failedCount := 0
  createdByUserId := userId
  version := 1

def createSchedule (d : Deployment) (s : Session) (caller : Caller) (versionId scheduleId : Uuid)
    (request : CreateScheduleRequest) : Except Failure (Session × Uuid) := do
  let st := s.tables.plane
  let version ← demand (st.directory.agentVersions.get? versionId) missingResource
  let _ ← validateIdempotencyKey caller.idempotencyKey
  let build ← demand (st.builds.get? request.buildId) missingResource
  require (buildOf versionId version build) missingResource
  require (build.status = .succeeded ∧ build.artifactDigest.isSome) (apiError 409 "BUILD_NOT_READY"
    "A successful Build artifact is required before scheduling Runs.")
  let fingerprint := d.canonicalFingerprint (.object [("agent_version_id", .uuid versionId),
    ("schedule", .object request.document)])
  let key := idempotencyKey d caller version.organizationId
    "POST:/api/v1/agent-versions/\x7bversion_id\x7d/schedules"
  match ← replay st key fingerprint with
  | some id => pure (s, id)
  | none => do
    require ((s.schedules.find? (fun _ schedule => schedule.projectId = version.projectId &&
        schedule.name = request.name)).isNone)
      (apiError 409 "SCHEDULE_ALREADY_EXISTS"
        "A schedule with that name already exists in the project.")
    let schedules ← demand (s.schedules.insert? scheduleId
      (requestedSchedule caller.userId versionId version request)) (.integrity "schedules_pkey")
    let plane ← remember st key fingerprint scheduleId
    pure ({ s with schedules := schedules, tables := { s.tables with plane := plane } }, scheduleId)

def setStatus (target : ScheduleStatus) (record : Schedule) : Schedule :=
  { record with status := target, version := record.version + 1 }

def setSchedulePaused (s : Session) (scheduleId : Uuid) (paused : Bool) :
    Except Failure (Session × Unit) := do
  let record ← demand (s.schedules.get? scheduleId) missingResource
  require (record.status ≠ .completed) (apiError 409 "SCHEDULE_COMPLETED"
    "A completed one-time schedule cannot be resumed or paused.")
  let target := if paused then ScheduleStatus.paused else .active
  if record.status = target then pure (s, ())
  else pure ({ s with schedules := s.schedules.modify scheduleId (setStatus target) }, ())

/-- Instants are whole microseconds here, so the catch-up is exact. -/
def advanceSchedule (record : Schedule) (scheduledFor now : Time) : Except Failure Schedule :=
  match record.cadenceKind with
  | .once => .ok { record with status := .completed, nextFireAt := none }
  | .interval =>
    match record.intervalSeconds with
    | none => .error (.value "Recurring schedule is missing its interval")
    | some interval =>
      let elapsed := now - scheduledFor
      let jumps := elapsed / seconds interval + 1
      .ok { record with nextFireAt := some (scheduledFor + jumps * seconds interval) }

/-- What firing a schedule can raise. -/
inductive Raised where
  | request (failure : Failure)
  | validation

/-- The error code of a trigger, for the errors that the sweep catches. -/
def rejectionCode : Raised → Option String
  | .request (.api _ code _ _) => some code
  | .request _ => none
  | .validation => some "SCHEDULE_RUN_PAYLOAD_INVALID"

/-- One attempt to create the run of a schedule: its clock, the outcome of the checks of the run's
intent, the identifiers it draws, and the webhook destinations its statements see. -/
structure Attempt where
  now : Time
  plan : CreateRunRequest → Except Failure RunPlan
  runId : Uuid
  commandId : Uuid
  eventId : Uuid
  deliveryId : ℕ → Uuid
  listed : Table Uuid WebhookDestination
  visible : ℕ → Visible

/-- One sweep. `locked` are the schedules that other transactions hold, which it skips. -/
structure Sweep where
  now : Time
  batchSize : ℕ
  requestId : String
  acquired : Bool
  locked : Uuid → Bool
  attempt : Uuid → Attempt

def runKey (p : Platform) (id : Uuid) (scheduledFor : Time) : String :=
  "schedule:" ++ p.uuidText id ++ ":" ++ p.isoformat scheduledFor

def scheduleEmission (p : Platform) (sweep : Sweep) (id : Uuid) : Emission where
  requestId := sweep.requestId
  alnum := p.alnum
  now := (sweep.attempt id).now
  eventId := (sweep.attempt id).eventId
  deliveryId := (sweep.attempt id).deliveryId
  listed := (sweep.attempt id).listed
  visible := (sweep.attempt id).visible

def scheduleCaller (p : Platform) (sweep : Sweep) (id : Uuid) (record : Schedule)
    (scheduledFor : Time) : Caller where
  userId := record.createdByUserId
  idempotencyKey := runKey p id scheduledFor
  now := (sweep.attempt id).now

/-- Everything the sweep does under `try`. -/
def fireSchedule (p : Platform) (d : Deployment) (sweep : Sweep) (id : Uuid) (record : Schedule)
    (scheduledFor : Time) : EStateM Raised Tables Uuid := do
  SessionSteps.query (fun t => require
    ((t.plane.directory.agentVersions.get? record.agentVersionId).any
      (·.organizationId = record.organizationId))
    (Raised.request (apiError 409 "SCHEDULE_VERSION_UNAVAILABLE"
      "The immutable Agent version is unavailable.")))
  let request ← SessionSteps.query (fun _ => demand (p.validateRunRequest record.runPayload)
    Raised.validation)
  EStateM.adaptExcept .request (createRun d (scheduleCaller p sweep id record scheduledFor)
    record.agentVersionId request.buildId ((sweep.attempt id).plan request)
    (sweep.attempt id).runId (sweep.attempt id).commandId (scheduleEmission p sweep id))

def firedTrigger (now : Time) (missed : Bool) (runId : Uuid) : ScheduleTrigger where
  runId := some runId
  observedAt := now
  outcome := .fired
  reason := if missed then "MISSED_FIRE_ONCE" else "DUE"
  errorCode := none

def skippedTrigger (now : Time) : ScheduleTrigger where
  runId := none
  observedAt := now
  outcome := .skipped
  reason := "MISSED_WINDOW"
  errorCode := none

def failedTrigger (now : Time) (code : String) : ScheduleTrigger where
  runId := none
  observedAt := now
  outcome := .failed
  reason := "RUN_CREATION_REJECTED"
  errorCode := some code

def counted (outcome : TriggerOutcome) (record : Schedule) : Schedule :=
  match outcome with
  | .fired => { record with firedCount := record.firedCount + 1 }
  | .skipped => { record with skippedCount := record.skippedCount + 1 }
  | .failed => { record with failedCount := record.failedCount + 1 }

def touched (now : Time) (record : Schedule) : Schedule :=
  { record with lastTriggeredAt := some now, version := record.version + 1 }

def saveSchedule (s : Session) (id : Uuid) (record : Schedule) : Session :=
  { s with schedules := s.schedules.modify id (fun _ => record) }

def recordTrigger (s : Session) (id : Uuid) (record : Schedule) (scheduledFor : Time)
    (trigger : ScheduleTrigger) : EStateM.Result Raised Session (Option TriggerOutcome) :=
  match s.triggers.insert? (id, scheduledFor) trigger with
  | none => .error (.request (.integrity "uq_schedule_triggers_schedule_instant")) s
  | some triggers =>
    .ok (some trigger.outcome)
      { saveSchedule s id (counted trigger.outcome record) with triggers := triggers }

def isMissed (record : Schedule) (scheduledFor now : Time) : Bool :=
  decide (scheduledFor + seconds record.misfireGraceSeconds < now)

/-- What the sweep does with the outcome of an attempt. -/
def recordAttempt (now : Time) (s : Session) (id : Uuid) (record : Schedule) (scheduledFor : Time) :
    EStateM.Result Raised Tables Uuid → EStateM.Result Raised Session (Option TriggerOutcome)
  | .ok runId tables =>
    recordTrigger { s with tables := tables } id record scheduledFor
      (firedTrigger now (isMissed record scheduledFor now) runId)
  | .error e tables =>
    match rejectionCode e with
    | some code =>
      recordTrigger { s with tables := tables } id record scheduledFor (failedTrigger now code)
    | none => .error e { s with tables := tables }

/-- One round of the sweep, for any way `fire` of creating the run. -/
def processSchedule (fire : Uuid → Schedule → Time → EStateM Raised Tables Uuid) (now : Time)
    (row : Uuid × Schedule) : EStateM Raised Session (Option TriggerOutcome) := fun s =>
  match row.2.nextFireAt with
  | none => .ok none s
  | some scheduledFor =>
    match advanceSchedule row.2 scheduledFor now with
    | .error e => .error (.request e) s
    | .ok advanced =>
      let record := touched now advanced
      let s := saveSchedule s row.1 record
      if (s.triggers.get? (row.1, scheduledFor)).isSome then .ok none s
      else if isMissed record scheduledFor now && record.missedRunPolicy = .skip then
        recordTrigger s row.1 record scheduledFor (skippedTrigger now)
      else
        recordAttempt now s row.1 record scheduledFor (fire row.1 record scheduledFor s.tables)

def dispatchOrder (a b : Uuid × Schedule) : Bool :=
  match a.2.nextFireAt, b.2.nextFireAt with
  | some x, some y => decide (x < y) || (decide (x = y) && decide (a.1 ≤ b.1))
  | _, _ => true

def isDue (now : Time) (record : Schedule) : Bool :=
  record.status = .active && record.nextFireAt.any (fun next => decide (next ≤ now))

def dueSchedules (s : Session) (sweep : Sweep) : List (Uuid × Schedule) :=
  ((s.schedules.select (fun id record => isDue sweep.now record && !sweep.locked id)).insertionSort
    (fun a b => dispatchOrder a b)).take sweep.batchSize

structure ScheduleDispatchResult where
  acquired : Bool
  examined : ℕ
  fired : ℕ
  skipped : ℕ
  failed : ℕ

def dispatchResult (outcomes : List (Option TriggerOutcome)) : ScheduleDispatchResult where
  acquired := true
  examined := outcomes.length
  fired := outcomes.count (some .fired)
  skipped := outcomes.count (some .skipped)
  failed := outcomes.count (some .failed)

def dispatchWith (fire : Uuid → Schedule → Time → EStateM Raised Tables Uuid) (sweep : Sweep) :
    EStateM Raised Session ScheduleDispatchResult := do
  SessionSteps.query (fun _ => require (1 ≤ sweep.batchSize ∧ sweep.batchSize ≤ 500)
    (Raised.request (.value "Schedule dispatch batch size must be between 1 and 500.")))
  if sweep.acquired then
    let rows ← SessionSteps.query (fun s => .ok (dueSchedules s sweep))
    let outcomes ← rows.mapM (processSchedule fire sweep.now)
    pure (dispatchResult outcomes)
  else pure { acquired := false, examined := 0, fired := 0, skipped := 0, failed := 0 }

def dispatchDueSchedules (p : Platform) (d : Deployment) (sweep : Sweep) :
    EStateM Raised Session ScheduleDispatchResult :=
  dispatchWith (fireSchedule p d sweep) sweep

/-- The state that the transaction commits, or the old one when it raised. -/
def committed (s : Session) (x : EStateM Raised Session ScheduleDispatchResult) : Session :=
  match x s with
  | .ok _ s' => s'
  | .error _ _ => s

inductive Op where
  | plane (op : ExecutionSystem.Op)
  | createSchedule (caller : Caller) (versionId scheduleId : Uuid)
      (request : CreateScheduleRequest)
  | setSchedulePaused (scheduleId : Uuid) (paused : Bool)
  | dispatchDueSchedules (sweep : Sweep)

def step (p : Platform) (d : Deployment) (s : Session) : Op → Session
  | .plane op => { s with tables := { s.tables with plane := ExecutionSystem.step d s.tables.plane op } }
  | .createSchedule caller versionId scheduleId request =>
    commit s (createSchedule d s caller versionId scheduleId request)
  | .setSchedulePaused scheduleId paused => commit s (setSchedulePaused s scheduleId paused)
  | .dispatchDueSchedules sweep => committed s (dispatchDueSchedules p d sweep)

def initial (directory : Directory) : Session where
  tables :=
    { plane := ExecutionSystem.initial directory
      runEvents := .empty
      webhooks := { events := .empty, deliveries := .empty, transitions := .empty } }
  schedules := .empty
  triggers := .empty

abbrev after (p : Platform) (d : Deployment) (s : Session) (ops : List Op) : Session :=
  exec (step p d) s ops

end RoozDataCloud.Schedules
