import RoozDataCloud.Schedules
import RoozDataCloud.RunCreationFailures
import RoozDataCloud.RunOutcomes

set_option autoImplicit false

/-!
# Failed triggers

The sweep catches the error of a schedule without a savepoint, so what the
attempt had written before it failed is committed with the `FAILED` trigger.
-/
namespace RoozDataCloud.ScheduleFailures
open KeyedTable NumberedLog ExecutionModels WebhookModels RunCreation RunRequests Schedules
open RunCreationFailures
open FallibleSteps hiding bind_ok bind_error pure_ok pure_error
open SessionSteps hiding pure_ok pure_error

variable {p : Platform} {d : Deployment} {sweep : Sweep} {s s' : Session} {row : Uuid × Schedule}
  {record : Schedule} {scheduledFor : Time}

/-- The round of a schedule comes to creating its run: `record` is the row as the round has
advanced it. -/
structure Attempted (sweep : Sweep) (s : Session) (row : Uuid × Schedule) (record : Schedule)
    (scheduledFor : Time) : Prop where
  due : row.2.nextFireAt = some scheduledFor
  advanced : ∃ next, advanceSchedule row.2 scheduledFor sweep.now = .ok next ∧
    record = touched sweep.now next
  untriggered : s.triggers.get? (row.1, scheduledFor) = none
  kept : (isMissed record scheduledFor sweep.now && record.missedRunPolicy = .skip) = false

theorem process_attempted {fire : Uuid → Schedule → Time → EStateM Raised Tables Uuid}
    (h : Attempted sweep s row record scheduledFor) :
    processSchedule fire sweep.now row s =
      recordAttempt sweep.now (saveSchedule s row.1 record) row.1 record scheduledFor
        (fire row.1 record scheduledFor s.tables) := by
  obtain ⟨next, hnext, rfl⟩ := h.advanced
  have hnone : ((saveSchedule s row.1 (touched sweep.now next)).triggers.get?
      (row.1, scheduledFor)).isSome = false := by
    change (s.triggers.get? (row.1, scheduledFor)).isSome = false
    rw [h.untriggered]
    rfl
  simp only [processSchedule, h.due, hnext, hnone, h.kept, Bool.false_eq_true, if_false]
  rfl

/-- When the creation of its run is refused, the schedule's round only records the `FAILED`
trigger. -/
def FailsCleanly (p : Platform) (d : Deployment) (sweep : Sweep) (s : Session)
    (row : Uuid × Schedule) : Prop :=
  ∀ record scheduledFor e code tables, Attempted sweep s row record scheduledFor →
    fireSchedule p d sweep row.1 record scheduledFor s.tables = .error e tables →
    rejectionCode e = some code →
    processSchedule (fireSchedule p d sweep) sweep.now row s =
      recordTrigger (saveSchedule s row.1 record) row.1 record scheduledFor
        (failedTrigger sweep.now code)

/-- The run of the schedule passes every check that comes before its first row. -/
def Admitted (p : Platform) (d : Deployment) (sweep : Sweep) (t : Tables) (id : Uuid)
    (record : Schedule) (scheduledFor : Time) (new : NewRun) : Prop :=
  ∃ request, p.validateRunRequest record.runPayload = some request ∧
    (t.plane.directory.agentVersions.get? record.agentVersionId).any
      (·.organizationId = record.organizationId) = true ∧
    admitRun d t.plane (scheduleCaller p sweep id record scheduledFor) record.agentVersionId
      request.buildId ((sweep.attempt id).plan request) = .ok (.inr new)

/-- An attempt that is admitted meets a valid request identifier, and every destination it finds
active still takes the event when its delivery is enqueued. -/
def Steady (p : Platform) (d : Deployment) (sweep : Sweep) (s : Session) (row : Uuid × Schedule) :
    Prop :=
  ∀ record scheduledFor new, Attempted sweep s row record scheduledFor →
    Admitted p d sweep s.tables row.1 record scheduledFor new →
    Settled (scheduleEmission p sweep row.1) new.version.projectId s.tables

/-- The sweep comes to the schedule, in the session `mid`. -/
def Reached (p : Platform) (d : Deployment) (sweep : Sweep) (s mid : Session)
    (row : Uuid × Schedule) : Prop :=
  sweep.acquired = true ∧ ∃ before rest outcomes, dueSchedules s sweep = before ++ row :: rest ∧
    before.mapM (processSchedule (fireSchedule p d sweep) sweep.now) s = .ok outcomes mid

/-- Every attempt of the sweep behind its own savepoint. -/
def withSavepoints (p : Platform) (d : Deployment) (sweep : Sweep) (id : Uuid) (record : Schedule)
    (scheduledFor : Time) : EStateM Raised Tables Uuid :=
  atomically (fireSchedule p d sweep id record scheduledFor)

/-- Whatever fails leaves only its trigger, and the sweep goes on as if every failing attempt had
been rolled back. -/
structure CleanSweep (p : Platform) (d : Deployment) (sweep : Sweep) (s : Session) : Prop where
  rounds : ∀ mid row, Reached p d sweep s mid row → FailsCleanly p d sweep mid row
  sweep : dispatchWith (withSavepoints p d sweep) sweep s = dispatchDueSchedules p d sweep s

theorem rejectionCode_request {e : Failure} {code : String}
    (h : rejectionCode (.request e) = some code) : isApi e = true := by
  cases e with
  | api statusCode code message details => rfl
  | value message => cases h
  | integrity constraint => cases h

section Attempts
variable {id : Uuid} {t t' : Tables} {e : Raised} {code : String}

theorem fireSchedule_settled {new : NewRun} {runId : Uuid}
    (hadmission : Admitted p d sweep t id record scheduledFor new)
    (h : fireSchedule p d sweep id record scheduledFor t = .ok runId t') :
    Settled (scheduleEmission p sweep id) new.version.projectId t := by
  obtain ⟨request, hrequest, -, hadmission⟩ := hadmission
  simp only [fireSchedule, bind_ok, query_ok, demand_ok, hrequest, adaptExcept_ok] at h
  obtain ⟨_, _, ⟨-, rfl⟩, _, _, ⟨⟨rfl⟩, rfl⟩, hcreate⟩ := h
  exact createRun_settled hadmission hcreate

theorem fireSchedule_refused (h : fireSchedule p d sweep id record scheduledFor t = .error e t')
    (hcode : rejectionCode e = some code) :
    ((∀ new, ¬ Admitted p d sweep t id record scheduledFor new) ∧ t' = t) ∨
      ∃ new, Admitted p d sweep t id record scheduledFor new ∧
        ¬ Settled (scheduleEmission p sweep id) new.version.projectId t ∧ t' ≠ t := by
  simp only [fireSchedule, bind_error, query_error, query_ok, demand_ok, demand_error, require_ok,
    require_error, adaptExcept_error] at h
  rcases h with ⟨⟨hversion, -⟩, rfl⟩ |
    ⟨_, _, ⟨hversion, rfl⟩, ⟨⟨hrequest, -⟩, rfl⟩ | ⟨request, _, ⟨hrequest, rfl⟩, hcreate⟩⟩
  · refine .inl ⟨?_, rfl⟩
    rintro new ⟨_, _, h, _⟩
    exact hversion h
  · refine .inl ⟨?_, rfl⟩
    rintro new ⟨request, h, _⟩
    rw [hrequest] at h
    cases h
  · obtain ⟨failure, rfl, hcreate⟩ := hcreate
    rcases createRun_refused hcreate (rejectionCode_request hcode) with ⟨hadmission, rfl⟩ | ⟨new, hadmission, hrest⟩
    · refine .inl ⟨?_, rfl⟩
      rintro new ⟨request', h, _, h'⟩
      obtain rfl := Option.some.inj (hrequest.symm.trans h)
      rw [hadmission] at h'
      cases h'
    · exact .inr ⟨new, ⟨request, hrequest, hversion, hadmission⟩, hrest⟩

end Attempts
theorem recordTrigger_fresh (id : Uuid) (record : Schedule) (trigger : ScheduleTrigger)
    (h : s.triggers.get? (id, scheduledFor) = none) :
    ∃ triggers, recordTrigger s id record scheduledFor trigger = .ok (some trigger.outcome)
      { saveSchedule s id (counted trigger.outcome record) with triggers := triggers } := by
  obtain ⟨triggers, hinsert⟩ := Table.insert_of_fresh (r := trigger) h
  exact ⟨triggers, by rw [recordTrigger, hinsert]⟩

theorem failsCleanly_iff {outcome : Option TriggerOutcome}
    (hround : processSchedule (fireSchedule p d sweep) sweep.now row s = .ok outcome s') :
    FailsCleanly p d sweep s row ↔ Steady p d sweep s row := by
  constructor
  · intro hclean record scheduledFor new hattempted hadmitted
    cases hfire : fireSchedule p d sweep row.1 record scheduledFor s.tables with
    | ok runId tables => exact fireSchedule_settled hadmitted hfire
    | error e tables =>
      rw [process_attempted hattempted, hfire] at hround
      cases hcode : rejectionCode e with
      | none => simp [recordAttempt, hcode] at hround
      | some code =>
        exfalso
        have hsame := hclean record scheduledFor e code tables hattempted hfire hcode
        rw [process_attempted hattempted, hfire] at hsame
        simp only [recordAttempt, hcode] at hsame
        obtain ⟨_, hleft⟩ := recordTrigger_fresh
          (s := { saveSchedule s row.1 record with tables := tables }) row.1 record
          (failedTrigger sweep.now code) hattempted.untriggered
        obtain ⟨_, hright⟩ := recordTrigger_fresh (s := saveSchedule s row.1 record) row.1 record
          (failedTrigger sweep.now code) hattempted.untriggered
        rw [hleft, hright, EStateM.Result.ok.injEq] at hsame
        have htables : tables = s.tables := congrArg Session.tables hsame.2
        rcases fireSchedule_refused hfire hcode with ⟨hnot, -⟩ | ⟨_, _, _, hne⟩
        · exact hnot new hadmitted
        · exact hne htables
  · intro hsteady record scheduledFor e code tables hattempted hfire hcode
    rw [process_attempted hattempted, hfire]
    simp only [recordAttempt, hcode]
    rcases fireSchedule_refused hfire hcode with ⟨-, rfl⟩ | ⟨new, hadmitted, hnot, -⟩
    · rfl
    · exact (hnot (hsteady record scheduledFor new hattempted hadmitted)).elim

theorem process_congr {fire fire' : Uuid → Schedule → Time → EStateM Raised Tables Uuid}
    (h : ∀ record scheduledFor, Attempted sweep s row record scheduledFor →
      fire row.1 record scheduledFor s.tables = fire' row.1 record scheduledFor s.tables) :
    processSchedule fire sweep.now row s = processSchedule fire' sweep.now row s := by
  unfold processSchedule
  split
  · rfl
  next scheduledFor hdue =>
    split
    · rfl
    next advanced hadvanced =>
      dsimp only
      split_ifs with htriggered hskip
      · rfl
      · rfl
      · have hattempted : Attempted sweep s row (touched sweep.now advanced) scheduledFor :=
          ⟨hdue, ⟨advanced, hadvanced, rfl⟩, by simpa [saveSchedule] using htriggered,
            by simpa using hskip⟩
        have hfire := h _ _ hattempted
        change recordAttempt _ _ _ _ _ (fire _ _ _ s.tables) =
          recordAttempt _ _ _ _ _ (fire' _ _ _ s.tables)
        rw [hfire]

theorem process_savepoint {outcome : Option TriggerOutcome}
    (hround : processSchedule (fireSchedule p d sweep) sweep.now row s = .ok outcome s')
    (hsteady : Steady p d sweep s row) :
    processSchedule (withSavepoints p d sweep) sweep.now row s = .ok outcome s' := by
  rw [← hround]
  refine process_congr (fun record scheduledFor hattempted => ?_)
  refine atomically_eq (fun e tables hfire => ?_)
  rw [process_attempted hattempted, hfire] at hround
  cases hcode : rejectionCode e with
  | none => simp [recordAttempt, hcode] at hround
  | some code =>
    rcases fireSchedule_refused hfire hcode with ⟨-, heq⟩ | ⟨new, hadmitted, hnot, -⟩
    · exact heq
    · exact (hnot (hsteady record scheduledFor new hattempted hadmitted)).elim

theorem sweep_savepoint {rows : List (Uuid × Schedule)} {outcomes : List (Option TriggerOutcome)}
    (hrows : rows.mapM (processSchedule (fireSchedule p d sweep) sweep.now) s = .ok outcomes s')
    (hsteady : ∀ before row rest done mid, rows = before ++ row :: rest →
      before.mapM (processSchedule (fireSchedule p d sweep) sweep.now) s = .ok done mid →
      Steady p d sweep mid row) :
    rows.mapM (processSchedule (withSavepoints p d sweep) sweep.now) s = .ok outcomes s' := by
  induction rows generalizing s outcomes with
  | nil => exact mapM_nil_ok.2 (mapM_nil_ok.1 hrows)
  | cons row rest ih =>
    obtain ⟨outcome, mid, outcomes', hfirst, hrest, rfl⟩ := mapM_cons_ok.1 hrows
    have hrow : Steady p d sweep s row := hsteady [] row rest [] s rfl (mapM_nil_ok.2 ⟨rfl, rfl⟩)
    refine mapM_cons_ok.2 ⟨outcome, mid, outcomes', process_savepoint hfirst hrow, ?_, rfl⟩
    refine ih hrest (fun before row' rest' done last hsplit hdone => ?_)
    refine hsteady (row :: before) row' rest' (outcome :: done) last (by rw [hsplit]; rfl) ?_
    exact mapM_cons_ok.2 ⟨outcome, mid, done, hfirst, hdone, rfl⟩

theorem round_ok {before rest : List (Uuid × Schedule)}
    {done outcomes : List (Option TriggerOutcome)} {mid : Session}
    (hbefore : before.mapM (processSchedule (fireSchedule p d sweep) sweep.now) s = .ok done mid)
    (h : (before ++ row :: rest).mapM (processSchedule (fireSchedule p d sweep) sweep.now) s =
      .ok outcomes s') :
    ∃ outcome next, processSchedule (fireSchedule p d sweep) sweep.now row mid = .ok outcome next := by
  rw [List.mapM_append] at h
  obtain ⟨done', mid', hdone, hrest⟩ := bind_ok.1 h
  rw [hbefore, EStateM.Result.ok.injEq] at hdone
  obtain ⟨rfl, rfl⟩ := hdone
  obtain ⟨tail, last, htail, -⟩ := bind_ok.1 hrest
  obtain ⟨outcome, next, -, hround, -⟩ := mapM_cons_ok.1 htail
  exact ⟨outcome, next, hround⟩

/-- Every `FAILED` trigger of a committed sweep is clean if and only if every attempt that passes
its checks finds the request identifier valid and its destinations undisturbed. -/
theorem failed_triggers_clean_iff (p : Platform) (d : Deployment) (sweep : Sweep) (s s' : Session)
    (result : ScheduleDispatchResult) (h : dispatchDueSchedules p d sweep s = .ok result s') :
    CleanSweep p d sweep s ↔
      ∀ mid row, Reached p d sweep s mid row → Steady p d sweep mid row := by
  simp only [dispatchDueSchedules, dispatchWith, bind_ok, query_ok, require_ok] at h
  obtain ⟨⟨⟩, _, ⟨hbatch, rfl⟩, hrest⟩ := h
  have hround : ∀ mid row, Reached p d sweep s mid row → ∃ outcome next,
      processSchedule (fireSchedule p d sweep) sweep.now row mid = .ok outcome next := by
    rintro mid row ⟨hacquired, before, rest, done, hsplit, hdone⟩
    rw [if_pos hacquired] at hrest
    simp only [bind_ok, query_ok] at hrest
    obtain ⟨_, _, ⟨⟨rfl⟩, rfl⟩, outcomes, last, hrows, -⟩ := hrest
    rw [hsplit] at hrows
    exact round_ok hdone hrows
  constructor
  · intro hclean mid row hreached
    obtain ⟨outcome, next, hok⟩ := hround mid row hreached
    exact (failsCleanly_iff hok).1 (hclean.rounds mid row hreached)
  · intro hsteady
    refine ⟨fun mid row hreached => ?_, ?_⟩
    · obtain ⟨outcome, next, hok⟩ := hround mid row hreached
      exact (failsCleanly_iff hok).2 (hsteady mid row hreached)
    · have hwhole : dispatchWith (withSavepoints p d sweep) sweep s = .ok result s' := by
        simp only [dispatchWith, bind_ok, query_ok, require_ok]
        refine ⟨(), s, ⟨hbatch, rfl⟩, ?_⟩
        by_cases hacquired : sweep.acquired = true
        · rw [if_pos hacquired] at hrest ⊢
          simp only [bind_ok, query_ok] at hrest ⊢
          obtain ⟨rows, _, ⟨⟨rfl⟩, rfl⟩, outcomes, last, hrows, hresult⟩ := hrest
          refine ⟨_, s, ⟨rfl, rfl⟩, outcomes, last, ?_, hresult⟩
          exact sweep_savepoint hrows (fun before row rest done mid hsplit hdone =>
            hsteady mid row ⟨hacquired, before, rest, done, hsplit, hdone⟩)
        · rw [if_neg hacquired] at hrest ⊢
          exact hrest
      rw [hwhole, eq_comm]
      simp only [dispatchDueSchedules, dispatchWith, bind_ok, query_ok, require_ok]
      exact ⟨(), s, ⟨hbatch, rfl⟩, hrest⟩

def samplePlatform : Platform where
  isoformat := fun t => String.ofList (List.replicate t 'a')
  uuidText := fun _ => "id"
  alnum := Char.isAlphanum
  validateRunRequest := fun _ => some { buildId := 1, intent := [] }

def onceRequest : CreateScheduleRequest where
  name := "nightly"
  cadenceKind := .once
  startsAt := 5
  intervalSeconds := none
  missedRunPolicy := .skip
  misfireGraceSeconds := 60
  buildId := 1
  runPayload := []
  document := []
  interval_bounds := by simp
  grace_bounds := by decide
  interval_iff := by decide

/-- A build has succeeded, and a one-time schedule is made for it. -/
def sampleSession : Session :=
  after samplePlatform plainDeployment (initial RunOutcomes.sampleDirectory)
    ((RunOutcomes.failedCancellation.take 3).map .plane ++
      [.createSchedule { userId := 1, idempotencyKey := "schedule-1", now := 3 } 1 1 onceRequest])

def destination (status : DestinationStatus) : Table Uuid WebhookDestination :=
  ⟨[(3,
    { organizationId := 1
      projectId := 1
      name := "hook"
      endpointUrl := "https"
      eventTypes := ["run.created"]
      status := status
      verifiedAt := some 1
      consecutiveFailureCount := 0
      failureThreshold := 3
      disabledReason := if status = .disabled then some .operatorDisabled else none
      signingSecretId := 1
      signingSecretVersion := 1
      version := 1 })], List.nodup_singleton _⟩

def sampleSweep (plan : Except Failure RunPlan) (listed looked : Table Uuid WebhookDestination) :
    Sweep where
  now := 5
  batchSize := 10
  requestId := "schedule-dispatch-1"
  acquired := true
  locked := fun _ => false
  attempt := fun _ =>
    { now := 5
      plan := fun _ => plan
      runId := 9
      commandId := 9
      eventId := 9
      deliveryId := id
      listed := listed
      visible := fun _ => ⟨looked, looked⟩ }

def samplePlan : RunPlan where
  runtime := [("timeout_seconds", .int 600)]
  inputReference := []
  intent := .null
  receiptOnly := false

/-- A destination is active when the destinations are listed, and disabled before its delivery is
enqueued. -/
def racedSweep : Sweep := sampleSweep (.ok samplePlan) (destination .active) (destination .disabled)

def keepsRun : EStateM.Result Raised Session ScheduleDispatchResult → Bool
  | .ok _ s => (s.tables.plane.runs.get? 9).isSome
  | .error _ _ => false

set_option maxRecDepth 8000 in
/-- The trigger fails, and a queued run with its start command, its run event and its event is
committed with it. -/
theorem failed_trigger_keeps_run :
    let s := committed sampleSession (dispatchDueSchedules samplePlatform plainDeployment racedSweep)
    (s.triggers.get? (1, 5)).map (fun trigger => (trigger.outcome, trigger.errorCode)) =
      some (.failed, some "RESOURCE_NOT_FOUND") ∧
    (s.tables.plane.runs.get? 9).map (·.status) = some .queued ∧
    (s.tables.plane.outbox.get? (.runCommand 9)).map (·.status) = some .pending ∧
    (s.tables.runEvents.get? (9, 1)).isSome = true ∧
    (s.tables.webhooks.events.get? 9).isSome = true ∧
    ¬ CleanSweep samplePlatform plainDeployment racedSweep sampleSession := by
  refine ⟨by decide +kernel, by decide +kernel, by decide +kernel, by decide +kernel,
    by decide +kernel, fun h => ?_⟩
  have hbehind : keepsRun (dispatchWith (withSavepoints samplePlatform plainDeployment racedSweep)
      racedSweep sampleSession) = false := by decide +kernel
  have hkept : keepsRun (dispatchDueSchedules samplePlatform plainDeployment racedSweep
      sampleSession) = true := by decide +kernel
  rw [h.sweep, hkept] at hbehind
  cases hbehind

/-- The intent of the run is refused. -/
def refusedSweep : Sweep :=
  sampleSweep (.error (apiError 422 "RUNTIME_LIMIT_EXCEEDED" "")) .empty .empty

def wentThrough : EStateM.Result Raised Session ScheduleDispatchResult → Bool
  | .ok _ _ => true
  | .error _ _ => false

set_option maxRecDepth 8000 in
theorem refused_trigger_clean :
    CleanSweep samplePlatform plainDeployment refusedSweep sampleSession ∧
    ((committed sampleSession (dispatchDueSchedules samplePlatform plainDeployment
      refusedSweep)).triggers.get? (1, 5)).map (·.outcome) = some .failed := by
  refine ⟨?_, by decide +kernel⟩
  have hok : wentThrough (dispatchDueSchedules samplePlatform plainDeployment refusedSweep
      sampleSession) = true := by decide +kernel
  cases h : dispatchDueSchedules samplePlatform plainDeployment refusedSweep sampleSession with
  | error e s =>
    rw [h] at hok
    cases hok
  | ok result s =>
    have hid : requestIdValid (scheduleEmission samplePlatform refusedSweep 1) = true := by decide
    exact (failed_triggers_clean_iff samplePlatform plainDeployment refusedSweep sampleSession s
      result h).2 (fun mid row _ record scheduledFor new _ _ => ⟨hid, fun item hitem => nomatch hitem⟩)

end RoozDataCloud.ScheduleFailures
