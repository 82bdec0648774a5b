import RoozDataCloud.ScheduleFailures
import RoozDataCloud.IdempotencyRecords

set_option autoImplicit false

/-!
# The history of a schedule

A schedule fires along its grid, once for each sweep that handles it. The run of
a trigger is found again under the key of its instant, so two instants cannot
share one.
-/
namespace RoozDataCloud.ScheduleHistory
open KeyedTable NumberedLog ExecutionModels WebhookModels RunCreation RunCreationFailures Schedules
open IdempotencyRecords ExecutionMoves ExecutionSteps
open FallibleSteps hiding bind_ok bind_error pure_ok pure_error
open SessionSteps hiding pure_ok pure_error
open RunRequests hiding createRun

/-- The scheduled instants of a schedule's triggers, in the order they were recorded. -/
def instants (s : Session) (id : Uuid) : List Time := numbers s.triggers id

/-- A one-time schedule's grid is its start. -/
def OnGrid (record : Schedule) (t : Time) : Prop :=
  ∃ k : ℕ, t = record.startsAt + k * seconds (record.intervalSeconds.getD 0)

def scheduleKey (p : Platform) (d : Deployment) (id : Uuid) (record : Schedule) (t : Time) :
    IdempotencyKey where
  organizationId := record.organizationId
  principalId := record.createdByUserId
  endpoint := runsEndpoint
  keyDigest := d.sha256 (runKey p id t)

def triggerCount (record : Schedule) : ℕ :=
  record.firedCount + record.skippedCount + record.failedCount

/-- The run keys of a schedule's instants have different digests. -/
def DistinctKeys (p : Platform) (d : Deployment) : Prop :=
  ∀ id t t', d.sha256 (runKey p id t) = d.sha256 (runKey p id t') → t = t'

section Grid

theorem isLeast_after {start interval point now k : ℕ} (hpositive : 0 < interval)
    (hpoint : point = start + k * interval) (hle : point ≤ now) :
    IsLeast {t : ℕ | (∃ m : ℕ, t = start + m * interval) ∧ now < t}
      (point + ((now - point) / interval + 1) * interval) := by
  have hbelow : (now - point) / interval * interval ≤ now - point := Nat.div_mul_le_self _ _
  have habove : now - point < ((now - point) / interval + 1) * interval := by
    rw [mul_comm]
    exact Nat.lt_mul_div_succ _ hpositive
  constructor
  · refine ⟨⟨k + ((now - point) / interval + 1), ?_⟩, by omega⟩
    rw [hpoint, add_mul k, add_assoc]
  · rintro t ⟨⟨m, rfl⟩, hafter⟩
    have hlt : (k + (now - point) / interval) * interval < m * interval := by
      rw [add_mul]
      omega
    have hm : k + (now - point) / interval + 1 ≤ m := Nat.lt_of_mul_lt_mul_right hlt
    have hmul := Nat.mul_le_mul_right interval hm
    calc point + ((now - point) / interval + 1) * interval
        = start + (k + (now - point) / interval + 1) * interval := by rw [hpoint]; ring
      _ ≤ start + m * interval := Nat.add_le_add_left hmul start

end Grid

section Firing
variable {p : Platform} {d : Deployment} {sweep : Sweep} {id : Uuid} {record : Schedule}
  {scheduledFor : Time} {t t' : Tables}

theorem createRun_error_keeps {caller : Caller} {versionId buildId runId commandId : Uuid}
    {plan : Except Failure RunPlan} {emission : Emission} {e : Failure}
    (h : RunCreation.createRun d caller versionId buildId plan runId commandId emission t =
      .error e t') : Keeps t.plane t'.plane := by
  simp only [RunCreation.createRun, bind_error, query_error, query_ok] at h
  rcases h with ⟨-, rfl⟩ | ⟨admitted, _, ⟨-, rfl⟩, hrest⟩
  · exact .refl _
  · cases admitted with
    | inl known => exact (SessionSteps.pure_error.1 hrest).elim
    | inr new =>
      simp only [bind_error, write_error, write_ok, SessionSteps.pure_error, and_false,
        exists_false, or_false] at hrest
      rcases hrest with ⟨-, rfl⟩ | ⟨_, mid, hwrite, hrest⟩
      · exact .refl _
      · simp only [writeRun, FallibleSteps.bind_ok, FallibleSteps.pure_ok, onPlane_ok] at hwrite
        obtain ⟨_, ⟨plane, hinsert, rfl⟩, rfl⟩ := hwrite
        have hkeeps := (insertRun_unrecorded hinsert).1.keeps
        rcases hrest with hemit | ⟨_, emitted, hemit, -, rfl⟩
        · rw [emitEvent_error_plane hemit]
          exact hkeeps
        · rw [emitEvent_plane hemit]
          exact hkeeps

theorem fireSchedule_error_keeps {e : Raised}
    (h : fireSchedule p d sweep id record scheduledFor t = .error e t') : Keeps t.plane t'.plane := by
  simp only [fireSchedule, bind_error, query_error, query_ok, adaptExcept_error] at h
  rcases h with ⟨-, rfl⟩ | ⟨_, _, ⟨-, rfl⟩, ⟨-, rfl⟩ | ⟨request, _, ⟨-, rfl⟩, e', -, hcreate⟩⟩
  · exact .refl _
  · exact .refl _
  · exact createRun_error_keeps hcreate

theorem fireSchedule_keeps {run : Uuid}
    (h : fireSchedule p d sweep id record scheduledFor t = .ok run t') :
    Keeps t.plane t'.plane ∧
      ∃ found, t'.plane.idempotency.get? (scheduleKey p d id record scheduledFor) = some found ∧
        found.resourceId = run := by
  simp only [fireSchedule, bind_ok, query_ok, require_ok, adaptExcept_ok] at h
  obtain ⟨_, _, ⟨hversion, rfl⟩, request, _, ⟨-, rfl⟩, hcreate⟩ := h
  obtain ⟨version, hget, horganization⟩ := (Option.any_eq_true _ _).1 hversion
  rw [decide_eq_true_eq] at horganization
  have hplane := createRun_refines hcreate
  refine ⟨createRun_keeps hplane, ?_⟩
  rcases createRun_records hget hplane with ⟨hsame, found, hfound, hid⟩ | ⟨found, hid, hrecorded, -⟩
  · rw [hsame]
    exact ⟨found, by rw [← hfound, horganization]; rfl, hid⟩
  · refine ⟨found, ?_, hid⟩
    rw [Table.get?_insert hrecorded.insert, if_pos]
    rw [horganization]
    rfl

end Firing

section Round

/-- What holds of the row of a schedule alone. -/
structure Timely (record : Schedule) : Prop where
  once : record.cadenceKind = .once → record.intervalSeconds = none
  interval : record.cadenceKind = .interval → ∃ n, record.intervalSeconds = some n ∧ 0 < n
  completed : record.status = .completed ↔ record.nextFireAt = none
  next_on_grid : ∀ next, record.nextFireAt = some next → OnGrid record next

/-- The history of a schedule: its triggers, its counters and the runs it has fired. -/
structure Recounts (p : Platform) (d : Deployment) (s : Session) (id : Uuid) (record : Schedule) :
    Prop where
  timely : Timely record
  increasing : (instants s id).Pairwise (· < ·)
  on_grid : ∀ t ∈ instants s id, OnGrid record t
  ahead : ∀ next, record.nextFireAt = some next → ∀ t ∈ instants s id, t < next
  count : triggerCount record = (instants s id).length
  fired : ∀ t trigger, s.triggers.get? (id, t) = some trigger → trigger.outcome = .fired →
    ∃ found, s.tables.plane.idempotency.get? (scheduleKey p d id record t) = some found ∧
      trigger.runId = some found.resourceId

structure Sound (p : Platform) (d : Deployment) (s : Session) : Prop where
  recounts : ∀ id record, s.schedules.get? id = some record → Recounts p d s id record
  absent : ∀ id, s.schedules.get? id = none → instants s id = []
  named : RunsNamed s.tables.plane

/-- A handled schedule waits for the least instant of its grid after the sweep, or is completed. -/
def Advanced (record : Schedule) (now : Time) : Prop :=
  record.status = .completed ∨
    ∃ next, record.nextFireAt = some next ∧ IsLeast {t | OnGrid record t ∧ now < t} next

theorem instants_insert {s s' : Session} {id : Uuid} {t : Time} {trigger : ScheduleTrigger}
    (h : s.triggers.insert? (id, t) trigger = some s'.triggers) (id' : Uuid) :
    instants s' id' = if id = id' then instants s id' ++ [t] else instants s id' := by
  unfold instants numbers
  rw [Table.rows_insert h, List.filter_append]
  split_ifs with heq <;> simp [heq]

/-- The columns that a schedule keeps for good. -/
structure Continues (record record' : Schedule) : Prop where
  organizationId : record'.organizationId = record.organizationId
  createdByUserId : record'.createdByUserId = record.createdByUserId
  cadenceKind : record'.cadenceKind = record.cadenceKind
  startsAt : record'.startsAt = record.startsAt
  intervalSeconds : record'.intervalSeconds = record.intervalSeconds

theorem Continues.onGrid {record record' : Schedule} (h : Continues record record') (t : Time) :
    OnGrid record' t ↔ OnGrid record t := by
  rw [OnGrid, OnGrid, h.startsAt, h.intervalSeconds]

theorem Continues.key {record record' : Schedule} (h : Continues record record') (p : Platform)
    (d : Deployment) (id : Uuid) (t : Time) :
    scheduleKey p d id record' t = scheduleKey p d id record t := by
  rw [scheduleKey, scheduleKey, h.organizationId, h.createdByUserId]

theorem Continues.timely {record record' : Schedule} (h : Continues record record')
    (ht : Timely record) (hstatus : record'.status = .completed ↔ record'.nextFireAt = none)
    (hnext : ∀ next, record'.nextFireAt = some next → OnGrid record next) : Timely record' := by
  refine ⟨?_, ?_, hstatus, fun next heq => (h.onGrid next).2 (hnext next heq)⟩
  · rw [h.cadenceKind, h.intervalSeconds]
    exact ht.once
  · rw [h.cadenceKind, h.intervalSeconds]
    exact ht.interval

def nextInstant (scheduledFor now : Time) (n : ℕ) : Time :=
  scheduledFor + ((now - scheduledFor) / seconds n + 1) * seconds n

theorem advanceSchedule_ok {record record' : Schedule} {scheduledFor now : Time}
    (h : advanceSchedule record scheduledFor now = .ok record') :
    record' = { record with status := .completed, nextFireAt := none } ∨
      ∃ n, record.cadenceKind = .interval ∧ record.intervalSeconds = some n ∧
        record' = { record with nextFireAt := some (nextInstant scheduledFor now n) } := by
  unfold advanceSchedule at h
  split at h
  · exact .inl (Except.ok.inj h).symm
  next hcadence =>
    split at h
    · cases h
    next n hn => exact .inr ⟨n, hcadence, hn, (Except.ok.inj h).symm⟩

theorem advanceSchedule_advanced {record record' : Schedule} {scheduledFor now : Time}
    (ht : Timely record) (hnext : record.nextFireAt = some scheduledFor) (hdue : scheduledFor ≤ now)
    (h : advanceSchedule record scheduledFor now = .ok record') :
    Continues record record' ∧ Timely record' ∧ Advanced record' now ∧
      ∀ next, record'.nextFireAt = some next → scheduledFor < next := by
  rcases advanceSchedule_ok h with rfl | ⟨n, hcadence, hn, rfl⟩
  · have hsame : Continues record { record with status := .completed, nextFireAt := none } :=
      ⟨rfl, rfl, rfl, rfl, rfl⟩
    exact ⟨hsame, hsame.timely ht (by simp) (by simp), .inl rfl, by simp⟩
  · obtain ⟨m, hm, hpositive⟩ := ht.interval hcadence
    obtain rfl := Option.some.inj (hn.symm.trans hm)
    have hlength : 0 < seconds n := Nat.mul_pos hpositive (by decide)
    obtain ⟨k, hk⟩ := ht.next_on_grid scheduledFor hnext
    rw [hn] at hk
    have hleast := isLeast_after hlength hk hdue
    have hgrid : ∀ t, OnGrid record t ↔ ∃ m : ℕ, t = record.startsAt + m * seconds n := by
      intro t
      rw [OnGrid, hn]
      rfl
    refine ⟨⟨rfl, rfl, rfl, rfl, rfl⟩, ?_, .inr ⟨_, rfl, ?_⟩, ?_⟩
    · have hsame : Continues record
          { record with nextFireAt := some (nextInstant scheduledFor now n) } :=
        ⟨rfl, rfl, rfl, rfl, rfl⟩
      refine hsame.timely ht ?_ (fun next heq => ?_)
      · have hactive := ht.completed
        rw [hnext] at hactive
        simpa using hactive
      · obtain rfl := Option.some.inj heq
        exact (hgrid _).2 hleast.1.1
    · constructor
      · exact ⟨(hgrid _).2 hleast.1.1, hleast.1.2⟩
      · rintro t ⟨ht, hafter⟩
        exact hleast.2 ⟨(hgrid t).1 ht, hafter⟩
    · intro next heq
      obtain rfl := Option.some.inj heq
      exact lt_of_le_of_lt hdue hleast.1.2

theorem advanceSchedule_count {record record' : Schedule} {scheduledFor now : Time}
    (h : advanceSchedule record scheduledFor now = .ok record') :
    triggerCount record' = triggerCount record := by
  rcases advanceSchedule_ok h with rfl | ⟨n, -, -, rfl⟩ <;> rfl

theorem recordTrigger_ok {s s' : Session} {id : Uuid} {record : Schedule} {t : Time}
    {trigger : ScheduleTrigger} {outcome : Option TriggerOutcome}
    (h : recordTrigger s id record t trigger = .ok outcome s') :
    s.triggers.insert? (id, t) trigger = some s'.triggers ∧
      s'.schedules = s.schedules.modify id (fun _ => counted trigger.outcome record) ∧
      s'.tables = s.tables := by
  unfold recordTrigger at h
  split at h
  · cases h
  next triggers hinsert =>
    simp only [EStateM.Result.ok.injEq] at h
    obtain ⟨-, rfl⟩ := h
    exact ⟨hinsert, rfl, rfl⟩

/-- What an attempt leaves behind: the records are kept, and a fired run is the one that the key of
its instant names. -/
theorem recordAttempt_ok {p : Platform} {d : Deployment} {sweep : Sweep} {now : Time} {s s' : Session}
    {id : Uuid} {record : Schedule} {t : Time} {outcome : Option TriggerOutcome}
    (h : recordAttempt now s id record t (fireSchedule p d sweep id record t s.tables) =
      .ok outcome s') :
    ∃ trigger, s.triggers.insert? (id, t) trigger = some s'.triggers ∧
      s'.schedules = s.schedules.modify id (fun _ => counted trigger.outcome record) ∧
      Keeps s.tables.plane s'.tables.plane ∧
      (trigger.outcome = .fired → ∃ found,
        s'.tables.plane.idempotency.get? (scheduleKey p d id record t) = some found ∧
          trigger.runId = some found.resourceId) := by
  cases hfire : fireSchedule p d sweep id record t s.tables with
  | ok run tables =>
    rw [hfire] at h
    obtain ⟨hinsert, hschedules, htables⟩ := recordTrigger_ok h
    obtain ⟨hkeeps, found, hfound, rfl⟩ := fireSchedule_keeps hfire
    rw [htables]
    exact ⟨_, hinsert, hschedules, hkeeps, fun _ => ⟨found, hfound, rfl⟩⟩
  | error e tables =>
    rw [hfire, recordAttempt] at h
    split at h
    next code _ =>
      obtain ⟨hinsert, hschedules, htables⟩ := recordTrigger_ok h
      rw [htables]
      refine ⟨_, hinsert, hschedules, fireSchedule_error_keeps hfire, fun hfired => ?_⟩
      cases hfired
    · cases h

theorem processSchedule_ok {p : Platform} {d : Deployment} {sweep : Sweep} {now scheduledFor : Time}
    {s s' : Session} {row : Uuid × Schedule} {outcome : Option TriggerOutcome}
    (hrow : s.schedules.get? row.1 = some row.2) (hnext : row.2.nextFireAt = some scheduledFor)
    (hfresh : s.triggers.get? (row.1, scheduledFor) = none)
    (h : processSchedule (fireSchedule p d sweep) now row s = .ok outcome s') :
    ∃ advanced trigger, advanceSchedule row.2 scheduledFor now = .ok advanced ∧
      s.triggers.insert? (row.1, scheduledFor) trigger = some s'.triggers ∧
      (∀ id, s'.schedules.get? id = if id = row.1 then
        some (counted trigger.outcome (touched now advanced)) else s.schedules.get? id) ∧
      Keeps s.tables.plane s'.tables.plane ∧
      (trigger.outcome = .fired → ∃ found, s'.tables.plane.idempotency.get?
        (scheduleKey p d row.1 (touched now advanced) scheduledFor) = some found ∧
          trigger.runId = some found.resourceId) := by
  unfold processSchedule at h
  rw [hnext] at h
  dsimp only at h
  split at h
  · cases h
  next advanced hadvance =>
    have hsaved : ∀ (record : Schedule) (id : Uuid),
        ((saveSchedule s row.1 (touched now advanced)).schedules.modify row.1
          (fun _ => record)).get? id = if id = row.1 then some record else s.schedules.get? id := by
      intro record id
      simp only [saveSchedule, Table.get?_modify]
      split_ifs with heq
      · rw [heq, hrow]
        rfl
      · rfl
    have htriggers : (saveSchedule s row.1 (touched now advanced)).triggers = s.triggers := rfl
    rw [htriggers, hfresh] at h
    simp only [Option.isSome_none, Bool.false_eq_true, if_false] at h
    split at h
    · obtain ⟨hinsert, hschedules, htables⟩ := recordTrigger_ok h
      refine ⟨advanced, _, hadvance, hinsert, fun id => ?_, ?_, fun hfired => ?_⟩
      · rw [hschedules]
        exact hsaved _ id
      · rw [htables]
        exact .refl _
      · cases hfired
    · obtain ⟨trigger, hinsert, hschedules, hkeeps, hfired⟩ := recordAttempt_ok h
      refine ⟨advanced, trigger, hadvance, hinsert, fun id => ?_, hkeeps, hfired⟩
      rw [hschedules]
      exact hsaved _ id

end Round

section Sweeps
variable {p : Platform} {d : Deployment} {s s' : Session} {id : Uuid} {record : Schedule}

theorem Recounts.frame (h : Recounts p d s id record)
    (htriggers : ∀ t, s'.triggers.get? (id, t) = s.triggers.get? (id, t))
    (hinstants : instants s' id = instants s id)
    (hremembers : Remembers s.tables.plane s'.tables.plane) : Recounts p d s' id record := by
  refine ⟨h.timely, ?_, ?_, ?_, ?_, fun t trigger htrigger hfired => ?_⟩
  · rw [hinstants]
    exact h.increasing
  · rw [hinstants]
    exact h.on_grid
  · rw [hinstants]
    exact h.ahead
  · rw [hinstants]
    exact h.count
  · rw [htriggers] at htrigger
    obtain ⟨found, hfound, hrun⟩ := h.fired t trigger htrigger hfired
    exact ⟨found, hremembers.records _ _ hfound, hrun⟩

theorem Recounts.setStatus {target : ScheduleStatus} (h : Recounts p d s id record)
    (hstatus : record.status ≠ .completed) (htarget : target ≠ .completed) :
    Recounts p d s id (setStatus target record) := by
  have hsame : Continues record (Schedules.setStatus target record) := ⟨rfl, rfl, rfl, rfl, rfl⟩
  have hnext : record.nextFireAt ≠ none := fun hnone => hstatus (h.timely.completed.2 hnone)
  exact
    { timely := hsame.timely h.timely (iff_of_false htarget hnext) h.timely.next_on_grid
      increasing := h.increasing
      on_grid := h.on_grid
      ahead := h.ahead
      count := h.count
      fired := h.fired }

theorem counted_continues (outcome : TriggerOutcome) (now : Time) (record : Schedule) :
    Continues record (counted outcome (touched now record)) := by
  cases outcome <;> exact ⟨rfl, rfl, rfl, rfl, rfl⟩

theorem counted_next (outcome : TriggerOutcome) (now : Time) (record : Schedule) :
    (counted outcome (touched now record)).nextFireAt = record.nextFireAt ∧
      (counted outcome (touched now record)).status = record.status := by
  cases outcome <;> exact ⟨rfl, rfl⟩

theorem counted_total (outcome : TriggerOutcome) (now : Time) (record : Schedule) :
    triggerCount (counted outcome (touched now record)) = triggerCount record + 1 := by
  cases outcome <;> simp only [triggerCount, counted, touched] <;> omega

theorem Continues.trans {record record' last : Schedule} (h : Continues record record')
    (h' : Continues record' last) : Continues record last :=
  ⟨h'.organizationId.trans h.organizationId, h'.createdByUserId.trans h.createdByUserId,
    h'.cadenceKind.trans h.cadenceKind, h'.startsAt.trans h.startsAt,
    h'.intervalSeconds.trans h.intervalSeconds⟩

theorem Continues.advanced {record record' : Schedule} {now : Time} (h : Continues record record')
    (hnext : record'.nextFireAt = record.nextFireAt) (hstatus : record'.status = record.status)
    (ha : Advanced record now) : Advanced record' now := by
  unfold Advanced at ha ⊢
  simp only [hnext, hstatus, h.onGrid]
  exact ha

theorem Recounts.round {advanced : Schedule} {scheduledFor now : Time} {trigger : ScheduleTrigger}
    (h : Recounts p d s id record) (hnext : record.nextFireAt = some scheduledFor)
    (hdue : scheduledFor ≤ now) (hadvance : advanceSchedule record scheduledFor now = .ok advanced)
    (hinsert : s.triggers.insert? (id, scheduledFor) trigger = some s'.triggers)
    (hremembers : Remembers s.tables.plane s'.tables.plane)
    (hfired : trigger.outcome = .fired → ∃ found, s'.tables.plane.idempotency.get?
      (scheduleKey p d id (touched now advanced) scheduledFor) = some found ∧
        trigger.runId = some found.resourceId) :
    Recounts p d s' id (counted trigger.outcome (touched now advanced)) ∧
      Advanced (counted trigger.outcome (touched now advanced)) now := by
  obtain ⟨hsame, htimely, hadvanced, hafter⟩ :=
    advanceSchedule_advanced h.timely hnext hdue hadvance
  have hlast := counted_continues trigger.outcome now advanced
  obtain ⟨hlastNext, hlastStatus⟩ := counted_next trigger.outcome now advanced
  have hwhole := hsame.trans hlast
  have hinstants : instants s' id = instants s id ++ [scheduledFor] := by
    rw [instants_insert hinsert, if_pos rfl]
  have hmem : ∀ t ∈ instants s' id, t ∈ instants s id ∨ t = scheduledFor := by
    intro t ht
    rwa [hinstants, List.mem_append, List.mem_singleton] at ht
  refine ⟨⟨?_, ?_, ?_, ?_, ?_, ?_⟩, hlast.advanced hlastNext hlastStatus hadvanced⟩
  · refine hlast.timely htimely ?_ ?_
    · rw [hlastNext, hlastStatus]
      exact htimely.completed
    · rw [hlastNext]
      exact htimely.next_on_grid
  · rw [hinstants, List.pairwise_append]
    refine ⟨h.increasing, List.pairwise_singleton _ _, fun t ht t' ht' => ?_⟩
    rw [List.mem_singleton.1 ht']
    exact h.ahead scheduledFor hnext t ht
  · intro t ht
    rw [hwhole.onGrid]
    rcases hmem t ht with hold | rfl
    · exact h.on_grid t hold
    · exact h.timely.next_on_grid t hnext
  · intro next heq t ht
    rw [hlastNext] at heq
    have hbefore := hafter next heq
    rcases hmem t ht with hold | rfl
    · exact (h.ahead scheduledFor hnext t hold).trans hbefore
    · exact hbefore
  · rw [counted_total, advanceSchedule_count hadvance, h.count, hinstants, List.length_append]
    rfl
  · intro t found hfound houtcome
    rw [Table.get?_insert hinsert] at hfound
    split_ifs at hfound with heq
    · obtain rfl := Option.some.inj hfound
      obtain ⟨-, rfl⟩ := Prod.mk.inj heq
      obtain ⟨named, hnamed, hrun⟩ := hfired houtcome
      refine ⟨named, ?_, hrun⟩
      rw [hlast.key]
      exact hnamed
    · obtain ⟨named, hnamed, hrun⟩ := h.fired t found hfound houtcome
      refine ⟨named, ?_, hrun⟩
      rw [hwhole.key]
      exact hremembers.records _ _ hnamed

/-- What a sweep has done once it has handled these rows. -/
structure Swept (now : Time) (rows : List (Uuid × Schedule)) (s s' : Session) : Prop where
  others : ∀ id, id ∉ rows.map Prod.fst →
    s'.schedules.get? id = s.schedules.get? id ∧ instants s' id = instants s id
  handled : ∀ id ∈ rows.map Prod.fst, (∃ t, instants s' id = instants s id ++ [t]) ∧
    ∃ record, s'.schedules.get? id = some record ∧ Advanced record now

/-- A row is selected as it is stored, and it is due. -/
def Selected (now : Time) (s : Session) (row : Uuid × Schedule) : Prop :=
  s.schedules.get? row.1 = some row.2 ∧ isDue now row.2

theorem Sound.round {sweep : Sweep} {now : Time} {row : Uuid × Schedule}
    {outcome : Option TriggerOutcome} (hs : Sound p d s) (hrow : Selected now s row)
    (h : processSchedule (fireSchedule p d sweep) now row s = .ok outcome s') :
    Sound p d s' ∧ Swept now [row] s s' := by
  obtain ⟨hget, hisDue⟩ := hrow
  simp only [isDue, Bool.and_eq_true, decide_eq_true_eq, Option.any_eq_true] at hisDue
  obtain ⟨-, scheduledFor, hnext, hdue⟩ := hisDue
  have hrecounts := hs.recounts row.1 row.2 hget
  have hfresh : s.triggers.get? (row.1, scheduledFor) = none := by
    rw [Table.get?_eq_none, ← mem_numbers]
    exact fun hmem => lt_irrefl _ (hrecounts.ahead scheduledFor hnext scheduledFor hmem)
  obtain ⟨advanced, trigger, hadvance, hinsert, hschedules, hkeeps, hfired⟩ :=
    processSchedule_ok hget hnext hfresh h
  obtain ⟨hlast, hadvanced⟩ :=
    hrecounts.round hnext hdue hadvance hinsert hkeeps.remembers hfired
  have hinstants : ∀ id, id ≠ row.1 → instants s' id = instants s id := by
    intro id hne
    rw [instants_insert hinsert, if_neg (fun heq => hne heq.symm)]
  have hothers : ∀ id, id ≠ row.1 → s'.schedules.get? id = s.schedules.get? id := by
    intro id hne
    rw [hschedules, if_neg hne]
  have hself := hschedules row.1
  rw [if_pos rfl] at hself
  refine ⟨⟨fun id record hrecord => ?_, fun id hnone => ?_, hkeeps.named hs.named⟩, ?_, ?_⟩
  · by_cases heq : id = row.1
    · rw [heq, hself] at hrecord
      obtain rfl := Option.some.inj hrecord
      rw [heq]
      exact hlast
    · rw [hothers id heq] at hrecord
      refine (hs.recounts id record hrecord).frame (fun t => ?_) (hinstants id heq) hkeeps.remembers
      rw [Table.get?_insert hinsert, if_neg (fun hkey => heq (Prod.mk.inj hkey).1)]
  · have hne : id ≠ row.1 := by
      rintro rfl
      rw [hself] at hnone
      cases hnone
    rw [hothers id hne] at hnone
    rw [hinstants id hne]
    exact hs.absent id hnone
  · intro id hid
    have hne : id ≠ row.1 := by simpa using hid
    exact ⟨hothers id hne, hinstants id hne⟩
  · intro id hid
    obtain rfl : id = row.1 := by simpa using hid
    refine ⟨⟨scheduledFor, ?_⟩, _, hself, hadvanced⟩
    rw [instants_insert hinsert, if_pos rfl]

theorem Sound.rounds {sweep : Sweep} {now : Time} {rows : List (Uuid × Schedule)}
    {outcomes : List (Option TriggerOutcome)} (hs : Sound p d s)
    (hrows : ∀ row ∈ rows, Selected now s row) (hnodup : (rows.map Prod.fst).Nodup)
    (h : rows.mapM (processSchedule (fireSchedule p d sweep) now) s = .ok outcomes s') :
    Sound p d s' ∧ Swept now rows s s' := by
  induction rows generalizing s outcomes with
  | nil =>
    obtain ⟨-, rfl⟩ := mapM_nil_ok.1 h
    exact ⟨hs, fun id _ => ⟨rfl, rfl⟩, fun id hid => absurd hid List.not_mem_nil⟩
  | cons row rest ih =>
    obtain ⟨outcome, mid, outcomes', hfirst, hrest, -⟩ := mapM_cons_ok.1 h
    rw [List.map_cons, List.nodup_cons] at hnodup
    obtain ⟨hmid, hround⟩ := hs.round (hrows row (List.mem_cons_self ..)) hfirst
    -- The rows that are left are still stored as they were selected.
    have hleft : ∀ other ∈ rest, Selected now mid other := by
      intro other hother
      have hkey : other.1 ∉ [row].map Prod.fst := by
        rw [List.map_singleton, List.mem_singleton]
        intro heq
        exact hnodup.1 (heq ▸ List.mem_map_of_mem hother)
      obtain ⟨hget, hdue⟩ := hrows other (List.mem_cons_of_mem _ hother)
      exact ⟨(hround.others _ hkey).1.trans hget, hdue⟩
    obtain ⟨hlast, hswept⟩ := ih hmid hleft hnodup.2 hrest
    refine ⟨hlast, fun id hid => ?_, fun id hid => ?_⟩
    · rw [List.map_cons, List.mem_cons, not_or] at hid
      obtain ⟨hget, hinstants⟩ := hround.others id (by simpa using hid.1)
      obtain ⟨hget', hinstants'⟩ := hswept.others id hid.2
      exact ⟨hget'.trans hget, hinstants'.trans hinstants⟩
    · rw [List.map_cons, List.mem_cons] at hid
      rcases hid with rfl | hid
      · obtain ⟨⟨t, ht⟩, record, hrecord, hadvanced⟩ := hround.handled row.1 (by simp)
        obtain ⟨hget, hinstants⟩ := hswept.others row.1 hnodup.1
        exact ⟨⟨t, hinstants.trans ht⟩, record, hget.trans hrecord, hadvanced⟩
      · have hother : id ∉ [row].map Prod.fst := by
          rw [List.map_singleton, List.mem_singleton]
          exact fun heq => hnodup.1 (heq ▸ hid)
        obtain ⟨⟨t, ht⟩, hafter⟩ := hswept.handled id hid
        rw [(hround.others id hother).2] at ht
        exact ⟨⟨t, ht⟩, hafter⟩

theorem dueSchedules_nodup (s : Session) (sweep : Sweep) :
    ((dueSchedules s sweep).map Prod.fst).Nodup :=
  Table.take_sorted_nodup

/-- The rows that a sweep handles. -/
def handledRows (s : Session) (sweep : Sweep) : List (Uuid × Schedule) :=
  if sweep.acquired then dueSchedules s sweep else []

theorem handledRows_selected {sweep : Sweep} {row : Uuid × Schedule}
    (h : row ∈ handledRows s sweep) : Selected sweep.now s row := by
  unfold handledRows at h
  split at h
  · obtain ⟨hget, hdue⟩ := Table.mem_take_sorted h
    rw [Bool.and_eq_true] at hdue
    exact ⟨hget, hdue.1⟩
  · cases h

theorem Sound.sweep {sweep : Sweep} {result : ScheduleDispatchResult} (hs : Sound p d s)
    (h : dispatchDueSchedules p d sweep s = .ok result s') :
    Sound p d s' ∧ Swept sweep.now (handledRows s sweep) s s' := by
  simp only [dispatchDueSchedules, dispatchWith, bind_ok, query_ok] at h
  obtain ⟨-, _, ⟨-, rfl⟩, hrest⟩ := h
  by_cases hacquired : sweep.acquired = true
  · rw [if_pos hacquired] at hrest
    simp only [bind_ok, query_ok, SessionSteps.pure_ok, Except.ok.injEq] at hrest
    obtain ⟨rows, _, ⟨rfl, rfl⟩, outcomes, _, hrows, -, rfl⟩ := hrest
    have hhandled : handledRows s sweep = dueSchedules s sweep := if_pos hacquired
    rw [← hhandled] at hrows
    refine hs.rounds (fun row hrow => handledRows_selected hrow) ?_ hrows
    rw [hhandled]
    exact dueSchedules_nodup s sweep
  · rw [if_neg hacquired] at hrest
    obtain ⟨-, rfl⟩ := SessionSteps.pure_ok.1 hrest
    have hhandled : handledRows s sweep = [] := if_neg hacquired
    rw [hhandled]
    exact ⟨hs, fun id _ => ⟨rfl, rfl⟩, fun id hid => absurd hid List.not_mem_nil⟩

end Sweeps

section Runs
variable {p : Platform} {d : Deployment} {s s' : Session}

theorem Sound.frame (hs : Sound p d s) (hschedules : s'.schedules = s.schedules)
    (htriggers : s'.triggers = s.triggers) (hkeeps : Keeps s.tables.plane s'.tables.plane) :
    Sound p d s' := by
  have hinstants : ∀ id, instants s' id = instants s id := by
    intro id
    rw [instants, htriggers]
    rfl
  refine ⟨fun id record hrecord => ?_, fun id hnone => ?_, hkeeps.named hs.named⟩
  · rw [hschedules] at hrecord
    exact (hs.recounts id record hrecord).frame (fun t => by rw [htriggers]) (hinstants id)
      hkeeps.remembers
  · rw [hschedules] at hnone
    rw [hinstants]
    exact hs.absent id hnone

theorem requestedSchedule_timely (userId versionId : Uuid) (version : AgentVersion)
    (request : CreateScheduleRequest) :
    Timely (requestedSchedule userId versionId version request) := by
  refine ⟨fun honce => ?_, fun hinterval => ?_, ?_, fun next hnext => ?_⟩
  · cases hn : request.intervalSeconds with
    | none => exact hn
    | some n =>
      have hkind := request.interval_iff.1 (by rw [hn]; rfl)
      change request.cadenceKind = .once at honce
      rw [hkind] at honce
      cases honce
  · have hsome := request.interval_iff.2 hinterval
    obtain ⟨n, hn⟩ := Option.isSome_iff_exists.1 hsome
    have hbounds := request.interval_bounds n hn
    exact ⟨n, hn, by omega⟩
  · exact iff_of_false (fun h => nomatch h) (fun h => nomatch h)
  · obtain rfl := Option.some.inj hnext
    exact ⟨0, by rw [zero_mul]; rfl⟩

theorem createSchedule_ok {caller : Caller} {versionId scheduleId id : Uuid}
    {request : CreateScheduleRequest}
    (h : createSchedule d s caller versionId scheduleId request = .ok (s', id)) :
    s' = s ∨ ∃ version, s.schedules.insert? scheduleId
        (requestedSchedule caller.userId versionId version request) = some s'.schedules ∧
      s'.triggers = s.triggers ∧ Keeps s.tables.plane s'.tables.plane := by
  simp only [createSchedule, FallibleSteps.bind_ok] at h
  obtain ⟨version, -, -, -, build, -, -, -, -, -, found, -, hrest⟩ := h
  cases found with
  | some known =>
    simp only [FallibleSteps.pure_ok, Prod.mk.injEq] at hrest
    exact .inl hrest.1.symm
  | none =>
    simp only [FallibleSteps.bind_ok, FallibleSteps.pure_ok, demand_ok, Prod.mk.injEq] at hrest
    obtain ⟨-, -, schedules, hinsert, plane, hremember, rfl, -⟩ := hrest
    have hrecorded := (remember_recorded (.refl _) hremember).1
    refine .inr ⟨version, hinsert, rfl, hrecorded.remembers, fun hn => hn.other hrecorded ?_⟩
    simp only [idempotencyKey, runsEndpoint]
    decide

theorem Sound.createSchedule {caller : Caller} {versionId scheduleId id : Uuid}
    {request : CreateScheduleRequest} (hs : Sound p d s)
    (h : createSchedule d s caller versionId scheduleId request = .ok (s', id)) : Sound p d s' := by
  rcases createSchedule_ok h with rfl | ⟨version, hinsert, htriggers, hkeeps⟩
  · exact hs
  have hinstants : ∀ id, instants s' id = instants s id := by
    intro id
    rw [instants, htriggers]
    rfl
  refine ⟨fun id record hrecord => ?_, fun id hnone => ?_, hkeeps.named hs.named⟩
  · rw [Table.get?_insert hinsert] at hrecord
    split_ifs at hrecord with heq
    · obtain rfl := Option.some.inj hrecord
      -- A schedule that was not there has no triggers.
      have hempty := hs.absent scheduleId (Table.insert_fresh hinsert)
      rw [← heq, ← hinstants] at hempty
      have hnone : ∀ t, s'.triggers.get? (id, t) = none := by
        intro t
        rw [Table.get?_eq_none, ← mem_numbers]
        change t ∉ instants s' id
        rw [hempty]
        exact List.not_mem_nil
      refine ⟨requestedSchedule_timely .., ?_, ?_, ?_, ?_, fun t trigger htrigger => ?_⟩
      · rw [hempty]
        exact List.Pairwise.nil
      · rw [hempty]
        exact fun t ht => absurd ht List.not_mem_nil
      · rw [hempty]
        exact fun next _ t ht => absurd ht List.not_mem_nil
      · rw [hempty]
        rfl
      · rw [hnone] at htrigger
        cases htrigger
    · exact (hs.recounts id record hrecord).frame (fun t => by rw [htriggers]) (hinstants id)
        hkeeps.remembers
  · rw [Table.get?_insert hinsert] at hnone
    split_ifs at hnone with heq
    rw [hinstants]
    exact hs.absent id hnone

theorem setSchedulePaused_ok {scheduleId : Uuid} {paused : Bool} {u : Unit}
    (h : setSchedulePaused s scheduleId paused = .ok (s', u)) :
    s' = s ∨ ∃ record target, s.schedules.get? scheduleId = some record ∧
      record.status ≠ .completed ∧ target ≠ .completed ∧
      s' = { s with schedules := s.schedules.modify scheduleId (setStatus target) } := by
  simp only [setSchedulePaused, FallibleSteps.bind_ok, demand_ok, require_ok] at h
  obtain ⟨record, hget, -, hstatus, hrest⟩ := h
  have htarget : (if paused = true then ScheduleStatus.paused else .active) ≠ .completed := by
    cases paused <;> decide
  generalize (if paused = true then ScheduleStatus.paused else .active) = target at hrest htarget
  split at hrest
  · simp only [FallibleSteps.pure_ok, Prod.mk.injEq] at hrest
    exact .inl hrest.1.symm
  · simp only [FallibleSteps.pure_ok, Prod.mk.injEq] at hrest
    exact .inr ⟨record, target, hget, hstatus, htarget, hrest.1.symm⟩

theorem Sound.setSchedulePaused {scheduleId : Uuid} {paused : Bool} {u : Unit} (hs : Sound p d s)
    (h : setSchedulePaused s scheduleId paused = .ok (s', u)) : Sound p d s' := by
  rcases setSchedulePaused_ok h with rfl | ⟨record, target, hget, hstatus, htarget, rfl⟩
  · exact hs
  refine ⟨fun id record' hrecord => ?_, fun id hnone => ?_, hs.named⟩
  · have hframe : ∀ {row}, Recounts p d s id row → Recounts p d
        { s with schedules := s.schedules.modify scheduleId (setStatus target) } id row :=
      fun hrow => hrow.frame (fun _ => rfl) rfl (.refl _)
    rw [Table.get?_modify] at hrecord
    split_ifs at hrecord with heq
    · rw [heq, hget] at hrecord
      obtain rfl := Option.some.inj hrecord
      rw [heq] at hframe ⊢
      exact hframe ((hs.recounts scheduleId record hget).setStatus hstatus htarget)
    · exact hframe (hs.recounts id record' hrecord)
  · rw [Table.get?_modify] at hnone
    split_ifs at hnone with heq
    · rw [heq, hget] at hnone
      cases hnone
    · exact hs.absent id hnone

theorem Sound.step (hs : Sound p d s) (op : Op) : Sound p d (step p d s op) := by
  cases op with
  | plane op => exact hs.frame rfl rfl (step_keeps d s.tables.plane op)
  | createSchedule caller versionId scheduleId request =>
    exact commit_cases (P := Sound p d) hs (fun _ _ h => hs.createSchedule h)
  | setSchedulePaused scheduleId paused =>
    exact commit_cases (P := Sound p d) hs (fun _ _ h => hs.setSchedulePaused h)
  | dispatchDueSchedules sweep =>
    simp only [Schedules.step, committed]
    split
    next result s' h => exact (hs.sweep h).1
    · exact hs

theorem initial_sound (p : Platform) (d : Deployment) (directory : Directory) :
    Sound p d (initial directory) := by
  refine ⟨fun id record h => ?_, fun id _ => rfl, ⟨fun key record h => ?_, fun k k' r r' h => ?_⟩⟩
  · cases h
  · cases h
  · cases h

theorem after_sound (p : Platform) (d : Deployment) (directory : Directory) (ops : List Op) :
    Sound p d (after p d (initial directory) ops) :=
  exec_invariant (Schedules.step p d) (P := Sound p d) (fun _ op hs => hs.step op) ops _
    (initial_sound p d directory)

theorem completed_step (hs : Sound p d s) {id : Uuid} {record : Schedule}
    (hget : s.schedules.get? id = some record) (hcompleted : record.status = .completed) (op : Op) :
    (step p d s op).schedules.get? id = some record ∧ instants (step p d s op) id = instants s id := by
  cases op with
  | plane op => exact ⟨hget, rfl⟩
  | createSchedule caller versionId scheduleId request =>
    refine commit_cases (P := fun s' => s'.schedules.get? id = some record ∧
      instants s' id = instants s id) ⟨hget, rfl⟩ (fun s' result h => ?_)
    rcases createSchedule_ok h with rfl | ⟨version, hinsert, htriggers, -⟩
    · exact ⟨hget, rfl⟩
    · rw [instants, htriggers]
      exact ⟨Table.get?_insert_old hinsert hget, rfl⟩
  | setSchedulePaused scheduleId paused =>
    refine commit_cases (P := fun s' => s'.schedules.get? id = some record ∧
      instants s' id = instants s id) ⟨hget, rfl⟩ (fun s' result h => ?_)
    rcases setSchedulePaused_ok h with rfl | ⟨other, target, hother, hstatus, -, rfl⟩
    · exact ⟨hget, rfl⟩
    · have hne : id ≠ scheduleId := by
        rintro rfl
        obtain rfl := Option.some.inj (hget.symm.trans hother)
        exact hstatus hcompleted
      exact ⟨(Table.get?_modify_ne _ _ hne).trans hget, rfl⟩
  | dispatchDueSchedules sweep =>
    simp only [Schedules.step, committed]
    split
    next result s' h =>
      have hnotDue : id ∉ (handledRows s sweep).map Prod.fst := by
        intro hid
        obtain ⟨row, hrow, rfl⟩ := List.mem_map.1 hid
        obtain ⟨hrowGet, hdue⟩ := handledRows_selected hrow
        obtain rfl := Option.some.inj (hget.symm.trans hrowGet)
        simp [isDue, hcompleted] at hdue
      obtain ⟨hsame, hinstants⟩ := (hs.sweep h).2.others id hnotDue
      exact ⟨hsame.trans hget, hinstants⟩
    · exact ⟨hget, rfl⟩

/-- What the history of a schedule is to look like in a state, and what a sweep adds to it. -/
structure History (p : Platform) (d : Deployment) (s : Session) (id : Uuid) (record : Schedule) :
    Prop where
  increasing : (instants s id).Pairwise (· < ·)
  on_grid : ∀ t ∈ instants s id, OnGrid record t
  count : record.firedCount + record.skippedCount + record.failedCount = (instants s id).length
  fired_run : ∀ t trigger, s.triggers.get? (id, t) = some trigger → trigger.outcome = .fired →
    ∃ run, trigger.runId = some run ∧ (s.tables.plane.runs.get? run).isSome
  distinct_runs : ∀ t t' trigger trigger', s.triggers.get? (id, t) = some trigger →
    s.triggers.get? (id, t') = some trigger' → trigger.outcome = .fired →
    trigger'.outcome = .fired → trigger.runId = trigger'.runId → t = t'
  one_per_sweep : ∀ sweep, instants (step p d s (.dispatchDueSchedules sweep)) id = instants s id ∨
    ∃ t, instants (step p d s (.dispatchDueSchedules sweep)) id = instants s id ++ [t]
  handled : ∀ sweep result s', dispatchDueSchedules p d sweep s = .ok result s' →
    id ∈ (handledRows s sweep).map Prod.fst →
    ∃ record', s'.schedules.get? id = some record' ∧ Advanced record' sweep.now
  completed : record.status = .completed → ∀ ops,
    (after p d s ops).schedules.get? id = some record ∧
      instants (after p d s ops) id = instants s id

theorem schedule_history (p : Platform) (d : Deployment) (hkeys : DistinctKeys p d)
    (directory : Directory) (ops : List Op) (id : Uuid) (record : Schedule)
    (hrecord : (after p d (initial directory) ops).schedules.get? id = some record) :
    History p d (after p d (initial directory) ops) id record := by
  have hs := after_sound p d directory ops
  generalize after p d (initial directory) ops = s at hs hrecord
  have h := hs.recounts id record hrecord
  refine ⟨h.increasing, h.on_grid, h.count, ?_, ?_, ?_, ?_, ?_⟩
  · intro t trigger htrigger hfired
    obtain ⟨found, hfound, hrun⟩ := h.fired t trigger htrigger hfired
    exact ⟨_, hrun, hs.named.exist _ found hfound rfl⟩
  · intro t t' trigger trigger' htrigger htrigger' hfired hfired' hsame
    obtain ⟨found, hfound, hrun⟩ := h.fired t trigger htrigger hfired
    obtain ⟨found', hfound', hrun'⟩ := h.fired t' trigger' htrigger' hfired'
    rw [hrun, hrun', Option.some.injEq] at hsame
    have hkey := hs.named.distinct _ _ found found' hfound hfound' rfl rfl hsame
    exact hkeys id t t' (congrArg IdempotencyKey.keyDigest hkey)
  · intro sweep
    simp only [Schedules.step, committed]
    split
    next result s' hsweep =>
      by_cases hid : id ∈ (handledRows s sweep).map Prod.fst
      · exact .inr ((hs.sweep hsweep).2.handled id hid).1
      · exact .inl ((hs.sweep hsweep).2.others id hid).2
    · exact .inl rfl
  · intro sweep result s' hsweep hid
    exact ((hs.sweep hsweep).2.handled id hid).2
  · intro hcompleted later
    have hrun := exec_invariant (Schedules.step p d) (P := fun s' => Sound p d s' ∧
      s'.schedules.get? id = some record ∧ instants s' id = instants s id)
      (fun s' op hs' => ?_) later s ⟨hs, hrecord, rfl⟩
    · exact hrun.2
    · obtain ⟨hsound, hget, hinstants⟩ := hs'
      obtain ⟨hget', hinstants'⟩ := completed_step hsound hget hcompleted op
      exact ⟨hsound.step op, hget', hinstants'.trans hinstants⟩

theorem samplePlatform_distinct : DistinctKeys ScheduleFailures.samplePlatform plainDeployment := by
  intro id t t' hsame
  change runKey ScheduleFailures.samplePlatform id t = runKey ScheduleFailures.samplePlatform id t'
    at hsame
  have hlength := congrArg String.length hsame
  simp only [runKey, ScheduleFailures.samplePlatform, String.length_append, String.length_ofList,
    List.length_replicate] at hlength
  exact Nat.add_left_cancel hlength

def minutely : CreateScheduleRequest where
  name := "minutely"
  cadenceKind := .interval
  startsAt := 5
  intervalSeconds := some 60
  missedRunPolicy := .skip
  misfireGraceSeconds := 60
  buildId := 1
  runPayload := []
  document := []
  interval_bounds := by simp
  grace_bounds := ScheduleFailures.onceRequest.grace_bounds
  interval_iff := by decide

/-- A build has succeeded; a schedule is made for it, paused, resumed and fired. -/
def minutelyOps : List Op :=
  (RunOutcomes.failedCancellation.take 3).map .plane ++
    [.createSchedule { userId := 1, idempotencyKey := "schedule-1", now := 3 } 1 1 minutely,
      .setSchedulePaused 1 true, .setSchedulePaused 1 false,
      .dispatchDueSchedules (ScheduleFailures.sampleSweep (.ok ScheduleFailures.samplePlan) .empty
        .empty)]

set_option maxRecDepth 8000 in
theorem minutely_history :
    ∃ record, (after ScheduleFailures.samplePlatform plainDeployment
        (initial RunOutcomes.sampleDirectory) minutelyOps).schedules.get? 1 = some record ∧
      (record.firedCount, record.nextFireAt) = (1, some 60000005) ∧
      History ScheduleFailures.samplePlatform plainDeployment
        (after ScheduleFailures.samplePlatform plainDeployment
          (initial RunOutcomes.sampleDirectory) minutelyOps) 1 record := by
  have hfired : ((after ScheduleFailures.samplePlatform plainDeployment
      (initial RunOutcomes.sampleDirectory) minutelyOps).schedules.get? 1).map
        (fun record => (record.firedCount, record.nextFireAt)) = some (1, some 60000005) := by
    decide +kernel
  obtain ⟨record, hrecord, hcount⟩ := Option.map_eq_some_iff.1 hfired
  exact ⟨record, hrecord, hcount, schedule_history ScheduleFailures.samplePlatform plainDeployment
    samplePlatform_distinct RunOutcomes.sampleDirectory minutelyOps 1 record hrecord⟩

end Runs
end RoozDataCloud.ScheduleHistory
