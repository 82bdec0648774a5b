import RoozDataCloud.ExecutionSteps

set_option autoImplicit false

/-!
# Idempotency records

A record is written once, with the resource its request has created, and never
changes. So the records of created runs name different runs.
-/
namespace RoozDataCloud.IdempotencyRecords
open KeyedTable ExecutionModels FallibleSteps ExecutionRecovery CancellationConvergence
open LeaseReaper WorkClaims LeaseRequests RunRequests ExecutionSystem ExecutionMoves ExecutionSteps

variable {d : Deployment} {st st' : State}

/-- Neither a record nor a run is lost. -/
structure Remembers (st st' : State) : Prop where
  records : ∀ key record, st.idempotency.get? key = some record →
    st'.idempotency.get? key = some record
  runs : KeepsRuns st st'

/-- No record is written and no run is lost. -/
structure Unrecorded (st st' : State) : Prop where
  records : st'.idempotency = st.idempotency
  runs : KeepsRuns st st'

theorem Unrecorded.refl (st : State) : Unrecorded st st := ⟨rfl, keepsRuns_refl st⟩

theorem Unrecorded.trans {mid : State} (h : Unrecorded st mid) (h' : Unrecorded mid st') :
    Unrecorded st st' :=
  ⟨h'.records.trans h.records, fun r hr => h'.runs r (h.runs r hr)⟩

theorem Remembers.refl (st : State) : Remembers st st := ⟨fun _ _ h => h, keepsRuns_refl st⟩

theorem Unrecorded.remembers (h : Unrecorded st st') : Remembers st st' :=
  ⟨fun key record hr => by rw [h.records]; exact hr, h.runs⟩

theorem unrecorded_frame (hrecords : st'.idempotency = st.idempotency) (hruns : st'.runs = st.runs) :
    Unrecorded st st' :=
  ⟨hrecords, fun r hr => by rw [hruns]; exact hr⟩

theorem setRun_unrecorded (st : State) (r : Uuid) (f : Run → Run) :
    Unrecorded st (st.setRun r f) :=
  ⟨rfl, keepsRuns_setRun st r f⟩

theorem unrecorded_run {r : Uuid} {f : Run → Run} (hrecords : st'.idempotency = st.idempotency)
    (hruns : st'.runs = st.runs.modify r f) : Unrecorded st st' :=
  (setRun_unrecorded st r f).trans (unrecorded_frame hrecords hruns)

section Reaping

theorem converge_unrecorded (st : State) (runId : Uuid) (now : Time) :
    Unrecorded st (convergeCancelledRun st runId now).1 := by
  rcases convergeCancelledRun_cases st runId now with ⟨h, -⟩ | ⟨h, -⟩ | ⟨h, -⟩ <;> rw [h]
  · exact unrecorded_frame rfl rfl
  · exact unrecorded_frame rfl rfl
  · exact unrecorded_run rfl rfl

theorem convergeExpired_unrecorded (st : State) (now : Time) (target : Target) :
    Unrecorded st (convergeExpired st now target).1 := by
  rcases convergeExpired_cases st now target with ⟨hbase, -, -⟩ | ⟨r, -, -, hconverge⟩
  · rw [hbase]
    exact .refl st
  · rw [hconverge]
    exact converge_unrecorded st r now

theorem settledExpired_unrecorded (now : Time) (retry : Bool) (next : Option Time) (base : State)
    (l : Uuid) (lease : ExecutionLease) :
    Unrecorded base (settledExpired now retry next base l lease) := by
  cases htarget : lease.target with
  | build b =>
    simp only [settledExpired, expiredTarget, htarget]
    exact unrecorded_frame rfl rfl
  | runStart r =>
    simp only [settledExpired, expiredTarget, htarget]
    exact unrecorded_run rfl rfl
  | runCancel r =>
    simp only [settledExpired, expiredTarget, htarget]
    exact unrecorded_run rfl rfl

theorem reapLease_unrecorded {now : Time} {l : Uuid} (h : reapLease d now st l = .ok st') :
    Unrecorded st st' := by
  cases hlease : st.leases.get? l with
  | none =>
    simp only [reapLease, hlease, pure_ok] at h
    exact h ▸ .refl st
  | some lease =>
    have hbase := convergeExpired_unrecorded st now lease.target
    rcases reapLease_cases hlease h with ⟨-, rfl⟩ | ⟨-, next, rfl⟩
    · exact hbase
    · exact hbase.trans (settledExpired_unrecorded ..)

theorem reapOverdue_unrecorded {now : Time} {batchSize n : ℕ}
    (h : reapOverdueCancellations st now batchSize = .ok (st', n)) : Unrecorded st st' :=
  reapOverdueCancellations_rule (P := fun mid => Unrecorded st mid) h (.refl st)
    (fun mid r hmid => hmid.trans (converge_unrecorded mid r now))

theorem reapExpired_unrecorded {now : Time} {batchSize n : ℕ} {flag : Bool}
    (h : reapExpiredLeases d st now batchSize flag = .ok (st', n)) : Unrecorded st st' := by
  obtain ⟨mid, hloop, hrest⟩ := reapExpiredLeases_ok h
  have hmid := foldlM_rule (fun mid _ => Unrecorded st mid)
    (fun mid mid' l rest hmid hreap => hmid.trans (reapLease_unrecorded hreap)) _ st mid (.refl st)
    hloop
  rcases hrest with rfl | ⟨m, hover⟩
  · exact hmid
  · exact hmid.trans (reapOverdue_unrecorded hover)

theorem detectLostWorkers_unrecorded {now : Time} {batchSize : ℕ}
    (h : detectLostWorkers d st now batchSize = .ok st') : Unrecorded st st' := by
  simp only [detectLostWorkers, bind_ok] at h
  obtain ⟨-, -, hloop⟩ := h
  refine foldlM_rule (fun mid _ => Unrecorded st mid) (fun mid mid' w rest hmid hlose => ?_) _ st st'
    (.refl st) hloop
  simp only [loseWorker, bind_ok, pure_ok] at hlose
  obtain ⟨-, -, rfl⟩ := hlose
  exact hmid.trans (unrecorded_frame rfl rfl)

end Reaping

section Claims

theorem claimSource_unrecorded {ticket : ClaimTicket} {ref : SourceRef} {source : OutboxSource}
    {result : Option ExecutionLease}
    (h : claimSource d st ticket ref source = .ok (st', result)) : Unrecorded st st' := by
  rcases claimSource_ok h with ⟨r, run, -, -, -, rfl⟩ | ⟨lease, -, hdispatch⟩
  · exact unrecorded_run rfl rfl
  · obtain ⟨expires, deadline, leases, -, -, -, hstart⟩ := dispatchSource_ok hdispatch
    rcases startTarget_ok hstart with ⟨b, -, rfl⟩ | ⟨r, run, -, -, -, rfl⟩ | ⟨r, run, -, -, -, rfl⟩
    · exact unrecorded_frame rfl rfl
    · exact unrecorded_run rfl rfl
    · exact unrecorded_frame rfl rfl

theorem claimRequest_unrecorded {credential : WorkerCredential} {kinds : List WorkKind}
    {leaseId : Uuid} {digest : String} {now : Time} {result : Option ExecutionLease}
    (h : claimRequest d st credential kinds leaseId digest now = .ok (st', result)) :
    Unrecorded st st' := by
  obtain ⟨directory, hclaim⟩ := claimRequest_ok h
  obtain ⟨mid, n, hreap, hfirst⟩ := claimWork_ok hclaim
  have hdirectory : Unrecorded st { st with directory := directory } := unrecorded_frame rfl rfl
  have hmid := hdirectory.trans (reapExpired_unrecorded hreap)
  rcases claimFirst_ok hfirst with ⟨rfl, -⟩ | ⟨kind, ref, source, -, -, hsource⟩
  · exact hmid
  · exact hmid.trans (claimSource_unrecorded hsource)

end Claims

section Leases
variable {l : Uuid} {lease : ExecutionLease} {now : Time}

theorem renewLease_unrecorded {extendSeconds : ℕ}
    (h : renewLease d st l lease extendSeconds now = .ok st') : Unrecorded st st' := by
  obtain ⟨extended, -, rfl⟩ := renewLease_ok h
  exact unrecorded_frame rfl rfl

theorem updateLeaseStatus_unrecorded {report : StatusReport}
    (h : updateLeaseStatus st l lease report now = .ok st') : Unrecorded st st' := by
  simp only [updateLeaseStatus, bind_ok, pure_ok] at h
  obtain ⟨mid, htarget, rfl⟩ := h
  rcases updateTargetStatus_ok htarget with
    ⟨b, f, -, rfl⟩ | ⟨r, run, status, -, -, -, -, rfl⟩ | ⟨r, run, -, -, rfl⟩
  · exact unrecorded_frame rfl rfl
  · exact unrecorded_run rfl rfl
  · exact unrecorded_run rfl rfl

theorem retryLease_unrecorded (st : State) (l : Uuid) (lease : ExecutionLease)
    (payload : CompleteLeaseRequest) (available now : Time) :
    Unrecorded st (retryLease st l lease payload available now) := by
  cases htarget : lease.target with
  | build b =>
    simp only [retryLease, resetRetryTarget, htarget]
    exact unrecorded_frame rfl rfl
  | runStart r =>
    simp only [retryLease, resetRetryTarget, htarget]
    exact unrecorded_run rfl rfl
  | runCancel r =>
    simp only [retryLease, resetRetryTarget, htarget]
    exact unrecorded_frame rfl rfl

theorem settleLease_unrecorded {payload : CompleteLeaseRequest}
    (h : settleLease d st l lease payload now = .ok st') : Unrecorded st st' := by
  obtain ⟨artifacts, hcases⟩ := settleLease_ok h
  have hmid : Unrecorded st { st with artifacts := artifacts } := unrecorded_frame rfl rfl
  rcases hcases with ⟨available, -, rfl⟩ | ⟨b, build, delivered, -, rfl⟩ | ⟨r, run, cancel, -, -, rfl⟩
  · exact hmid.trans (retryLease_unrecorded ..)
  · exact unrecorded_frame rfl rfl
  · have hconfirm : Unrecorded { st with artifacts := artifacts }
        (confirmFence { st with artifacts := artifacts } l lease r cancel payload now) := by
      unfold confirmFence
      split_ifs
      · exact unrecorded_frame rfl rfl
      · exact .refl _
    have hrun := setRun_unrecorded (confirmFence { st with artifacts := artifacts } l lease r cancel
      payload now) r (fun _ => completedRun payload cancel now run)
    exact ((hmid.trans hconfirm).trans hrun).trans (unrecorded_frame rfl rfl)

theorem completeLease_unrecorded {payload : CompleteLeaseRequest}
    (hcancel : ∀ r, lease.target = .runStart r → cancelRequested st r = false)
    (h : completeLease d st l lease payload now = .ok st') : Unrecorded st st' := by
  obtain ⟨mid, hsettle, rfl⟩ := completeLease_ok hcancel h
  exact (settleLease_unrecorded hsettle).trans (unrecorded_frame rfl rfl)

theorem issueSecretEnvelope_unrecorded {worker : WorkerIdentity} {payload : SecretEnvelopeRequest}
    {grantId id : Uuid}
    (h : issueSecretEnvelope d st worker l lease payload grantId now = .ok (st', id)) :
    Unrecorded st st' := by
  rcases issueSecretEnvelope_ok h with rfl | ⟨runId, fingerprint, -, hst⟩
  · exact .refl _
  · rw [hst]
    exact unrecorded_frame rfl rfl

theorem underLease_unrecorded {α : Type} {call : LeaseCall} {result : α}
    {body : State → WorkerIdentity → ExecutionLease → Except Failure (State × α)}
    (h : underLease st call body = .ok (st', result))
    (hbody : ∀ base worker lease,
      (∀ r, lease.target = .runStart r → cancelRequested base r = false) →
      body base worker lease = .ok (st', result) → Unrecorded base st') : Unrecorded st st' := by
  obtain ⟨directory, worker, lease, -, -, hcancel, hrun⟩ := underLease_ok h
  have hdirectory : Unrecorded st { st with directory := directory } := unrecorded_frame rfl rfl
  exact hdirectory.trans (hbody _ worker lease hcancel hrun)

end Leases
section Creation

def runsEndpoint : String := "POST:/api/v1/agent-versions/\x7bversion_id\x7d/runs"

/-- The records of created runs name runs that exist, each a different one. -/
structure RunsNamed (st : State) : Prop where
  exist : ∀ key record, st.idempotency.get? key = some record → key.endpoint = runsEndpoint →
    (st.runs.get? record.resourceId).isSome
  distinct : ∀ key key' record record', st.idempotency.get? key = some record →
    st.idempotency.get? key' = some record' → key.endpoint = runsEndpoint →
    key'.endpoint = runsEndpoint → record.resourceId = record'.resourceId → key = key'

theorem RunsNamed.unrecorded (hn : RunsNamed st) (h : Unrecorded st st') : RunsNamed st' := by
  constructor
  · intro key record hrecord hkey
    rw [h.records] at hrecord
    exact h.runs _ (hn.exist key record hrecord hkey)
  · intro key key' record record' hrecord hrecord'
    rw [h.records] at hrecord hrecord'
    exact hn.distinct key key' record record' hrecord hrecord'

/-- One record is written, after changes that write none. -/
structure Recorded (key : IdempotencyKey) (record : IdempotencyRecord) (st st' : State) : Prop where
  insert : st.idempotency.insert? key record = some st'.idempotency
  runs : KeepsRuns st st'

theorem Recorded.remembers {key : IdempotencyKey} {record : IdempotencyRecord}
    (h : Recorded key record st st') : Remembers st st' :=
  ⟨fun _ _ hrecord => Table.get?_insert_old h.insert hrecord, h.runs⟩

/-- The record of another kind of resource. -/
theorem RunsNamed.other {key : IdempotencyKey} {record : IdempotencyRecord} (hn : RunsNamed st)
    (h : Recorded key record st st') (hother : key.endpoint ≠ runsEndpoint) : RunsNamed st' := by
  have hget : ∀ key' record', st'.idempotency.get? key' = some record' →
      key'.endpoint = runsEndpoint → st.idempotency.get? key' = some record' := by
    intro key' record' hrecord' hkey'
    rw [Table.get?_insert h.insert] at hrecord'
    split_ifs at hrecord' with heq
    · exact absurd (heq ▸ hkey') hother
    · exact hrecord'
  constructor
  · intro key' record' hrecord' hkey'
    exact h.runs _ (hn.exist key' record' (hget key' record' hrecord' hkey') hkey')
  · intro k k' r r' hr hr' hk hk'
    exact hn.distinct k k' r r' (hget k r hr hk) (hget k' r' hr' hk') hk hk'

theorem RunsNamed.created {key : IdempotencyKey} {record : IdempotencyRecord} (hn : RunsNamed st)
    (h : Recorded key record st st') (hfresh : st.runs.get? record.resourceId = none)
    (hcreated : (st'.runs.get? record.resourceId).isSome) : RunsNamed st' := by
  have hother : ∀ key' record', st.idempotency.get? key' = some record' →
      key'.endpoint = runsEndpoint → record'.resourceId ≠ record.resourceId := by
    intro key' record' hrecord' hkey' heq
    have hold := hn.exist key' record' hrecord' hkey'
    rw [heq, hfresh] at hold
    cases hold
  constructor
  · intro key' record' hrecord' hkey'
    rw [Table.get?_insert h.insert] at hrecord'
    split_ifs at hrecord' with heq
    · obtain rfl := Option.some.inj hrecord'
      exact hcreated
    · exact h.runs _ (hn.exist key' record' hrecord' hkey')
  · intro k k' r r' hr hr' hk hk' hsame
    rw [Table.get?_insert h.insert] at hr hr'
    split_ifs at hr hr' with heq heq' heq'
    · rw [heq, heq']
    · obtain rfl := Option.some.inj hr
      exact absurd hsame.symm (hother k' r' hr' hk')
    · obtain rfl := Option.some.inj hr'
      exact absurd hsame (hother k r hr hk)
    · exact hn.distinct k k' r r' hr hr' hk hk' hsame

theorem remember_recorded {base : State} {key : IdempotencyKey} {fingerprint : String}
    {resourceId : Uuid} (hbase : Unrecorded st base)
    (h : remember base key fingerprint resourceId = .ok st') :
    Recorded key ⟨fingerprint, resourceId, true⟩ st st' ∧ st'.runs = base.runs := by
  simp only [remember, bind_ok, demand_ok, pure_ok] at h
  obtain ⟨idempotency, hinsert, rfl⟩ := h
  rw [hbase.records] at hinsert
  exact ⟨⟨hinsert, hbase.runs⟩, rfl⟩

theorem replay_some {key : IdempotencyKey} {fingerprint : String} {id : Uuid}
    (h : replay st key fingerprint = .ok (some id)) :
    ∃ record, st.idempotency.get? key = some record ∧ record.resourceId = id := by
  unfold replay at h
  split at h
  · cases h
  next record hrecord =>
    simp only [bind_ok, pure_ok, Option.some.injEq] at h
    obtain ⟨-, -, -, -, hid⟩ := h
    exact ⟨record, hrecord, hid⟩

theorem insertSource_unrecorded {ref : SourceRef} {source : OutboxSource}
    (h : insertSource st ref source = .ok st') : Unrecorded st st' := by
  obtain ⟨-, -, hst⟩ := insertSource_ok h
  rw [hst]
  exact unrecorded_frame rfl rfl

theorem insertRun_unrecorded {runId commandId : Uuid} {run : Run} {plan : RunPlan} {now : Time}
    (h : insertRun st runId commandId run plan now = .ok st') :
    Unrecorded st st' ∧ st.runs.get? runId = none ∧ (st'.runs.get? runId).isSome := by
  obtain ⟨runs, hinsert, hrest⟩ := insertRun_ok h
  have hruns : Unrecorded st { st with runs := runs } := ⟨rfl, keepsRuns_insert hinsert⟩
  have hnew : (runs.get? runId).isSome := by
    rw [Table.get?_insert hinsert, if_pos rfl]
    rfl
  rcases hrest with ⟨-, rfl⟩ | ⟨-, source, -, -, -, hsource⟩
  · exact ⟨hruns, Table.insert_fresh hinsert, hnew⟩
  · have hlast := insertSource_unrecorded hsource
    exact ⟨hruns.trans hlast, Table.insert_fresh hinsert, hlast.runs runId hnew⟩

/-- A creation answers with the run its record names, which is a new run if it wrote the record. -/
theorem createRun_records {caller : Caller} {versionId buildId runId commandId id : Uuid}
    {plan : Except Failure RunPlan} {version : AgentVersion}
    (hversion : st.directory.agentVersions.get? versionId = some version)
    (h : createRun d st caller versionId buildId plan runId commandId = .ok (st', id)) :
    (st' = st ∧ ∃ record, st.idempotency.get?
      (idempotencyKey d caller version.organizationId runsEndpoint) = some record ∧
      record.resourceId = id) ∨
    ∃ record, record.resourceId = id ∧
      Recorded (idempotencyKey d caller version.organizationId runsEndpoint) record st st' ∧
      st.runs.get? id = none ∧ (st'.runs.get? id).isSome := by
  simp only [createRun, bind_ok, demand_ok] at h
  obtain ⟨version', hversion', -, -, build, -, -, -, -, -, chosen, -, found, hreplay, hrest⟩ := h
  obtain rfl := Option.some.inj (hversion.symm.trans hversion')
  cases found with
  | some known =>
    simp only [pure_ok, Prod.mk.injEq] at hrest
    obtain ⟨rfl, rfl⟩ := hrest
    exact .inl ⟨rfl, replay_some hreplay⟩
  | none =>
    simp only [bind_ok, pure_ok, Prod.mk.injEq] at hrest
    obtain ⟨mid, hinsert, last, hremember, rfl, rfl⟩ := hrest
    obtain ⟨hmid, hfresh, hnew⟩ := insertRun_unrecorded hinsert
    obtain ⟨hrecorded, hruns⟩ := remember_recorded hmid hremember
    exact .inr ⟨_, rfl, hrecorded, hfresh, by rw [hruns]; exact hnew⟩

/-- What every request does to the records. -/
structure Keeps (st st' : State) : Prop where
  remembers : Remembers st st'
  named : RunsNamed st → RunsNamed st'

theorem Keeps.refl (st : State) : Keeps st st := ⟨.refl st, fun h => h⟩

theorem Unrecorded.keeps (h : Unrecorded st st') : Keeps st st' :=
  ⟨h.remembers, fun hn => hn.unrecorded h⟩

theorem createRun_keeps {caller : Caller} {versionId buildId runId commandId id : Uuid}
    {plan : Except Failure RunPlan}
    (h : createRun d st caller versionId buildId plan runId commandId = .ok (st', id)) :
    Keeps st st' := by
  obtain ⟨version, hversion⟩ : ∃ version,
      st.directory.agentVersions.get? versionId = some version := by
    simp only [createRun, bind_ok, demand_ok] at h
    obtain ⟨version, hversion, -⟩ := h
    exact ⟨version, hversion⟩
  rcases createRun_records hversion h with ⟨rfl, -⟩ | ⟨record, rfl, hrecorded, hfresh, hnew⟩
  · exact .refl _
  · exact ⟨hrecorded.remembers, fun hn => hn.created hrecorded hfresh hnew⟩

theorem createBuild_keeps {caller : Caller} {versionId buildId jobId id : Uuid}
    (h : createBuild d st caller versionId buildId jobId = .ok (st', id)) : Keeps st st' := by
  simp only [createBuild, bind_ok] at h
  obtain ⟨version, -, -, -, objectId, -, found, -, hrest⟩ := h
  cases found with
  | some known =>
    simp only [pure_ok, Prod.mk.injEq] at hrest
    exact hrest.1 ▸ .refl _
  | none =>
    simp only [bind_ok, pure_ok, Prod.mk.injEq] at hrest
    obtain ⟨-, -, -, -, builds, -, mid, hsource, last, hremember, rfl, -⟩ := hrest
    have hbuilds : Unrecorded st { st with builds := builds } := unrecorded_frame rfl rfl
    have hrecorded := (remember_recorded (hbuilds.trans (insertSource_unrecorded hsource)) hremember).1
    exact ⟨hrecorded.remembers, fun hn => hn.other hrecorded (by
      simp only [idempotencyKey, runsEndpoint]
      decide)⟩

theorem ensureCancelCommand_unrecorded {runId commandId : Uuid} {run : Run} {now : Time}
    (h : ensureCancelCommand st runId commandId run now = .ok st') : Unrecorded st st' := by
  rcases ensureCancelCommand_ok h with rfl | ⟨source, -, -, -, hinsert⟩
  · exact .refl _
  · exact insertSource_unrecorded hinsert

theorem requestCancellation_unrecorded {runId commandId : Uuid} {run : Run} {now : Time}
    (h : requestCancellation d st runId commandId run now = .ok st') : Unrecorded st st' := by
  rcases requestCancellation_ok h with ⟨-, rfl⟩ | ⟨-, rfl⟩ | ⟨-, hensure⟩ | ⟨-, hensure⟩
  · exact .refl _
  · refine (setRun_unrecorded st runId (fun _ => abortedRun d now run)).trans ?_
    rcases withdrawStart_cases (st.setRun runId (fun _ => abortedRun d now run)) runId with
      hsame | ⟨ref, source, -, -, -, hset⟩
    · rw [hsame]
      exact .refl _
    · rw [hset]
      exact unrecorded_frame rfl rfl
  · exact (setRun_unrecorded st runId _).trans (ensureCancelCommand_unrecorded hensure)
  · exact ensureCancelCommand_unrecorded hensure

theorem cancelRun_keeps {caller : Caller} {runId commandId id : Uuid}
    (h : cancelRun d st caller runId commandId = .ok (st', id)) : Keeps st st' := by
  simp only [cancelRun, bind_ok] at h
  obtain ⟨run, -, -, -, found, -, hrest⟩ := h
  cases found with
  | some known =>
    simp only [pure_ok, Prod.mk.injEq] at hrest
    exact hrest.1 ▸ .refl _
  | none =>
    simp only [bind_ok, pure_ok, Prod.mk.injEq] at hrest
    obtain ⟨mid, hrequest, last, hremember, rfl, -⟩ := hrest
    have hrecorded := (remember_recorded (requestCancellation_unrecorded hrequest) hremember).1
    exact ⟨hrecorded.remembers, fun hn => hn.other hrecorded (by
      simp only [idempotencyKey, runsEndpoint]
      decide)⟩

theorem commit_keeps {α : Type} {x : Except Failure (State × α)}
    (h : ∀ st' a, x = .ok (st', a) → Keeps st st') : Keeps st (commit st x) :=
  commit_cases (P := fun st' => Keeps st st') (.refl st) h

theorem commit_unrecorded {α : Type} {x : Except Failure (State × α)}
    (h : ∀ st' a, x = .ok (st', a) → Unrecorded st st') : Keeps st (commit st x) :=
  commit_keeps (fun st' a hx => (h st' a hx).keeps)

theorem step_keeps (d : Deployment) (st : State) (op : Op) : Keeps st (step d st op) := by
  cases op with
  | createRun caller versionId buildId plan runId commandId =>
    exact commit_keeps (fun _ _ h => createRun_keeps h)
  | createBuild caller versionId buildId jobId => exact commit_keeps (fun _ _ h => createBuild_keeps h)
  | cancelRun caller runId commandId => exact commit_keeps (fun _ _ h => cancelRun_keeps h)
  | claimWork credential kinds leaseId digest now =>
    exact commit_unrecorded (fun _ _ h => claimRequest_unrecorded h)
  | renewLease call extendSeconds =>
    exact commit_unrecorded (fun _ _ h => underLease_unrecorded h
      (fun _ _ _ _ hrun => renewLease_unrecorded (withoutResult_ok hrun)))
  | updateLeaseStatus call report =>
    exact commit_unrecorded (fun _ _ h => underLease_unrecorded h
      (fun _ _ _ _ hrun => updateLeaseStatus_unrecorded (withoutResult_ok hrun)))
  | completeLease call payload =>
    exact commit_unrecorded (fun _ _ h => underLease_unrecorded h
      (fun _ _ _ hcancel hrun => completeLease_unrecorded hcancel (withoutResult_ok hrun)))
  | issueSecretEnvelope call payload grantId =>
    exact commit_unrecorded (fun _ _ h => underLease_unrecorded h
      (fun _ _ _ _ hrun => issueSecretEnvelope_unrecorded hrun))
  | reapExpiredLeases now batchSize reapCancellations =>
    exact commit_unrecorded (fun _ _ h => reapExpired_unrecorded h)
  | reapOverdueCancellations now batchSize =>
    exact commit_unrecorded (fun _ _ h => reapOverdue_unrecorded h)
  | detectLostWorkers now batchSize =>
    exact commit_unrecorded (fun _ _ h => detectLostWorkers_unrecorded (withoutResult_ok h))
  | directoryChange directory =>
    exact (unrecorded_frame rfl rfl : Unrecorded st { st with directory := directory }).keeps

end Creation
end RoozDataCloud.IdempotencyRecords
