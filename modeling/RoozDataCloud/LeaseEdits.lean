import RoozDataCloud.RunOutcomes

set_option autoImplicit false

/-!
# What requests write into leases

Apart from claims and renewals, a request changes leases in five ways only: a
lease is reported on, cancelled, expired, completed, or lost with its worker.
-/
namespace RoozDataCloud.LeaseEdits
open KeyedTable ExecutionModels FallibleSteps CancellationConvergence
open LeaseReaper WorkClaims LeaseRequests RunRequests ExecutionSystem ExecutionSteps

inductive Edit : ExecutionLease → ExecutionLease → Prop where
  | report (lease : ExecutionLease) (now : Time) : Edit lease (reportedLease now lease)
  | cancel (lease : ExecutionLease) (now : Time) : Edit lease (cancelledLease now lease)
  | expire (lease : ExecutionLease) (now : Time) : Edit lease (expiredLease now lease)
  | complete (lease : ExecutionLease) (delivered : Bool) (code summary : Option String)
      (now : Time) : Edit lease (completedLease delivered code summary now lease)
  | lose (lease : ExecutionLease) (now : Time) (workerId : Uuid)
      (h : liveLease now lease = true → lease.claimedAt < min lease.expiresAt now) :
      Edit lease (loseLease now workerId lease)

abbrev Edits : ExecutionLease → ExecutionLease → Prop := Relation.ReflTransGen Edit

/-- The leases of `st'` are those of `st`, edited; the limits of projects and workers are the
same. -/
structure Edited (st st' : State) : Prop where
  leases : ∃ f : Uuid → ExecutionLease → ExecutionLease,
    (∀ l, st'.leases.get? l = (st.leases.get? l).map (f l)) ∧
      ∀ l lease, st.leases.get? l = some lease → Edits lease (f l lease)
  projects : st'.directory.projects = st.directory.projects
  workers : ∀ w, (st'.directory.workers.get? w).map WorkerIdentity.maxConcurrency =
    (st.directory.workers.get? w).map WorkerIdentity.maxConcurrency

variable {d : Deployment} {st st' : State}

theorem edited_frame (hleases : st'.leases = st.leases) (hdirectory : st'.directory = st.directory) :
    Edited st st' := by
  refine ⟨⟨fun _ lease => lease, fun l => ?_, fun _ _ _ => .refl⟩, ?_, fun w => ?_⟩
  · rw [hleases]
    exact Option.map_id'.symm
  · rw [hdirectory]
  · rw [hdirectory]

theorem Edited.refl (st : State) : Edited st st := edited_frame rfl rfl

theorem Edited.trans {mid : State} (h : Edited st mid) (h' : Edited mid st') : Edited st st' := by
  obtain ⟨f, hf, hedits⟩ := h.leases
  obtain ⟨g, hg, hedits'⟩ := h'.leases
  refine ⟨⟨fun l lease => g l (f l lease), fun l => ?_, fun l lease hlease => ?_⟩,
    h'.projects.trans h.projects, fun w => (h'.workers w).trans (h.workers w)⟩
  · rw [hg, hf, Option.map_map]
    rfl
  · exact (hedits l lease hlease).trans (hedits' l _ (by rw [hf, hlease]; rfl))

/-- What stands in `st'` stood in `st`, before it was edited. -/
theorem Edited.before (h : Edited st st') {l : Uuid} {lease' : ExecutionLease}
    (hlease' : st'.leases.get? l = some lease') :
    ∃ lease, st.leases.get? l = some lease ∧ Edits lease lease' := by
  obtain ⟨f, hf, hedits⟩ := h.leases
  rw [hf] at hlease'
  obtain ⟨lease, hlease, rfl⟩ := Option.map_eq_some_iff.1 hlease'
  exact ⟨lease, hlease, hedits l lease hlease⟩

theorem Edited.after (h : Edited st st') {l : Uuid} {lease : ExecutionLease}
    (hlease : st.leases.get? l = some lease) :
    ∃ lease', st'.leases.get? l = some lease' ∧ Edits lease lease' := by
  obtain ⟨f, hf, hedits⟩ := h.leases
  exact ⟨f l lease, by rw [hf, hlease]; rfl, hedits l lease hlease⟩

theorem edited_mapRows {f : Uuid → ExecutionLease → ExecutionLease}
    (hleases : st'.leases = st.leases.mapRows f) (hdirectory : st'.directory = st.directory)
    (hf : ∀ l lease, st.leases.get? l = some lease → Edits lease (f l lease)) : Edited st st' := by
  refine ⟨⟨f, fun l => ?_, hf⟩, ?_, fun w => ?_⟩
  · rw [hleases, Table.get?_mapRows]
  · rw [hdirectory]
  · rw [hdirectory]

theorem edited_modify {l : Uuid} {g : ExecutionLease → ExecutionLease}
    (hleases : st'.leases = st.leases.modify l g) (hdirectory : st'.directory = st.directory)
    (hg : ∀ lease, Edit lease (g lease)) : Edited st st' := by
  refine edited_mapRows hleases hdirectory (fun l' lease _ => ?_)
  split_ifs with hl
  · exact .single (hg lease)
  · exact .refl

theorem setRun_edited (st : State) (r : Uuid) (f : Run → Run) : Edited st (st.setRun r f) :=
  edited_frame rfl rfl

theorem setBuild_edited (st : State) (b : Uuid) (f : Build → Build) : Edited st (st.setBuild b f) :=
  edited_frame rfl rfl

section Reaping

theorem fence_edited (st : State) (runId : Uuid) (now : Time) (preserveLease : Option Uuid)
    (preserveSource : Option SourceRef) :
    Edited st (fenceCancelledRunLeases st runId now preserveLease preserveSource) := by
  refine edited_mapRows rfl rfl (fun l lease _ => ?_)
  unfold fenceLease
  split_ifs with hfences
  · exact .single (.cancel lease now)
  · exact .refl

theorem converge_edited (st : State) (runId : Uuid) (now : Time) :
    Edited st (convergeCancelledRun st runId now).1 := by
  have hfence := fence_edited st runId now none none
  rcases convergeCancelledRun_cases st runId now with ⟨h, -⟩ | ⟨h, -⟩ | ⟨h, -⟩
  · rw [h]
    exact hfence
  · rw [h]
    exact hfence
  · rw [h]
    exact hfence.trans (edited_frame rfl rfl)

theorem convergeExpired_edited (st : State) (now : Time) (target : Target) :
    Edited st (convergeExpired st now target).1 := by
  rcases convergeExpired_cases st now target with ⟨hbase, -, -⟩ | ⟨r, -, -, hconverge⟩
  · rw [hbase]
    exact .refl st
  · rw [hconverge]
    exact converge_edited st r now

theorem settledExpired_edited {base : State} (hbase : Edited st base) (now : Time) (retry : Bool)
    (next : Option Time) {l : Uuid} {lease : ExecutionLease}
    (hlease : st.leases.get? l = some lease) :
    Edited st (settledExpired now retry next base l lease) := by
  have hdirectory : (settledExpired now retry next base l lease).directory = base.directory := by
    cases htarget : lease.target <;> simp only [settledExpired, expiredTarget, htarget] <;> rfl
  obtain ⟨f, hf, hedits⟩ := hbase.leases
  refine ⟨⟨fun l' => if l' = l then fun _ => expiredLease now lease else f l', fun l' => ?_,
    fun l' row hrow => ?_⟩, ?_, fun w => ?_⟩
  · rw [(settledExpired_tables now retry next base l lease).2, Table.get?_modify, hf]
    dsimp only
    split_ifs
    · rw [Option.map_map]
      rfl
    · rfl
  · dsimp only
    split_ifs with hl
    · rw [hl, hlease] at hrow
      obtain rfl := Option.some.inj hrow
      exact .single (.expire lease now)
    · exact hedits l' row hrow
  · rw [hdirectory, hbase.projects]
  · rw [hdirectory, hbase.workers]

theorem reapLease_edited {now : Time} {l : Uuid} (h : reapLease d now st l = .ok st') :
    Edited st st' := by
  cases hlease : st.leases.get? l with
  | none =>
    simp only [reapLease, hlease, pure_ok] at h
    exact h ▸ .refl st
  | some lease =>
    have hbase := convergeExpired_edited st now lease.target
    rcases reapLease_cases hlease h with ⟨-, rfl⟩ | ⟨-, next, rfl⟩
    · exact hbase
    · exact settledExpired_edited hbase _ _ _ hlease

theorem reapOverdue_edited {now : Time} {batchSize n : ℕ}
    (h : reapOverdueCancellations st now batchSize = .ok (st', n)) : Edited st st' :=
  reapOverdueCancellations_rule (P := fun mid => Edited st mid) h (.refl st)
    (fun mid r hmid => hmid.trans (converge_edited mid r now))

theorem reapExpired_edited {now : Time} {batchSize n : ℕ} {flag : Bool}
    (h : reapExpiredLeases d st now batchSize flag = .ok (st', n)) : Edited st st' := by
  obtain ⟨mid, hloop, hrest⟩ := reapExpiredLeases_ok h
  have hmid := foldlM_rule (fun mid _ => Edited st mid)
    (fun mid mid' l rest hedited hreap => hedited.trans (reapLease_edited hreap)) _ st mid (.refl st)
    hloop
  rcases hrest with rfl | ⟨m, hover⟩
  · exact hmid
  · exact hmid.trans (reapOverdue_edited hover)

theorem loseWorker_edited {now : Time} {workerId : Uuid} (h : loseWorker now st workerId = .ok st') :
    Edited st st' := by
  simp only [loseWorker, bind_ok, require_ok, pure_ok] at h
  obtain ⟨-, hexpiry, rfl⟩ := h
  refine ⟨⟨fun _ lease => loseLease now workerId lease, fun l => Table.get?_mapRows _ _ l,
    fun l lease hlease => ?_⟩, rfl, fun w => Table.map_get?_modify _ _ _ _ _ (fun _ _ => rfl)⟩
  by_cases hworker : lease.workerId = workerId
  · exact .single (.lose lease now workerId
      (hexpiry (l, lease) ((st.leases.get?_eq_some l lease).1 hlease) hworker))
  · have hsame : loseLease now workerId lease = lease := if_neg (fun hboth => hworker hboth.1)
    dsimp only
    rw [hsame]

theorem detectLostWorkers_edited {now : Time} {batchSize : ℕ}
    (h : detectLostWorkers d st now batchSize = .ok st') : Edited st st' := by
  simp only [detectLostWorkers, bind_ok] at h
  obtain ⟨-, -, hloop⟩ := h
  exact foldlM_rule (fun mid _ => Edited st mid)
    (fun mid mid' w rest hedited hlose => hedited.trans (loseWorker_edited hlose)) _ st st' (.refl st)
    hloop

end Reaping

section Submissions

theorem insertSource_edited {ref : SourceRef} {source : OutboxSource}
    (h : insertSource st ref source = .ok st') : Edited st st' := by
  obtain ⟨-, -, hst⟩ := insertSource_ok h
  rw [hst]
  exact edited_frame rfl rfl

theorem createBuild_edited {caller : Caller} {versionId buildId jobId id : Uuid}
    (h : createBuild d st caller versionId buildId jobId = .ok (st', id)) : Edited st st' := by
  rcases createBuild_ok h with rfl | ⟨builds, source, mid, idempotency, -, -, -, hinsert, rfl⟩
  · exact .refl _
  · have hbuilds : Edited st { st with builds := builds } := edited_frame rfl rfl
    exact (hbuilds.trans (insertSource_edited hinsert)).trans (edited_frame rfl rfl)

theorem createRun_edited {caller : Caller} {versionId buildId runId commandId id : Uuid}
    {plan : Except Failure RunPlan}
    (h : createRun d st caller versionId buildId plan runId commandId = .ok (st', id)) :
    Edited st st' := by
  rcases createRun_ok h with rfl | ⟨version, chosen, mid, idempotency, -, hrun, rfl⟩
  · exact .refl _
  · obtain ⟨runs, -, hrest⟩ := insertRun_ok hrun
    have hruns : Edited st { st with runs := runs } := edited_frame rfl rfl
    rcases hrest with ⟨-, rfl⟩ | ⟨-, source, -, -, -, hinsert⟩
    · exact edited_frame rfl rfl
    · exact (hruns.trans (insertSource_edited hinsert)).trans (edited_frame rfl rfl)

theorem ensureCancelCommand_edited {runId commandId : Uuid} {run : Run} {now : Time}
    (h : ensureCancelCommand st runId commandId run now = .ok st') : Edited st st' := by
  rcases ensureCancelCommand_ok h with rfl | ⟨source, -, -, -, hinsert⟩
  · exact .refl _
  · exact insertSource_edited hinsert

theorem withdrawStart_edited (st : State) (runId : Uuid) : Edited st (withdrawStart st runId) := by
  rcases withdrawStart_cases st runId with h | ⟨ref, source, -, -, -, h⟩
  · rw [h]
    exact .refl st
  · rw [h]
    exact edited_frame rfl rfl

theorem cancelRun_edited {caller : Caller} {runId commandId id : Uuid}
    (h : cancelRun d st caller runId commandId = .ok (st', id)) : Edited st st' := by
  rcases cancelRun_ok h with rfl | ⟨run, mid, idempotency, -, hrequest, rfl⟩
  · exact .refl _
  · have hmid : Edited mid { mid with idempotency := idempotency } := edited_frame rfl rfl
    refine Edited.trans ?_ hmid
    rcases requestCancellation_ok hrequest with ⟨-, rfl⟩ | ⟨-, rfl⟩ | ⟨-, hensure⟩ | ⟨-, hensure⟩
    · exact .refl _
    · exact (setRun_edited st runId _).trans (withdrawStart_edited _ runId)
    · exact (setRun_edited st runId _).trans (ensureCancelCommand_edited hensure)
    · exact ensureCancelCommand_edited hensure

end Submissions

section Reports

theorem updateLeaseStatus_edited {l : Uuid} {lease : ExecutionLease} {report : StatusReport}
    {now : Time} (h : updateLeaseStatus st l lease report now = .ok st') : Edited st st' := by
  simp only [updateLeaseStatus, bind_ok, pure_ok] at h
  obtain ⟨mid, htarget, rfl⟩ := h
  have hmid : Edited st mid := by
    rcases updateTargetStatus_ok htarget with
      ⟨b, f, -, rfl⟩ | ⟨r, run, status, -, -, -, -, rfl⟩ | ⟨r, run, -, -, rfl⟩ <;>
    exact edited_frame rfl rfl
  exact hmid.trans (edited_modify rfl rfl (fun row => .report row now))

theorem closeLease_edited (st : State) (l : Uuid) (lease : ExecutionLease) (delivered : Bool)
    (code summary : Option String) (now : Time) :
    Edited st (closeLease st l lease delivered code summary now) :=
  edited_modify rfl rfl (fun row => .complete row delivered code summary now)

theorem retryLease_edited (st : State) (l : Uuid) (lease : ExecutionLease)
    (payload : CompleteLeaseRequest) (available now : Time) :
    Edited st (retryLease st l lease payload available now) := by
  have hleases : (retryLease st l lease payload available now).leases = st.leases.modify l
      (completedLease false (some (payload.errorCode.getD "WORKER_RETRYABLE_FAILURE"))
        payload.errorSummary now) ∧
      (retryLease st l lease payload available now).directory = st.directory := by
    cases htarget : lease.target <;> simp only [retryLease, resetRetryTarget, htarget] <;>
      exact ⟨rfl, rfl⟩
  exact edited_modify hleases.1 hleases.2 (fun row => .complete row _ _ _ now)

theorem settleLease_edited {l : Uuid} {lease : ExecutionLease} {payload : CompleteLeaseRequest}
    {now : Time} (h : settleLease d st l lease payload now = .ok st') : Edited st st' := by
  obtain ⟨artifacts, hcases⟩ := settleLease_ok h
  have hmid : Edited st { st with artifacts := artifacts } := edited_frame rfl rfl
  rcases hcases with ⟨available, -, rfl⟩ | ⟨b, build, delivered, -, rfl⟩ | ⟨r, run, cancel, -, -, rfl⟩
  · exact hmid.trans (retryLease_edited ..)
  · exact (hmid.trans (setBuild_edited _ b _)).trans (closeLease_edited ..)
  · have hconfirm : Edited { st with artifacts := artifacts }
        (confirmFence { st with artifacts := artifacts } l lease r cancel payload now) := by
      unfold confirmFence
      split_ifs
      · exact fence_edited ..
      · exact .refl _
    exact ((hmid.trans hconfirm).trans (setRun_edited _ r _)).trans (closeLease_edited ..)

theorem completeLease_edited {l : Uuid} {lease : ExecutionLease} {payload : CompleteLeaseRequest}
    {now : Time} (hcancel : ∀ r, lease.target = .runStart r → cancelRequested st r = false)
    (h : completeLease d st l lease payload now = .ok st') : Edited st st' := by
  obtain ⟨mid, hsettle, rfl⟩ := completeLease_ok hcancel h
  exact (settleLease_edited hsettle).trans (edited_frame rfl rfl)

theorem issueSecretEnvelope_edited {worker : WorkerIdentity} {l : Uuid} {lease : ExecutionLease}
    {payload : SecretEnvelopeRequest} {grantId id : Uuid} {now : Time}
    (h : issueSecretEnvelope d st worker l lease payload grantId now = .ok (st', id)) :
    Edited st st' := by
  rcases issueSecretEnvelope_ok h with rfl | ⟨runId, fingerprint, -, hst⟩
  · exact .refl _
  · rw [hst]
    exact edited_frame rfl rfl

theorem resolveWorkerContext_edited {credential : WorkerCredential} {worker : WorkerIdentity}
    (h : resolveWorkerContext st credential = .ok (st', worker)) : Edited st st' := by
  simp only [resolveWorkerContext, bind_ok, pure_ok, Prod.mk.injEq] at h
  obtain ⟨-, -, -, -, -, -, -, -, -, -, rfl, -⟩ := h
  exact ⟨(Edited.refl st).leases, rfl, fun w => Table.map_get?_modify _ _ _ _ _ (fun _ _ => rfl)⟩

end Reports
end RoozDataCloud.LeaseEdits
