import RoozDataCloud.LeaseEdits

set_option autoImplicit false

/-!
# Admission limits

Admission counts the leases that are live when it looks. The limits hold at all
times because no request but a claim makes a lease live: a lease that is renewed
was live when the request was authorized.
-/
namespace RoozDataCloud.AdmissionLimits
open KeyedTable ExecutionModels FallibleSteps ExecutionRecovery CancellationConvergence
open LeaseReaper WorkClaims LeaseRequests RunRequests ExecutionSystem ExecutionMoves ExecutionSteps
open LeaseEdits

structure WithinLimits (st : State) (now : Time) : Prop where
  projects : ∀ p project, st.directory.projects.get? p = some project →
    activeProjectLeases st p now ≤ project.maxActiveLeases
  workers : ∀ w worker, st.directory.workers.get? w = some worker →
    activeWorkerLeaseCount st w now ≤ worker.maxConcurrency

structure SameLimits (a b : Directory) : Prop where
  projects : ∀ p, (b.projects.get? p).map Project.maxActiveLeases =
    (a.projects.get? p).map Project.maxActiveLeases
  workers : ∀ w, (b.workers.get? w).map WorkerIdentity.maxConcurrency =
    (a.workers.get? w).map WorkerIdentity.maxConcurrency

theorem SameLimits.refl (a : Directory) : SameLimits a a := ⟨fun _ => rfl, fun _ => rfl⟩

theorem SameLimits.trans {a b c : Directory} (h : SameLimits a b) (h' : SameLimits b c) :
    SameLimits a c :=
  ⟨fun p => (h'.projects p).trans (h.projects p), fun w => (h'.workers w).trans (h.workers w)⟩

/-- The columns that admission counts by. -/
structure SameHolder (lease lease' : ExecutionLease) : Prop where
  workerId : lease'.workerId = lease.workerId
  projectId : lease'.projectId = lease.projectId
  target : lease'.target = lease.target
  deadlineAt : lease'.deadlineAt = lease.deadlineAt

theorem SameHolder.refl (lease : ExecutionLease) : SameHolder lease lease := ⟨rfl, rfl, rfl, rfl⟩

theorem SameHolder.trans {a b c : ExecutionLease} (h : SameHolder a b) (h' : SameHolder b c) :
    SameHolder a c :=
  ⟨h'.workerId.trans h.workerId, h'.projectId.trans h.projectId, h'.target.trans h.target,
    h'.deadlineAt.trans h.deadlineAt⟩

/-- Every `ACTIVE` lease was `ACTIVE` before, and does not end later than it did. -/
def Shrinks (st st' : State) : Prop :=
  ∀ l lease', st'.leases.get? l = some lease' → lease'.status = .active →
    ∃ lease, st.leases.get? l = some lease ∧ SameHolder lease lease' ∧ lease.status = .active ∧
      lease'.expiresAt ≤ lease.expiresAt

structure Quiet (st st' : State) : Prop where
  leases : Shrinks st st'
  limits : SameLimits st.directory st'.directory

variable {d : Deployment} {st st' : State}

theorem Quiet.refl (st : State) : Quiet st st :=
  ⟨fun _ lease h hactive => ⟨lease, h, .refl lease, hactive, le_rfl⟩, .refl _⟩

theorem quiet_frame (hleases : st'.leases = st.leases) (hdirectory : st'.directory = st.directory) :
    Quiet st st' := by
  refine ⟨fun l lease h hactive => ⟨lease, hleases ▸ h, .refl lease, hactive, le_rfl⟩, ?_⟩
  rw [hdirectory]
  exact .refl _

theorem edit_shrinks {lease lease' : ExecutionLease} (h : Edit lease lease')
    (hactive : lease'.status = .active) :
    SameHolder lease lease' ∧ lease.status = .active ∧ lease'.expiresAt ≤ lease.expiresAt := by
  cases h with
  | report => exact ⟨⟨rfl, rfl, rfl, rfl⟩, hactive, le_rfl⟩
  | cancel => cases hactive
  | expire now =>
    simp only [expiredLease] at hactive
    split_ifs at hactive
  | complete delivered =>
    simp only [completedLease] at hactive
    split_ifs at hactive
  | lose now workerId =>
    unfold loseLease at hactive ⊢
    split_ifs at hactive ⊢
    · exact ⟨⟨rfl, rfl, rfl, rfl⟩, hactive, min_le_left _ _⟩
    · exact ⟨.refl lease, hactive, le_rfl⟩

theorem edits_shrink {lease lease' : ExecutionLease} (h : Edits lease lease')
    (hactive : lease'.status = .active) :
    SameHolder lease lease' ∧ lease.status = .active ∧ lease'.expiresAt ≤ lease.expiresAt := by
  induction h with
  | refl => exact ⟨.refl lease, hactive, le_rfl⟩
  | tail _ hedit ih =>
    obtain ⟨hsame, hmiddle, hexpires⟩ := edit_shrinks hedit hactive
    obtain ⟨hfirst, hstart, hend⟩ := ih hmiddle
    exact ⟨hfirst.trans hsame, hstart, hexpires.trans hend⟩

theorem edited_quiet (h : Edited st st') : Quiet st st' := by
  refine ⟨fun l lease' hlease' hactive => ?_, fun p => ?_, h.workers⟩
  · obtain ⟨lease, hlease, hedits⟩ := h.before hlease'
    exact ⟨lease, hlease, edits_shrink hedits hactive⟩
  · rw [h.projects]

/-- The counted leases at the end of a request were counted when it began. -/
structure Dwindles (start now : Time) (st st' : State) : Prop where
  leases : ∀ l lease', st'.leases.get? l = some lease' → liveLease now lease' = true →
    ∃ lease, st.leases.get? l = some lease ∧ SameHolder lease lease' ∧ liveLease start lease = true
  limits : SameLimits st.directory st'.directory

theorem liveLease_iff {now : Time} {lease : ExecutionLease} :
    liveLease now lease = true ↔
      lease.status = .active ∧ now < lease.expiresAt ∧ now < lease.deadlineAt := by
  simp only [liveLease, Bool.and_eq_true, decide_eq_true_eq, and_assoc]

theorem Quiet.dwindles (h : Quiet st st') {start now : Time} (hle : start ≤ now) :
    Dwindles start now st st' := by
  refine ⟨fun l lease' hlease' hlive => ?_, h.limits⟩
  obtain ⟨hactive', hexpires', hdeadline'⟩ := liveLease_iff.1 hlive
  obtain ⟨lease, hlease, hsame, hactive, hexpires⟩ := h.leases l lease' hlease' hactive'
  rw [hsame.deadlineAt] at hdeadline'
  exact ⟨lease, hlease, hsame, liveLease_iff.2
    ⟨hactive, (hle.trans_lt hexpires').trans_le hexpires, hle.trans_lt hdeadline'⟩⟩

theorem Dwindles.trans {mid : State} {start between now : Time} (h : Dwindles start between st mid)
    (h' : Dwindles between now mid st') : Dwindles start now st st' := by
  refine ⟨fun l lease' hlease' hlive' => ?_, h.limits.trans h'.limits⟩
  obtain ⟨middle, hmiddle, hsame', hlive⟩ := h'.leases l lease' hlease' hlive'
  obtain ⟨lease, hlease, hsame, hstart⟩ := h.leases l middle hmiddle hlive
  exact ⟨lease, hlease, hsame.trans hsame', hstart⟩

theorem Dwindles.activeProjectLeases_le {start now : Time} (h : Dwindles start now st st') (p : Uuid) :
    activeProjectLeases st' p now ≤ activeProjectLeases st p start := by
  refine Table.count_le_count (fun l lease' hlease' hcounted => ?_)
  simp only [Bool.and_eq_true, decide_eq_true_eq] at hcounted
  obtain ⟨⟨hproject, hlive⟩, hkind⟩ := hcounted
  obtain ⟨lease, hlease, hsame, hstart⟩ := h.leases l lease' hlease' hlive
  rw [hsame.projectId] at hproject
  rw [hsame.target] at hkind
  exact ⟨lease, hlease, by simp [hproject, hstart, hkind]⟩

theorem Dwindles.activeWorkerLeaseCount_le {start now : Time} (h : Dwindles start now st st')
    (w : Uuid) : activeWorkerLeaseCount st' w now ≤ activeWorkerLeaseCount st w start := by
  refine Table.count_le_count (fun l lease' hlease' hcounted => ?_)
  simp only [Bool.and_eq_true, decide_eq_true_eq] at hcounted
  obtain ⟨lease, hlease, hsame, hstart⟩ := h.leases l lease' hlease' hcounted.2
  exact ⟨lease, hlease, by simp [hsame.workerId ▸ hcounted.1, hstart]⟩

theorem Dwindles.within {start now : Time} (h : Dwindles start now st st')
    (hwithin : WithinLimits st start) : WithinLimits st' now := by
  constructor
  · intro p project hproject
    have hlimit := h.limits.projects p
    rw [hproject, Option.map_some] at hlimit
    obtain ⟨before, hbefore, hmax⟩ := Option.map_eq_some_iff.1 hlimit.symm
    calc activeProjectLeases st' p now ≤ activeProjectLeases st p start := h.activeProjectLeases_le p
      _ ≤ before.maxActiveLeases := hwithin.projects p before hbefore
      _ = project.maxActiveLeases := hmax
  · intro w worker hworker
    have hlimit := h.limits.workers w
    rw [hworker, Option.map_some] at hlimit
    obtain ⟨before, hbefore, hmax⟩ := Option.map_eq_some_iff.1 hlimit.symm
    calc activeWorkerLeaseCount st' w now ≤ activeWorkerLeaseCount st w start :=
          h.activeWorkerLeaseCount_le w
      _ ≤ before.maxConcurrency := hwithin.workers w before hbefore
      _ = worker.maxConcurrency := hmax

theorem WithinLimits.later {start now : Time} (h : WithinLimits st start) (hle : start ≤ now) :
    WithinLimits st now :=
  ((Quiet.refl st).dwindles hle).within h

theorem requireLeaseAccess_live {credential : WorkerCredential} {leaseId : Uuid} {digest : String}
    {lease : ExecutionLease} (h : requireLeaseAccess st credential leaseId digest = .ok lease) :
    liveLease credential.now lease = true := by
  simp only [requireLeaseAccess, bind_ok, require_ok, demand_ok, pure_ok] at h
  obtain ⟨lease', -, -, -, -, hactive, -, hexpires, -, hdeadline, -, -, _, -, rfl⟩ := h
  exact liveLease_iff.2 ⟨hactive, hexpires, hdeadline⟩

theorem underLease_dwindles {α : Type} {call : LeaseCall} {result : α}
    {body : State → WorkerIdentity → ExecutionLease → Except Failure (State × α)}
    (h : underLease st call body = .ok (st', result))
    (hbody : ∀ base worker lease, base.leases.get? call.leaseId = some lease →
      liveLease call.credential.now lease = true →
      (∀ r, lease.target = .runStart r → cancelRequested base r = false) →
      body base worker lease = .ok (st', result) →
      Dwindles call.credential.now call.now base st') :
    Dwindles call.credential.now call.now st st' := by
  simp only [underLease, bind_ok] at h
  obtain ⟨⟨base, worker⟩, hresolve, lease, haccess, hrun⟩ := h
  obtain ⟨hlease, -, hcancel⟩ := requireLeaseAccess_ok haccess
  have hquiet := edited_quiet (resolveWorkerContext_edited hresolve)
  exact (hquiet.dwindles le_rfl).trans
    (hbody base worker lease hlease (requireLeaseAccess_live haccess) hcancel hrun)

theorem renewLease_dwindles {l : Uuid} {lease : ExecutionLease} {extendSeconds : ℕ}
    {start now : Time} (hlease : st.leases.get? l = some lease) (hlive : liveLease start lease = true)
    (hle : start ≤ now) (h : renewLease d st l lease extendSeconds now = .ok st') :
    Dwindles start now st st' := by
  obtain ⟨extended, -, rfl⟩ := renewLease_ok h
  refine ⟨fun l' lease' hlease' hlive' => ?_, .refl _⟩
  rw [State.setLease, Table.get?_modify] at hlease'
  split_ifs at hlease' with hl
  · rw [hl, hlease] at hlease'
    obtain rfl := Option.some.inj hlease'
    exact ⟨lease, hl ▸ hlease, ⟨rfl, rfl, rfl, rfl⟩, hlive⟩
  · exact ((Quiet.refl st).dwindles hle).leases l' lease' hlease' hlive'

theorem insert_within {leases : Table Uuid ExecutionLease} {l : Uuid} {lease : ExecutionLease}
    {now : Time} (hinsert : st.leases.insert? l lease = some leases)
    (hleases : st'.leases = leases) (hdirectory : st'.directory = st.directory)
    (hproject : ∀ project, st.directory.projects.get? lease.projectId = some project →
      lease.target.kind ∈ projectExecutionSlotKinds →
      activeProjectLeases st lease.projectId now < project.maxActiveLeases)
    (hworker : ∀ worker, st.directory.workers.get? lease.workerId = some worker →
      activeWorkerLeaseCount st lease.workerId now < worker.maxConcurrency)
    (hwithin : WithinLimits st now) : WithinLimits st' now := by
  constructor
  · intro p project hget
    rw [hdirectory] at hget
    have hbound := hwithin.projects p project hget
    rw [activeProjectLeases, hleases, Table.count_insert _ hinsert]
    split_ifs with hcounted
    · simp only [Bool.and_eq_true, decide_eq_true_eq] at hcounted
      obtain ⟨⟨rfl, -⟩, hkind⟩ := hcounted
      exact hproject project hget hkind
    · exact hbound
  · intro w worker hget
    rw [hdirectory] at hget
    have hbound := hwithin.workers w worker hget
    rw [activeWorkerLeaseCount, hleases, Table.count_insert _ hinsert]
    split_ifs with hcounted
    · simp only [Bool.and_eq_true, decide_eq_true_eq] at hcounted
      obtain ⟨rfl, -⟩ := hcounted
      exact hworker worker hget
    · exact hbound

theorem startTarget_frame {now : Time} {target : Target} (h : startTarget st now target = .ok st') :
    st'.leases = st.leases ∧ st'.directory = st.directory := by
  rcases startTarget_ok h with ⟨b, -, rfl⟩ | ⟨r, run, -, -, -, rfl⟩ | ⟨r, run, -, -, -, rfl⟩ <;>
    exact ⟨rfl, rfl⟩

theorem dispatchSource_within {ticket : ClaimTicket} {ref : SourceRef} {source : OutboxSource}
    {lease : ExecutionLease} (hwithin : WithinLimits st ticket.now)
    (hworker : ∀ worker, st.directory.workers.get? ticket.workerId = some worker →
      activeWorkerLeaseCount st ticket.workerId ticket.now < worker.maxConcurrency)
    (h : dispatchSource d st ticket ref source = .ok (st', lease)) : WithinLimits st' ticket.now := by
  have hadmitted : ∀ project, st.directory.projects.get? source.projectId = some project →
      source.target.kind ∈ projectExecutionSlotKinds →
      activeProjectLeases st source.projectId ticket.now < project.maxActiveLeases := by
    simp only [dispatchSource, lockProjectAdmission, bind_ok, demand_ok, require_ok, pure_ok] at h
    obtain ⟨-, ⟨project, hproject, -, -, -, hslot, -⟩, -⟩ := h
    intro project' hproject'
    obtain rfl := Option.some.inj (hproject.symm.trans hproject')
    exact hslot
  obtain ⟨expires, deadline, leases, rfl, -, hinsert, hstart⟩ := dispatchSource_ok h
  obtain ⟨hleases, hdirectory⟩ := startTarget_frame hstart
  exact insert_within hinsert hleases hdirectory hadmitted hworker hwithin

theorem claimFirst_within {ticket : ClaimTicket} {kinds : List WorkKind}
    {result : Option ExecutionLease} (hwithin : WithinLimits st ticket.now)
    (hworker : ∀ worker, st.directory.workers.get? ticket.workerId = some worker →
      activeWorkerLeaseCount st ticket.workerId ticket.now < worker.maxConcurrency)
    (h : claimFirst d st ticket kinds = .ok (st', result)) : WithinLimits st' ticket.now := by
  rcases claimFirst_ok h with ⟨rfl, -⟩ | ⟨kind, ref, source, -, -, hclaim⟩
  · exact hwithin
  · rcases claimSource_ok hclaim with ⟨r, run, -, -, -, rfl⟩ | ⟨lease, -, hdispatch⟩
    · have hrefused : Quiet st ((st.setSource ref (refusedSource ticket.now)).setRun r
          (refusedRun ticket.now)) := quiet_frame rfl rfl
      exact (hrefused.dwindles le_rfl).within hwithin
    · exact dispatchSource_within hwithin hworker hdispatch

theorem claimWork_within {ticket : ClaimTicket} {kinds : List WorkKind}
    {result : Option ExecutionLease} (hwithin : WithinLimits st ticket.now)
    (h : claimWork d st ticket kinds = .ok (st', result)) : WithinLimits st' ticket.now := by
  simp only [claimWork, admitWorker, bind_ok, demand_ok, require_ok] at h
  obtain ⟨⟨mid, n⟩, hreap, -, ⟨worker, hworker, -, -, -, -, -, -, hroom⟩, hclaim⟩ := h
  have hmid := ((edited_quiet (reapExpired_edited hreap)).dwindles le_rfl).within hwithin
  refine claimFirst_within hmid (fun worker' hworker' => ?_) hclaim
  obtain rfl := Option.some.inj (hworker.symm.trans hworker')
  exact hroom

/-- The times at which a request reads the clock, in order. -/
def readings : Op → List Time
  | .createRun caller .. | .createBuild caller .. | .cancelRun caller .. => [caller.now]
  | .claimWork credential _ _ _ now => [credential.now, now]
  | .renewLease call _ | .updateLeaseStatus call _ | .completeLease call _
  | .issueSecretEnvelope call .. => [call.credential.now, call.now]
  | .reapExpiredLeases now .. | .reapOverdueCancellations now _ | .detectLostWorkers now _ => [now]
  | .directoryChange _ => []

/-- Other services do not change a limit. -/
def KeepsLimits (st : State) : Op → Prop
  | .directoryChange directory => SameLimits st.directory directory
  | _ => True

/-- The clock after the readings, if it stood at `start` before. -/
def clockAfter (start : Time) (times : List Time) : Time := times.getLastD start

theorem clockAfter_append (start : Time) (times rest : List Time) :
    clockAfter start (times ++ rest) = clockAfter (clockAfter start times) rest := by
  induction times generalizing start with
  | nil => rfl
  | cons time times ih =>
    simp only [clockAfter, List.cons_append, List.getLastD_cons] at ih ⊢
    exact ih time

theorem clockAfter_chain {start : Time} {times rest : List Time}
    (h : List.IsChain (· ≤ ·) (start :: (times ++ rest))) :
    List.IsChain (· ≤ ·) (clockAfter start times :: rest) := by
  induction times generalizing start with
  | nil => exact h
  | cons time times ih =>
    simp only [clockAfter, List.getLastD_cons] at ih ⊢
    exact ih (List.isChain_cons_cons.1 h).2

theorem commit_within {α : Type} {x : Except Failure (State × α)} {now : Time}
    (h : WithinLimits st now) (hok : ∀ st' a, x = .ok (st', a) → WithinLimits st' now) :
    WithinLimits (commit st x) now :=
  commit_cases (P := fun st => WithinLimits st now) h hok

theorem quiet_within {α : Type} {x : Except Failure (State × α)} {start now : Time}
    (hwithin : WithinLimits st start) (hclock : List.IsChain (· ≤ ·) [start, now])
    (hquiet : ∀ st' a, x = .ok (st', a) → Quiet st st') : WithinLimits (commit st x) now := by
  have hle : start ≤ now := List.isChain_pair.1 hclock
  exact commit_within (hwithin.later hle) (fun st' a h => ((hquiet st' a h).dwindles hle).within hwithin)

theorem underLease_within {α : Type} {call : LeaseCall} {start : Time}
    {body : State → WorkerIdentity → ExecutionLease → Except Failure (State × α)}
    (hwithin : WithinLimits st start)
    (hclock : List.IsChain (· ≤ ·) [start, call.credential.now, call.now])
    (hbody : ∀ base st' worker lease result, base.leases.get? call.leaseId = some lease →
      liveLease call.credential.now lease = true →
      (∀ r, lease.target = .runStart r → cancelRequested base r = false) →
      body base worker lease = .ok (st', result) → call.credential.now ≤ call.now →
      Dwindles call.credential.now call.now base st') :
    WithinLimits (commit st (underLease st call body)) call.now := by
  obtain ⟨hstart, hrest⟩ := List.isChain_cons_cons.1 hclock
  have hle : call.credential.now ≤ call.now := List.isChain_pair.1 hrest
  refine commit_within (hwithin.later (hstart.trans hle)) (fun st' result h => ?_)
  refine (underLease_dwindles h (fun base worker lease hlease hlive hcancel hrun => ?_)).within
    (hwithin.later hstart)
  exact hbody base st' worker lease result hlease hlive hcancel hrun hle

theorem claimRequest_within {credential : WorkerCredential} {kinds : List WorkKind} {leaseId : Uuid}
    {digest : String} {start now : Time} (hwithin : WithinLimits st start)
    (hclock : List.IsChain (· ≤ ·) [start, credential.now, now]) :
    WithinLimits (commit st (claimRequest d st credential kinds leaseId digest now)) now := by
  obtain ⟨hstart, hrest⟩ := List.isChain_cons_cons.1 hclock
  have hle : start ≤ now := hstart.trans (List.isChain_pair.1 hrest)
  refine commit_within (hwithin.later hle) (fun st' _ h => ?_)
  simp only [claimRequest, bind_ok] at h
  obtain ⟨⟨mid, worker⟩, hresolve, hclaim⟩ := h
  have hmid := ((edited_quiet (resolveWorkerContext_edited hresolve)).dwindles hle).within hwithin
  exact claimWork_within hmid hclaim

theorem step_within {start : Time} (op : Op) (hwithin : WithinLimits st start)
    (hclock : List.IsChain (· ≤ ·) (start :: readings op)) (hlimits : KeepsLimits st op) :
    WithinLimits (step d st op) (clockAfter start (readings op)) := by
  cases op with
  | createRun caller versionId buildId plan runId commandId =>
    exact quiet_within hwithin hclock (fun _ _ h => edited_quiet (createRun_edited h))
  | createBuild caller versionId buildId jobId =>
    exact quiet_within hwithin hclock (fun _ _ h => edited_quiet (createBuild_edited h))
  | cancelRun caller runId commandId =>
    exact quiet_within hwithin hclock (fun _ _ h => edited_quiet (cancelRun_edited h))
  | claimWork credential kinds leaseId digest now => exact claimRequest_within hwithin hclock
  | renewLease call extendSeconds =>
    exact underLease_within hwithin hclock (fun _ _ _ _ _ hlease hlive _ h hle =>
      renewLease_dwindles hlease hlive hle (withoutResult_ok h))
  | updateLeaseStatus call report =>
    exact underLease_within hwithin hclock (fun _ _ _ _ _ _ _ _ h hle =>
      (edited_quiet (updateLeaseStatus_edited (withoutResult_ok h))).dwindles hle)
  | completeLease call payload =>
    exact underLease_within hwithin hclock (fun _ _ _ _ _ _ _ hcancel h hle =>
      (edited_quiet (completeLease_edited hcancel (withoutResult_ok h))).dwindles hle)
  | issueSecretEnvelope call payload grantId =>
    exact underLease_within hwithin hclock (fun _ _ _ _ _ _ _ _ h hle =>
      (edited_quiet (issueSecretEnvelope_edited h)).dwindles hle)
  | reapExpiredLeases now batchSize reapCancellations =>
    exact quiet_within hwithin hclock (fun _ _ h => edited_quiet (reapExpired_edited h))
  | reapOverdueCancellations now batchSize =>
    exact quiet_within hwithin hclock (fun _ _ h => edited_quiet (reapOverdue_edited h))
  | detectLostWorkers now batchSize =>
    exact quiet_within hwithin hclock (fun _ _ h =>
      edited_quiet (detectLostWorkers_edited (withoutResult_ok h)))
  | directoryChange directory =>
    have hsame : Quiet st { st with directory := directory } :=
      ⟨(Quiet.refl st).leases, hlimits⟩
    exact (hsame.dwindles le_rfl).within hwithin

/-- Along every sequence of requests under a clock that does not go back and limits that others do
not change, the live leases stay within the limits of their projects and workers. -/
theorem admission_limits_hold (d : Deployment) (st : State) (start : Time) (ops : List Op)
    (hwithin : WithinLimits st start)
    (hclock : List.IsChain (· ≤ ·) (start :: ops.flatMap readings))
    (hlimits : Along (step d) KeepsLimits st ops) :
    WithinLimits (after d st ops) (clockAfter start (ops.flatMap readings)) := by
  induction ops generalizing st start with
  | nil => exact hwithin
  | cons op ops ih =>
    rw [List.flatMap_cons] at hclock ⊢
    have hfirst : List.IsChain (· ≤ ·) (start :: readings op) := by
      rw [← List.cons_append] at hclock
      exact hclock.left_of_append
    rw [clockAfter_append]
    exact ih (step d st op) _ (step_within op hwithin hfirst hlimits.1) (clockAfter_chain hclock)
      hlimits.2

theorem initial_within (directory : Directory) (now : Time) : WithinLimits (initial directory) now :=
  ⟨fun _ _ _ => Nat.zero_le _, fun _ _ _ => Nat.zero_le _⟩

set_option maxRecDepth 4000 in
/-- Under the start lease and the reported cancel lease, the worker stays within its limit. -/
theorem sample_limits_hold :
    WithinLimits (after plainDeployment (initial RunOutcomes.sampleDirectory)
      RunOutcomes.failedCancellation) 7 ∧
    activeWorkerLeaseCount (after plainDeployment (initial RunOutcomes.sampleDirectory)
      RunOutcomes.failedCancellation) 1 7 = 1 := by
  refine ⟨?_, by decide +kernel⟩
  have hclock : List.IsChain (· ≤ ·) (0 :: RunOutcomes.failedCancellation.flatMap readings) := by
    decide +kernel
  exact admission_limits_hold plainDeployment (initial RunOutcomes.sampleDirectory) 0
    RunOutcomes.failedCancellation (initial_within _ 0) hclock
    ⟨trivial, trivial, trivial, trivial, trivial, trivial, trivial, trivial, trivial⟩

end RoozDataCloud.AdmissionLimits
