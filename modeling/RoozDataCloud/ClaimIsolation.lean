import RoozDataCloud.ExecutionSystem

set_option autoImplicit false

/-!
# What one work item's claim depends on

`claim_work` stays with the first item it selects: it returns empty-handed or
raises when that item cannot be dispatched, whatever else is waiting.
-/
namespace RoozDataCloud.ClaimIsolation
open KeyedTable ExecutionModels FallibleSteps ExecutionRecovery LeaseReaper WorkClaims LeaseRequests
open ExecutionSystem

def granted : Except Failure (State × Option ExecutionLease) → Bool
  | .ok (_, some _) => true
  | _ => false

theorem granted_iff {x : Except Failure (State × Option ExecutionLease)} :
    granted x = true ↔ ∃ st lease, x = .ok (st, some lease) := by
  constructor
  · intro h
    unfold granted at h
    split at h
    · rename_i st lease
      exact ⟨st, lease, rfl⟩
    · cases h
  · rintro ⟨st, lease, rfl⟩
    rfl

/-- The state in which a claim at this time selects its work. -/
def reaped (d : Deployment) (st : State) (now : Time) : State :=
  commit st (reapExpiredLeases d st now 100 true)

theorem claimWork_reaped {d : Deployment} {st : State} {ticket : ClaimTicket} {kinds : List WorkKind}
    (h : admitWorker (reaped d st ticket.now) ticket.workerId kinds ticket.now = .ok ()) :
    claimWork d st ticket kinds = claimFirst d (reaped d st ticket.now) ticket kinds := by
  obtain ⟨st', n, hreap⟩ := reapExpiredLeases_total d st ticket.now 100 (by decide)
  have hreaped : reaped d st ticket.now = st' := by
    rw [reaped, hreap]
    rfl
  rw [hreaped] at h ⊢
  simp only [claimWork, hreap, h, bind, Except.bind]

/-- The database with no other item pending. -/
def considerAlone (st : State) (ref : SourceRef) : State :=
  { st with outbox := st.outbox.mapRows (fun ref' source =>
      if ref' ≠ ref ∧ source.status = .pending then { source with status := .cancelled } else source) }

/-- With no other item pending, the worker would be given the item. -/
def ClaimableAlone (d : Deployment) (st : State) (ticket : ClaimTicket) (kinds : List WorkKind)
    (ref : SourceRef) : Prop :=
  granted (claimFirst d (considerAlone st ref) ticket kinds) = true

instance decidableClaimableAlone (d : Deployment) (st : State) (ticket : ClaimTicket)
    (kinds : List WorkKind) (ref : SourceRef) :
    Decidable (ClaimableAlone d st ticket kinds ref) :=
  inferInstanceAs (Decidable (_ = true))

def firstSelected (st : State) (kinds : List WorkKind) (now : Time) :
    Option (SourceRef × OutboxSource) :=
  kinds.findSome? (fun kind => selectSource st kind now)

theorem claimFirst_eq (d : Deployment) (st : State) (ticket : ClaimTicket) (kinds : List WorkKind) :
    claimFirst d st ticket kinds =
      match firstSelected st kinds ticket.now with
      | some (ref, source) => claimSource d st ticket ref source
      | none => pure (st, none) := by
  induction kinds with
  | nil => rfl
  | cons kind kinds ih =>
    unfold claimFirst firstSelected
    rw [List.findSome?_cons]
    cases selectSource st kind ticket.now with
    | none => exact ih
    | some row => rfl

/-- The item's target is in the state that a claim of its kind starts from. -/
def Startable (st : State) : Target → Prop
  | .build b => ∃ build, st.builds.get? b = some build ∧ build.status = .queued ∧
      (st.directory.agentVersions.get? build.agentVersionId).isSome = true ∧
      ∃ objectId, build.sourceObjectId = some objectId ∧
        (st.directory.storageObjects.get? objectId).any (fun object =>
          object.organizationId = build.organizationId && object.projectId = build.projectId &&
          object.status = .available && object.scanStatus = .passed && object.deletedAt = none) = true
  | .runStart r => ∃ run, st.runs.get? r = some run ∧
      (st.directory.agentVersions.get? run.agentVersionId).isSome = true ∧ run.status = .queued
  | .runCancel r => ∃ run, st.runs.get? r = some run ∧
      (st.directory.agentVersions.get? run.agentVersionId).isSome = true ∧ run.status = .aborting

/-- The constraints on `execution_leases` accept the lease. -/
structure Insertable (st : State) (id : Uuid) (lease : ExecutionLease) : Prop where
  attempt_new : ∀ row ∈ st.leases.rows,
    ¬ (row.2.source = lease.source ∧ row.2.attempt = lease.attempt)
  source_free : ∀ row ∈ st.leases.rows, ¬ (row.2.source = lease.source ∧ row.2.status = .active)
  token_new : ∀ row ∈ st.leases.rows, row.2.leaseTokenDigest ≠ lease.leaseTokenDigest
  attempt_bounds : 1 ≤ lease.attempt ∧ lease.attempt ≤ 20
  expiry : lease.claimedAt < lease.expiresAt
  deadline : lease.claimedAt < lease.deadlineAt ∧ lease.expiresAt ≤ lease.deadlineAt
  tenancy : leaseTenancy st lease = true
  id_new : (st.leases.insert? id lease).isSome = true

def leaseExpiry (d : Deployment) (now deadline : Time) : Time :=
  min (min (now + seconds d.settings.workerLeaseSeconds)
    (now + seconds d.settings.workerLeaseMaxSeconds)) deadline

/-- What the claim of a selected item needs: its project is active and, for an execution, has a
free slot; it has a deadline ahead; its lease is accepted; and its target is waiting for it. -/
structure Dispatchable (d : Deployment) (st : State) (ticket : ClaimTicket) (ref : SourceRef)
    (source : OutboxSource) : Prop where
  project : ∃ project, st.directory.projects.get? source.projectId = some project ∧
    projectEnabled project = true ∧ (source.target.kind ∈ projectExecutionSlotKinds →
      activeProjectLeases st source.projectId ticket.now < project.maxActiveLeases)
  lease : ∃ deadline, claimDeadline d source ticket.now = .ok deadline ∧ ticket.now < deadline ∧
    1 ≤ d.settings.workerLeaseMaxSeconds ∧
    Insertable st ticket.leaseId
      (claimedLease ticket ref source (leaseExpiry d ticket.now deadline) deadline)
  target : Startable st source.target

section Dispatch
variable {d : Deployment} {st : State} {ticket : ClaimTicket} {ref : SourceRef}
  {source : OutboxSource}

theorem lockProjectAdmission_iff :
    (∃ project, lockProjectAdmission st source.projectId source.target.kind ticket.now =
      .ok project) ↔
    ∃ project, st.directory.projects.get? source.projectId = some project ∧
      projectEnabled project = true ∧ (source.target.kind ∈ projectExecutionSlotKinds →
        activeProjectLeases st source.projectId ticket.now < project.maxActiveLeases) := by
  simp only [lockProjectAdmission, bind_ok, demand_ok, require_ok, pure_ok]
  constructor
  · rintro ⟨project, project', hproject, -, henabled, -, hslot, rfl⟩
    exact ⟨project', hproject, henabled, hslot⟩
  · rintro ⟨project, hproject, henabled, hslot⟩
    exact ⟨project, project, hproject, (), henabled, (), hslot, rfl⟩

theorem insertLease_iff {id : Uuid} {lease : ExecutionLease} :
    (∃ st', insertLease st id lease = .ok st') ↔ Insertable st id lease := by
  simp only [insertLease, bind_ok, demand_ok, require_ok, pure_ok]
  constructor
  · rintro ⟨st', -, hattempt, -, hsource, -, htoken, -, hbounds, -, hexpiry, -, hdeadline, -,
      htenancy, leases, hinsert, rfl⟩
    exact ⟨hattempt, hsource, htoken, hbounds, hexpiry, hdeadline, htenancy,
      Option.isSome_iff_exists.2 ⟨leases, hinsert⟩⟩
  · intro h
    obtain ⟨leases, hinsert⟩ := Option.isSome_iff_exists.1 h.id_new
    exact ⟨_, (), h.attempt_new, (), h.source_free, (), h.token_new, (), h.attempt_bounds, (),
      h.expiry, (), h.deadline, (), h.tenancy, leases, hinsert, rfl⟩

theorem startTarget_iff {now : Time} {target : Target} :
    (∃ st', startTarget st now target = .ok st') ↔ Startable st target := by
  cases target with
  | build b =>
    simp only [startTarget, buildClaimPayload, bind_ok, demand_ok, require_ok, pure_ok, Startable]
    constructor
    · rintro ⟨-, build, ⟨build', hbuild, -, hqueued, version, hversion, objectId, hobject, -, havailable,
        rfl⟩, -⟩
      exact ⟨build', hbuild, hqueued, Option.isSome_iff_exists.2 ⟨version, hversion⟩, objectId, hobject,
        havailable⟩
    · rintro ⟨build, hbuild, hqueued, hversion, objectId, hobject, havailable⟩
      obtain ⟨version, hversion⟩ := Option.isSome_iff_exists.1 hversion
      exact ⟨_, build, ⟨build, hbuild, (), hqueued, version, hversion, objectId, hobject, (), havailable,
        rfl⟩, rfl⟩
  | runStart r =>
    simp only [startTarget, runClaimPayload, bind_ok, demand_ok, require_ok, pure_ok, Startable]
    constructor
    · rintro ⟨-, run, ⟨run', hrun, version, hversion, rfl⟩, -, hqueued, -⟩
      exact ⟨run', hrun, Option.isSome_iff_exists.2 ⟨version, hversion⟩, hqueued⟩
    · rintro ⟨run, hrun, hversion, hqueued⟩
      obtain ⟨version, hversion⟩ := Option.isSome_iff_exists.1 hversion
      exact ⟨_, run, ⟨run, hrun, version, hversion, rfl⟩, (), hqueued, rfl⟩
  | runCancel r =>
    simp only [startTarget, runClaimPayload, bind_ok, demand_ok, require_ok, pure_ok, Startable]
    constructor
    · rintro ⟨-, run, ⟨run', hrun, version, hversion, rfl⟩, -, haborting, -⟩
      exact ⟨run', hrun, Option.isSome_iff_exists.2 ⟨version, hversion⟩, haborting⟩
    · rintro ⟨run, hrun, hversion, haborting⟩
      obtain ⟨version, hversion⟩ := Option.isSome_iff_exists.1 hversion
      exact ⟨_, run, ⟨run, hrun, version, hversion, rfl⟩, (), haborting, rfl⟩

theorem clampLeaseExpiry_iff {now deadline expires : Time} :
    clampLeaseExpiry (now + seconds d.settings.workerLeaseSeconds) now
      d.settings.workerLeaseMaxSeconds deadline = .ok expires ↔
    1 ≤ d.settings.workerLeaseMaxSeconds ∧ now < deadline ∧ leaseExpiry d now deadline = expires := by
  simp only [clampLeaseExpiry, bind_ok, require_ok, pure_ok, leaseExpiry]
  constructor
  · rintro ⟨-, hmax, -, hdeadline, rfl⟩
    exact ⟨hmax, hdeadline, rfl⟩
  · rintro ⟨hmax, hdeadline, rfl⟩
    exact ⟨(), hmax, (), hdeadline, rfl⟩

theorem insertable_outbox (outbox : Table SourceRef OutboxSource) {id : Uuid}
    {lease : ExecutionLease} : Insertable { st with outbox := outbox } id lease ↔ Insertable st id lease :=
  ⟨fun h => ⟨h.1, h.2, h.3, h.4, h.5, h.6, h.7, h.8⟩, fun h => ⟨h.1, h.2, h.3, h.4, h.5, h.6, h.7, h.8⟩⟩

theorem startable_frame (outbox : Table SourceRef OutboxSource) (leases : Table Uuid ExecutionLease)
    {target : Target} :
    Startable { st with outbox := outbox, leases := leases } target ↔ Startable st target := by
  cases target <;> exact Iff.rfl

/-- A selected item is dispatched exactly when it is dispatchable. Its own row and its lease are
written before the target is read; the target's check reads neither. -/
theorem dispatchSource_iff :
    (∃ st' lease, dispatchSource d st ticket ref source = .ok (st', lease)) ↔
      Dispatchable d st ticket ref source := by
  simp only [dispatchSource, bind_ok, require_ok, pure_ok, clampLeaseExpiry_iff]
  constructor
  · rintro ⟨st', lease, project, hproject, deadline, hdeadline, -, hahead, expires, ⟨hmax, -, rfl⟩,
      mid, hinsert, last, hstart, -⟩
    obtain ⟨-, hmid, -⟩ := insertLease_ok hinsert
    have hinsertable := insertLease_iff.1 ⟨mid, hinsert⟩
    have hstartable := startTarget_iff.1 ⟨last, hstart⟩
    rw [hmid] at hstartable
    exact ⟨lockProjectAdmission_iff.1 ⟨project, hproject⟩,
      ⟨deadline, hdeadline, hahead, hmax, (insertable_outbox _).1 hinsertable⟩,
      (startable_frame _ _).1 hstartable⟩
  · rintro ⟨hproject, ⟨deadline, hdeadline, hahead, hmax, hinsertable⟩, hstartable⟩
    obtain ⟨project, hproject⟩ := lockProjectAdmission_iff.2 hproject
    obtain ⟨mid, hinsert⟩ := insertLease_iff.2
      ((insertable_outbox (st.setSource ref (claimedSource ticket.now)).outbox).2 hinsertable)
    obtain ⟨-, hmid, -⟩ := insertLease_ok hinsert
    have hstartable' : Startable mid source.target := by
      rw [hmid]
      exact (startable_frame _ _).2 hstartable
    obtain ⟨last, hstart⟩ := startTarget_iff.2 hstartable'
    exact ⟨last, _, project, hproject, deadline, hdeadline, (), hahead, _, ⟨hmax, hahead, rfl⟩, mid,
      hinsert, last, hstart, rfl⟩

/-- The run that is to be started is still bound to a current egress policy, if it is bound. -/
def BindingCurrent (d : Deployment) (st : State) (source : OutboxSource) : Prop :=
  ∀ r run, source.target = .runStart r → st.runs.get? r = some run →
    egressBindingCurrent d st run = true

theorem egressRefusal_none :
    egressRefusal d st ref source ticket.now = none ↔ BindingCurrent d st source := by
  constructor
  · intro h r run htarget hrun
    by_contra hcurrent
    simp [egressRefusal, htarget, boundRunEgressPolicyRefused, hrun, hcurrent] at h
  · intro h
    cases hrefusal : egressRefusal d st ref source ticket.now with
    | none => rfl
    | some refused =>
      obtain ⟨r, run, htarget, hrun, hrevoked, -⟩ := egressRefusal_some hrefusal
      rw [h r run htarget hrun] at hrevoked
      cases hrevoked

def Claimable (d : Deployment) (st : State) (ticket : ClaimTicket) (ref : SourceRef)
    (source : OutboxSource) : Prop :=
  BindingCurrent d st source ∧ Dispatchable d st ticket ref source

theorem claimSource_granted :
    granted (claimSource d st ticket ref source) = true ↔ Claimable d st ticket ref source := by
  unfold claimSource
  cases hrefusal : egressRefusal d st ref source ticket.now with
  | some refused =>
    constructor
    · intro h
      cases h
    · intro h
      rw [egressRefusal_none.2 h.1] at hrefusal
      cases hrefusal
  | none =>
    rw [granted_iff, Claimable, ← dispatchSource_iff]
    simp only [bind_ok, pure_ok, Prod.mk.injEq]
    constructor
    · rintro ⟨st', lease, ⟨mid, lease'⟩, hdispatch, -⟩
      exact ⟨egressRefusal_none.1 hrefusal, mid, lease', hdispatch⟩
    · rintro ⟨-, st', lease, hdispatch⟩
      exact ⟨st', lease, ⟨st', lease⟩, hdispatch, rfl, rfl⟩

theorem claimFirst_granted {kinds : List WorkKind} :
    granted (claimFirst d st ticket kinds) = true ↔
      ∃ ref source, firstSelected st kinds ticket.now = some (ref, source) ∧
        Claimable d st ticket ref source := by
  rw [claimFirst_eq]
  cases firstSelected st kinds ticket.now with
  | none =>
    constructor
    · intro h
      cases h
    · rintro ⟨ref, source, h, -⟩
      cases h
  | some row =>
    obtain ⟨ref, source⟩ := row
    constructor
    · intro h
      exact ⟨ref, source, rfl, claimSource_granted.1 h⟩
    · rintro ⟨ref', source', he, h⟩
      cases he
      exact claimSource_granted.2 h

end Dispatch

section Alone
variable {d : Deployment} {st : State} {ticket : ClaimTicket} {kinds : List WorkKind}
  {ref : SourceRef}

theorem selectSource_exists {kind : WorkKind} {now : Time} {source : OutboxSource}
    (hsource : st.outbox.get? ref = some source) (h : selectable st kind now source = true) :
    ∃ row, selectSource st kind now = some row := by
  have hmem := (st.outbox.mem_select (fun _ source => selectable st kind now source) ref source).2
    ⟨hsource, h⟩
  rw [← List.mem_insertionSort (fun a b => dispatchOrder a b = true)] at hmem
  exact Option.isSome_iff_exists.1 (List.isSome_head?.2 (List.ne_nil_of_mem hmem))

theorem selectSource_alone {kind : WorkKind} {now : Time} {row : SourceRef × OutboxSource}
    (h : selectSource (considerAlone st ref) kind now = some row) :
    row.1 = ref ∧ st.outbox.get? ref = some row.2 ∧ selectable st kind now row.2 = true := by
  obtain ⟨ref', source⟩ := row
  obtain ⟨hget, hselectable⟩ := mem_of_selectSource h
  simp only [considerAlone, Table.get?_mapRows] at hget
  obtain ⟨stored, hstored, hsource⟩ := Option.map_eq_some_iff.1 hget
  have hpending := (selectable_iff.1 hselectable).1
  split_ifs at hsource with hother
  · rw [← hsource] at hpending
    cases hpending
  · subst hsource
    have hsame : ref' = ref := by
      by_contra hne
      exact hother ⟨hne, hpending⟩
    subst hsame
    exact ⟨rfl, hstored, hselectable⟩

theorem selected_of_alone (h : ClaimableAlone d st ticket kinds ref) :
    ∃ row, firstSelected st kinds ticket.now = some row := by
  obtain ⟨ref', source, hfirst, -⟩ := claimFirst_granted.1 h
  obtain ⟨kind, hkind, hselect⟩ := List.exists_of_findSome?_eq_some hfirst
  obtain ⟨-, hsource, hselectable⟩ := selectSource_alone hselect
  obtain ⟨row, hrow⟩ := selectSource_exists hsource hselectable
  exact Option.isSome_iff_exists.1 (List.findSome?_isSome_iff.2 ⟨kind, hkind, by rw [hrow]; rfl⟩)

end Alone

/-- Whenever some item could be claimed alone, the claim gets a lease. -/
def Isolated (d : Deployment) (st : State) (ticket : ClaimTicket) (kinds : List WorkKind) : Prop :=
  ∀ ref, ClaimableAlone d (reaped d st ticket.now) ticket kinds ref →
    granted (claimWork d st ticket kinds) = true

/-- A claim is isolated from the other items if and only if, when some item could be claimed alone,
the item that is selected first is claimable. -/
theorem claim_isolated_iff (d : Deployment) (st : State) (ticket : ClaimTicket)
    (kinds : List WorkKind)
    (hworker : admitWorker (reaped d st ticket.now) ticket.workerId kinds ticket.now = .ok ()) :
    Isolated d st ticket kinds ↔
      ∀ ref head source, ClaimableAlone d (reaped d st ticket.now) ticket kinds ref →
        firstSelected (reaped d st ticket.now) kinds ticket.now = some (head, source) →
        Claimable d (reaped d st ticket.now) ticket head source := by
  unfold Isolated
  rw [claimWork_reaped hworker]
  constructor
  · intro h ref head source halone hfirst
    obtain ⟨head', source', hfirst', hclaimable⟩ := claimFirst_granted.1 (h ref halone)
    rw [hfirst] at hfirst'
    cases hfirst'
    exact hclaimable
  · intro h ref halone
    obtain ⟨⟨head, source⟩, hfirst⟩ := selected_of_alone halone
    exact claimFirst_granted.2 ⟨head, source, hfirst, h ref head source halone hfirst⟩

theorem raised_claim_repeats {d : Deployment} {st : State} {credential : WorkerCredential}
    {kinds : List WorkKind} {leaseId : Uuid} {token : String} {now : Time} {e : Failure}
    (h : claimRequest d st credential kinds leaseId token now = .error e) (n : ℕ) :
    after d st (List.replicate n (.claimWork credential kinds leaseId token now)) = st := by
  induction n with
  | zero => rfl
  | succ n ih =>
    rw [List.replicate_succ, after, exec_cons]
    have hstep : step d st (.claimWork credential kinds leaseId token now) = st := by
      simp only [step, h, commit]
    rw [hstep]
    exact ih

theorem distinctProjects : ([1, 2] : List Uuid).Nodup := by decide

def twoProjects (status : ProjectStatus) : Directory where
  projects := ⟨[(1, { status := status, deletedAt := none, maxActiveLeases := 4 }),
    (2, { status := .active, deletedAt := none, maxActiveLeases := 4 })],
    distinctProjects⟩
  workers := ⟨[(1,
    { tokenDigest := "worker"
      capabilities := [.work .build, .work .runStart, .work .runCancel]
      maxConcurrency := 8
      status := .active
      lastSeenAt := none
      lastLostAt := none
      lastRecoveredAt := none
      expiresAt := none
      revokedAt := none })], by decide⟩
  agents := ⟨[1, 2].map (fun id => (id, { organizationId := id, projectId := id, deletedAt := none })),
    by decide⟩
  agentVersions := ⟨[1, 2].map (fun id => (id,
    { organizationId := id
      projectId := id
      agentId := id
      manifestDigest := "manifest"
      manifest := []
      sourceObjectId := some id })), by decide⟩
  storageObjects := ⟨[1, 2].map (fun id => (id,
    { organizationId := id
      projectId := id
      agentId := id
      status := .available
      scanStatus := .passed
      deletedAt := none })), by decide⟩
  egressPolicies := .empty
  egressRevisions := .empty
  projectSecrets := .empty

def worker (now : Time) : WorkerCredential := { workerId := 1, tokenDigest := "worker", now := now }

/-- A run of the project is built, started and then cancelled, so that a cancel command waits. -/
def cancelledRun (id : ℕ) (now : Time) : List Op :=
  [ .createBuild { userId := id, idempotencyKey := "build-01", now := now } id id id,
    .claimWork (worker now) [.build] (id * 10) ("build-" ++ toString id) now,
    .completeLease
      { credential := worker now, leaseId := id * 10, leaseTokenDigest := "build-" ++ toString id
        now := now }
      { outcome := .succeeded, retryable := false, errorCode := none, errorSummary := none
        artifacts := [(id,
          { kind := .containerImage, digestAlgorithm := "sha256", digest := "image-" ++ toString id
            objectKey := "object-" ++ toString id
            mediaType := "application/vnd.oci.image.manifest.v1+json", sizeBytes := 1
            status := .available, scanStatus := .passed, provenance := [] })] },
    .createRun { userId := id, idempotencyKey := "run-0001", now := now } id id
      (.ok { runtime := [("timeout_seconds", .int 600)], inputReference := [], intent := .null
             receiptOnly := false }) id id,
    .claimWork (worker now) [.runStart] (id * 10 + 1) ("start-" ++ toString id) now,
    .cancelRun { userId := id, idempotencyKey := "cancel-1", now := now } id (id * 10) ]

/-- Both projects have a cancel command waiting when the first one is disabled. -/
def disabledMeanwhile (status : ProjectStatus) : State :=
  after plainDeployment (initial (twoProjects .active))
    (cancelledRun 1 1 ++ cancelledRun 2 2 ++ [.directoryChange (twoProjects status)])

def failureCode {α : Type} : Except Failure α → Option String
  | .error (.api _ code _ _) => some code
  | _ => none

theorem failureCode_some {α : Type} {x : Except Failure α} {code : String}
    (h : failureCode x = some code) : ∃ e, x = .error e := by
  cases x with
  | error e => exact ⟨e, rfl⟩
  | ok a => cases h

def cancelTicket : ClaimTicket where
  workerId := 1
  leaseId := 100
  leaseTokenDigest := "cancel-2"
  now := 3

set_option maxRecDepth 4000 in
/-- The second project's cancel command would be claimed alone. The first project's is selected
before it, and every claim of the worker fails on that one. -/
theorem disabled_project_blocks :
    ((disabledMeanwhile .inactive).outbox.get? (.runCommand 20)).map (·.projectId) = some 2 ∧
    (admitWorker (reaped plainDeployment (disabledMeanwhile .inactive) 3) 1 [.runCancel] 3).isOk =
      true ∧
    ClaimableAlone plainDeployment (reaped plainDeployment (disabledMeanwhile .inactive) 3)
      cancelTicket [.runCancel] (.runCommand 20) ∧
    ¬ Isolated plainDeployment (disabledMeanwhile .inactive) cancelTicket [.runCancel] ∧
    ∀ n, failureCode (claimRequest plainDeployment
      (after plainDeployment (disabledMeanwhile .inactive)
        (List.replicate n (.claimWork (worker 3) [.runCancel] 100 "cancel-2" 3)))
      (worker 3) [.runCancel] 100 "cancel-2" 3) = some "PROJECT_EXECUTION_DISABLED" := by
  have halone : ClaimableAlone plainDeployment
      (reaped plainDeployment (disabledMeanwhile .inactive) 3) cancelTicket [.runCancel]
      (.runCommand 20) := by
    decide +kernel
  refine ⟨by decide +kernel, by decide +kernel, halone, fun h => ?_, fun n => ?_⟩
  · exact absurd (h (.runCommand 20) halone) (by decide +kernel)
  have hcode : failureCode (claimRequest plainDeployment (disabledMeanwhile .inactive) (worker 3)
      [.runCancel] 100 "cancel-2" 3) = some "PROJECT_EXECUTION_DISABLED" := by
    decide +kernel
  obtain ⟨e, he⟩ := failureCode_some hcode
  rw [raised_claim_repeats he]
  exact hcode

set_option maxRecDepth 4000 in
/-- While the first project is active, its command is claimed and the claim is isolated. -/
theorem active_projects_isolated :
    ClaimableAlone plainDeployment (reaped plainDeployment (disabledMeanwhile .active) 3)
      cancelTicket [.runCancel] (.runCommand 20) ∧
    Isolated plainDeployment (disabledMeanwhile .active) cancelTicket [.runCancel] := by
  obtain ⟨⟨⟩, hworker⟩ : ∃ u, admitWorker (reaped plainDeployment (disabledMeanwhile .active) 3) 1
      [.runCancel] 3 = .ok u := isOk_iff.1 (by decide +kernel)
  refine ⟨by decide +kernel, (claim_isolated_iff plainDeployment (disabledMeanwhile .active)
    cancelTicket [.runCancel] hworker).2 (fun ref head source _ hfirst => ?_)⟩
  obtain ⟨head', source', hfirst', hclaimable⟩ := (claimFirst_granted (d := plainDeployment)).1
    (show granted (claimFirst plainDeployment
      (reaped plainDeployment (disabledMeanwhile .active) 3) cancelTicket [.runCancel]) = true by
        decide +kernel)
  cases hfirst.symm.trans hfirst'
  exact hclaimable

end RoozDataCloud.ClaimIsolation
