import RoozDataCloud.AdmissionLimits

set_option autoImplicit false

/-!
# The time of a lease

A lease is good until it expires. Renewals put its end off, up to its deadline
and its maximum lifetime, and the loss of its worker brings the end forward.
-/
namespace RoozDataCloud.LeaseTiming
open KeyedTable ExecutionModels FallibleSteps ExecutionRecovery LeaseReaper WorkClaims LeaseRequests
open RunRequests ExecutionSystem ExecutionSteps LeaseEdits
open AdmissionLimits (startTarget_frame)

/-- The last moment that a lease may reach. -/
def lifetimeEnd (d : Deployment) (lease : ExecutionLease) : Time :=
  min lease.deadlineAt (lease.claimedAt + seconds d.settings.workerLeaseMaxSeconds)

structure Timed (d : Deployment) (lease : ExecutionLease) : Prop where
  start : lease.claimedAt ≤ lease.expiresAt
  limit : lease.expiresAt ≤ lifetimeEnd d lease

/-- The moments that are fixed when a lease is claimed. -/
structure SameDates (lease lease' : ExecutionLease) : Prop where
  claimedAt : lease'.claimedAt = lease.claimedAt
  deadlineAt : lease'.deadlineAt = lease.deadlineAt

theorem SameDates.trans {a b c : ExecutionLease} (h : SameDates a b) (h' : SameDates b c) :
    SameDates a c :=
  ⟨h'.claimedAt.trans h.claimedAt, h'.deadlineAt.trans h.deadlineAt⟩

variable {d : Deployment} {st st' : State}

theorem SameDates.lifetimeEnd_eq {lease lease' : ExecutionLease} (h : SameDates lease lease') :
    lifetimeEnd d lease' = lifetimeEnd d lease := by
  rw [lifetimeEnd, lifetimeEnd, h.claimedAt, h.deadlineAt]

section Edits

theorem Timed.shorten {lease lease' : ExecutionLease} (h : Timed d lease)
    (hsame : SameDates lease lease') (hstart : lease'.claimedAt ≤ lease'.expiresAt)
    (hle : lease'.expiresAt ≤ lease.expiresAt) : Timed d lease' :=
  ⟨hstart, hsame.lifetimeEnd_eq ▸ hle.trans h.limit⟩

theorem edit_timed {lease lease' : ExecutionLease} (h : Edit lease lease') :
    SameDates lease lease' ∧ (Timed d lease → Timed d lease') := by
  cases h with
  | report | cancel | expire | complete =>
    exact ⟨⟨rfl, rfl⟩, fun ht => ht.shorten ⟨rfl, rfl⟩ ht.start le_rfl⟩
  | lose now workerId hexpiry =>
    unfold loseLease
    split_ifs with hlost
    · exact ⟨⟨rfl, rfl⟩, fun ht => ht.shorten ⟨rfl, rfl⟩ (hexpiry hlost.2).le (min_le_left _ _)⟩
    · exact ⟨⟨rfl, rfl⟩, id⟩

theorem edits_timed {lease lease' : ExecutionLease} (h : Edits lease lease') :
    SameDates lease lease' ∧ (Timed d lease → Timed d lease') := by
  induction h with
  | refl => exact ⟨⟨rfl, rfl⟩, id⟩
  | tail _ hedit ih =>
    obtain ⟨hsame, htimed⟩ := edit_timed (d := d) hedit
    exact ⟨ih.1.trans hsame, fun ht => htimed (ih.2 ht)⟩

end Edits

/-- A step keeps the dates of every lease that there is; what is timed stays so, and a lease that
comes is timed. -/
structure Retimes (d : Deployment) (st st' : State) : Prop where
  kept : ∀ l lease, st.leases.get? l = some lease →
    ∃ lease', st'.leases.get? l = some lease' ∧ SameDates lease lease'
  timed : (∀ l lease, st.leases.get? l = some lease → Timed d lease) →
    ∀ l lease, st'.leases.get? l = some lease → Timed d lease

theorem Retimes.trans {mid : State} (h : Retimes d st mid) (h' : Retimes d mid st') :
    Retimes d st st' := by
  refine ⟨fun l lease hlease => ?_, fun ht => h'.timed (h.timed ht)⟩
  obtain ⟨middle, hmiddle, hfirst⟩ := h.kept l lease hlease
  obtain ⟨lease', hlease', hsecond⟩ := h'.kept l middle hmiddle
  exact ⟨lease', hlease', hfirst.trans hsecond⟩

theorem edited_retimes (h : Edited st st') : Retimes d st st' := by
  refine ⟨fun l lease hlease => ?_, fun ht l lease' hlease' => ?_⟩
  · obtain ⟨lease', hlease', hedits⟩ := h.after hlease
    exact ⟨lease', hlease', (edits_timed (d := d) hedits).1⟩
  · obtain ⟨lease, hlease, hedits⟩ := h.before hlease'
    exact (edits_timed hedits).2 (ht l lease hlease)

theorem retimes_refl (d : Deployment) (st : State) : Retimes d st st := edited_retimes (.refl st)

theorem commit_retimes {α : Type} {x : Except Failure (State × α)}
    (hok : ∀ st' a, x = .ok (st', a) → Retimes d st st') : Retimes d st (commit st x) :=
  commit_cases (P := fun mid => Retimes d st mid) (retimes_refl d st) hok

section Renewals

theorem clamp_timed {lease : ExecutionLease} {extendSeconds : ℕ} {now extended : Time}
    (ht : Timed d lease)
    (h : clampLeaseExpiry (max now lease.expiresAt + seconds extendSeconds) lease.claimedAt
      d.settings.workerLeaseMaxSeconds lease.deadlineAt = .ok extended) :
    lease.expiresAt ≤ extended ∧ extended ≤ lifetimeEnd d lease := by
  obtain ⟨-, rfl⟩ := clampLeaseExpiry_ok h
  obtain ⟨hdeadline, hlifetime⟩ := le_min_iff.1 ht.limit
  constructor
  · refine le_min (le_min ?_ hlifetime) hdeadline
    exact (le_max_right now lease.expiresAt).trans (Nat.le_add_right _ _)
  · exact le_min (min_le_right _ _) ((min_le_left _ _).trans (min_le_right _ _))

theorem renewLease_writes {l : Uuid} {lease : ExecutionLease} {extendSeconds : ℕ} {now : Time}
    (h : renewLease d st l lease extendSeconds now = .ok st') :
    ∃ extended, clampLeaseExpiry (max now lease.expiresAt + seconds extendSeconds) lease.claimedAt
        d.settings.workerLeaseMaxSeconds lease.deadlineAt = .ok extended ∧
      st' = st.setLease l (fun row =>
        { row with expiresAt := extended, lastRenewedAt := some now }) := by
  simp only [renewLease, bind_ok, require_ok, pure_ok] at h
  obtain ⟨extended, hclamp, -, -, rfl⟩ := h
  exact ⟨extended, hclamp, rfl⟩

theorem renewLease_retimes {l : Uuid} {lease : ExecutionLease} {extendSeconds : ℕ} {now : Time}
    (hlease : st.leases.get? l = some lease)
    (h : renewLease d st l lease extendSeconds now = .ok st') : Retimes d st st' := by
  obtain ⟨extended, hclamp, rfl⟩ := renewLease_writes h
  refine ⟨fun l' row hrow => ?_, fun ht l' row hrow => ?_⟩
  · rw [State.setLease, Table.get?_modify, hrow]
    split_ifs
    · exact ⟨_, rfl, rfl, rfl⟩
    · exact ⟨_, rfl, rfl, rfl⟩
  · rw [State.setLease, Table.get?_modify] at hrow
    split_ifs at hrow with hl
    · rw [hl, hlease] at hrow
      obtain rfl := Option.some.inj hrow
      obtain ⟨hend, hlimit⟩ := clamp_timed (ht l lease hlease) hclamp
      exact ⟨(ht l lease hlease).start.trans hend, hlimit⟩
    · exact ht l' row hrow

end Renewals

section Claims

theorem dispatchSource_retimes {ticket : ClaimTicket} {ref : SourceRef} {source : OutboxSource}
    {lease : ExecutionLease} (h : dispatchSource d st ticket ref source = .ok (st', lease)) :
    Retimes d st st' := by
  have hclamped : Timed d lease := by
    simp only [dispatchSource, bind_ok, require_ok, pure_ok, Prod.mk.injEq] at h
    obtain ⟨-, -, deadline, -, -, hdeadline, expires, hclamp, mid, hinsert, last, hstart, -, rfl⟩ := h
    obtain ⟨-, rfl⟩ := clampLeaseExpiry_ok hclamp
    refine ⟨le_min (le_min ?_ ?_) hdeadline.le,
      le_min (min_le_right _ _) ((min_le_left _ _).trans (min_le_right _ _))⟩
    · exact Nat.le_add_right _ _
    · exact Nat.le_add_right _ _
  obtain ⟨expires, deadline, leases, -, -, hinsert, hstart⟩ := dispatchSource_ok h
  have hleases : st'.leases = leases := (startTarget_frame hstart).1
  refine ⟨fun l row hrow => ?_, fun ht l row hrow => ?_⟩
  · exact ⟨row, hleases ▸ Table.get?_insert_old hinsert hrow, rfl, rfl⟩
  · rw [hleases, Table.get?_insert hinsert] at hrow
    split_ifs at hrow
    · exact Option.some.inj hrow ▸ hclamped
    · exact ht l row hrow

theorem claimRequest_retimes {credential : WorkerCredential} {kinds : List WorkKind}
    {leaseId : Uuid} {digest : String} {now : Time} {result : Option ExecutionLease}
    (h : claimRequest d st credential kinds leaseId digest now = .ok (st', result)) :
    Retimes d st st' := by
  simp only [claimRequest, bind_ok] at h
  obtain ⟨⟨seen, worker⟩, hresolve, hwork⟩ := h
  obtain ⟨mid, n, hreap, hfirst⟩ := claimWork_ok hwork
  have hreaped : Retimes d st mid :=
    edited_retimes ((resolveWorkerContext_edited hresolve).trans (reapExpired_edited hreap))
  rcases claimFirst_ok hfirst with ⟨rfl, -⟩ | ⟨kind, ref, source, -, -, hclaim⟩
  · exact hreaped
  rcases claimSource_ok hclaim with ⟨r, run, -, -, -, rfl⟩ | ⟨lease, -, hdispatch⟩
  · exact hreaped.trans (edited_retimes (edited_frame rfl rfl))
  · exact hreaped.trans (dispatchSource_retimes hdispatch)

end Claims

section Runs

theorem underLease_retimes {α : Type} {call : LeaseCall}
    {body : State → WorkerIdentity → ExecutionLease → Except Failure (State × α)}
    (hbody : ∀ base st' worker lease result, base.leases.get? call.leaseId = some lease →
      (∀ r, lease.target = .runStart r → cancelRequested base r = false) →
      body base worker lease = .ok (st', result) → Retimes d base st') :
    Retimes d st (commit st (underLease st call body)) := by
  refine commit_retimes (fun st' result h => ?_)
  simp only [underLease, bind_ok] at h
  obtain ⟨⟨base, worker⟩, hresolve, lease, haccess, hrun⟩ := h
  obtain ⟨hlease, -, hcancel⟩ := requireLeaseAccess_ok haccess
  exact (edited_retimes (resolveWorkerContext_edited hresolve)).trans
    (hbody base st' worker lease result hlease hcancel hrun)

theorem step_retimes (d : Deployment) (st : State) (op : Op) : Retimes d st (step d st op) := by
  cases op with
  | createRun caller versionId buildId plan runId commandId =>
    exact commit_retimes (fun _ _ h => edited_retimes (createRun_edited h))
  | createBuild caller versionId buildId jobId =>
    exact commit_retimes (fun _ _ h => edited_retimes (createBuild_edited h))
  | cancelRun caller runId commandId =>
    exact commit_retimes (fun _ _ h => edited_retimes (cancelRun_edited h))
  | claimWork credential kinds leaseId digest now =>
    exact commit_retimes (fun _ _ h => claimRequest_retimes h)
  | renewLease call extendSeconds =>
    exact underLease_retimes (fun _ _ _ _ _ hlease _ h =>
      renewLease_retimes hlease (withoutResult_ok h))
  | updateLeaseStatus call report =>
    exact underLease_retimes (fun _ _ _ _ _ _ _ h =>
      edited_retimes (updateLeaseStatus_edited (withoutResult_ok h)))
  | completeLease call payload =>
    exact underLease_retimes (fun _ _ _ _ _ _ hcancel h =>
      edited_retimes (completeLease_edited hcancel (withoutResult_ok h)))
  | issueSecretEnvelope call payload grantId =>
    exact underLease_retimes (fun _ _ _ _ _ _ _ h => edited_retimes (issueSecretEnvelope_edited h))
  | reapExpiredLeases now batchSize reapCancellations =>
    exact commit_retimes (fun _ _ h => edited_retimes (reapExpired_edited h))
  | reapOverdueCancellations now batchSize =>
    exact commit_retimes (fun _ _ h => edited_retimes (reapOverdue_edited h))
  | detectLostWorkers now batchSize =>
    exact commit_retimes (fun _ _ h => edited_retimes (detectLostWorkers_edited (withoutResult_ok h)))
  | directoryChange directory =>
    exact ⟨fun _ lease hlease => ⟨lease, hlease, rfl, rfl⟩, fun ht => ht⟩

theorem after_retimes (d : Deployment) (st : State) (ops : List Op) :
    Retimes d st (after d st ops) :=
  exec_invariant (step d) (fun _ op h => h.trans (step_retimes d _ op)) ops st (retimes_refl d st)

theorem reached_timed (d : Deployment) (directory : Directory) (ops : List Op) {l : Uuid}
    {lease : ExecutionLease} (h : (after d (initial directory) ops).leases.get? l = some lease) :
    Timed d lease :=
  (after_retimes d (initial directory) ops).timed (fun _ _ hnone => nomatch hnone) l lease h

theorem renewal_extends (htimed : ∀ l lease, st.leases.get? l = some lease → Timed d lease)
    (call : LeaseCall) (extendSeconds : ℕ) {l : Uuid} {lease : ExecutionLease}
    (hlease : st.leases.get? l = some lease) :
    ∃ lease', (step d st (.renewLease call extendSeconds)).leases.get? l = some lease' ∧
      lease.expiresAt ≤ lease'.expiresAt := by
  refine commit_cases (P := fun st' : State => ∃ lease', st'.leases.get? l = some lease' ∧
    lease.expiresAt ≤ lease'.expiresAt) ⟨lease, hlease, le_rfl⟩ (fun st' _ h => ?_)
  simp only [underLease, bind_ok] at h
  obtain ⟨⟨base, worker⟩, hresolve, held, haccess, hrenew⟩ := h
  obtain ⟨directory, rfl⟩ := resolveWorkerContext_ok hresolve
  obtain ⟨extended, hclamp, rfl⟩ := renewLease_writes (withoutResult_ok hrenew)
  have hheld : st.leases.get? call.leaseId = some held := (requireLeaseAccess_ok haccess).1
  rw [State.setLease, Table.get?_modify]
  split_ifs with hl
  · rw [hl, hheld] at hlease
    obtain rfl := Option.some.inj hlease
    have hrow : st.leases.get? l = some held := hl ▸ hheld
    exact ⟨_, congrArg (Option.map _) hrow, (clamp_timed (htimed _ held hheld) hclamp).1⟩
  · exact ⟨lease, hlease, le_rfl⟩

end Runs

/-- Whatever requests come, in any order and at any times: a lease ends between its claim and the
earlier of its deadline and its maximum lifetime, a renewal never brings an end forward, and nobody
gets access under a lease after the end that was fixed when it was claimed. -/
theorem lease_timing (d : Deployment) (directory : Directory) (ops : List Op) :
    (∀ l lease, (after d (initial directory) ops).leases.get? l = some lease →
      lease.claimedAt ≤ lease.expiresAt ∧ lease.expiresAt ≤ min lease.deadlineAt
        (lease.claimedAt + seconds d.settings.workerLeaseMaxSeconds)) ∧
    (∀ call extendSeconds l lease,
      (after d (initial directory) ops).leases.get? l = some lease →
      ∃ lease', (step d (after d (initial directory) ops)
          (.renewLease call extendSeconds)).leases.get? l = some lease' ∧
        lease.expiresAt ≤ lease'.expiresAt) ∧
    (∀ l lease, (after d (initial directory) ops).leases.get? l = some lease →
      ∀ later credential digest granted,
        requireLeaseAccess (after d (initial directory) (ops ++ later)) credential l digest =
          .ok granted →
        credential.now < min lease.deadlineAt
          (lease.claimedAt + seconds d.settings.workerLeaseMaxSeconds)) := by
  refine ⟨fun l lease hlease => ?_, fun call extendSeconds l lease hlease => ?_,
    fun l lease hlease later credential digest granted haccess => ?_⟩
  · have htimed := reached_timed d directory ops hlease
    exact ⟨htimed.start, htimed.limit⟩
  · exact renewal_extends (fun l lease h => reached_timed d directory ops h) call extendSeconds hlease
  · have hgranted := (requireLeaseAccess_ok haccess).1
    have hlive := (AdmissionLimits.liveLease_iff.1
      (AdmissionLimits.requireLeaseAccess_live haccess)).2.1
    have htimed := reached_timed d directory (ops ++ later) hgranted
    obtain ⟨lease', hlease', hsame⟩ :=
      (after_retimes d (after d (initial directory) ops) later).kept l lease hlease
    rw [after, exec_append] at hgranted
    obtain rfl := Option.some.inj (hgranted.symm.trans hlease')
    have hend := htimed.limit
    rw [hsame.lifetimeEnd_eq] at hend
    exact hlive.trans_le hend

end RoozDataCloud.LeaseTiming
