import RoozDataCloud.ExecutionSystem
import Mathlib.Logic.Relation

set_option autoImplicit false

/-!
# What a request can do to the outbox, the leases and the grants

Each request is taken apart once, into the few kinds of change it makes together
with what the code has checked before making it. Invariants are then proved of
these changes and hold of every request.
-/
namespace RoozDataCloud.ExecutionMoves
open KeyedTable ExecutionModels FallibleSteps ExecutionRecovery CancellationConvergence
open LeaseReaper WorkClaims LeaseRequests RunRequests ExecutionSystem

/-- The columns of a lease that are written once. -/
structure SameLease (lease lease' : ExecutionLease) : Prop where
  workerId : lease'.workerId = lease.workerId
  source : lease'.source = lease.source
  target : lease'.target = lease.target
  attempt : lease'.attempt = lease.attempt
  deadlineAt : lease'.deadlineAt = lease.deadlineAt

theorem SameLease.refl (lease : ExecutionLease) : SameLease lease lease := ⟨rfl, rfl, rfl, rfl, rfl⟩

theorem SameLease.trans {a b c : ExecutionLease} (h : SameLease a b) (h' : SameLease b c) :
    SameLease a c :=
  ⟨h'.workerId.trans h.workerId, h'.source.trans h.source, h'.target.trans h.target,
    h'.attempt.trans h.attempt, h'.deadlineAt.trans h.deadlineAt⟩

def OutboxStatus.isOpen : OutboxStatus → Bool
  | .pending | .claimed => true
  | _ => false

/-- Runs are never deleted. -/
def KeepsRuns (st st' : State) : Prop :=
  ∀ r, (st.runs.get? r).isSome → (st'.runs.get? r).isSome

/-- No `ACTIVE` lease other than `id` is on the source. -/
def OnlyHolder (st : State) (id : Uuid) (ref : SourceRef) : Prop :=
  ∀ id' lease, st.leases.get? id' = some lease → lease.source = ref → lease.status = .active →
    id' = id

inductive Move (d : Deployment) (st st' : State) : Prop where
  | frame (hruns : KeepsRuns st st') (houtbox : st'.outbox = st.outbox)
      (hleases : st'.leases = st.leases) (hgrants : st'.grants = st.grants)
  | renew (f : Uuid → ExecutionLease → ExecutionLease)
      (hsame : ∀ l lease, st.leases.get? l = some lease → SameLease lease (f l lease) ∧
        (f l lease).status = lease.status ∧
        (lease.expiresAt ≤ lease.deadlineAt → (f l lease).expiresAt ≤ lease.deadlineAt))
      (hruns : KeepsRuns st st') (houtbox : st'.outbox = st.outbox)
      (hleases : ∀ l, st'.leases.get? l = (st.leases.get? l).map (f l))
      (hgrants : st'.grants = st.grants)
  | issue (id : Uuid) (grant : SecretInjectionGrant) (lease : ExecutionLease)
      (hlease : st.leases.get? grant.leaseId = some lease) (hactive : lease.status = .active)
      (hexpires : grant.expiresAt ≤ lease.expiresAt)
      (hruns : KeepsRuns st st') (houtbox : st'.outbox = st.outbox)
      (hleases : st'.leases = st.leases) (hgrants : st.grants.insert? id grant = some st'.grants)
  | submit (ref : SourceRef) (source : OutboxSource) (hpending : source.status = .pending)
      (hattempts : source.attempts = 0)
      (hfresh : ∀ ref' source', st.outbox.get? ref' = some source' →
        source'.target ≠ source.target)
      (hrun : ∀ r, source.target.runId? = some r → (st'.runs.get? r).isSome)
      (hruns : KeepsRuns st st') (houtbox : st.outbox.insert? ref source = some st'.outbox)
      (hleases : st'.leases = st.leases) (hgrants : st'.grants = st.grants)
  | withdraw (ref : SourceRef) (source : OutboxSource) (f : OutboxSource → OutboxSource)
      (hsource : st.outbox.get? ref = some source) (hpending : source.status = .pending)
      (htarget : (f source).target = source.target)
      (hclosed : OutboxStatus.isOpen (f source).status = false)
      (hattempts : (f source).attempts = source.attempts ∨
        (f source).attempts = source.attempts + 1)
      (hruns : KeepsRuns st st') (houtbox : st'.outbox = st.outbox.modify ref f)
      (hleases : st'.leases = st.leases) (hgrants : st'.grants = st.grants)
  | take (ref : SourceRef) (source : OutboxSource) (f : OutboxSource → OutboxSource) (id : Uuid)
      (lease : ExecutionLease) (hsource : st.outbox.get? ref = some source)
      (hpending : source.status = .pending) (htarget : (f source).target = source.target)
      (hclaimed : (f source).status = .claimed)
      (hattempts : (f source).attempts = source.attempts + 1)
      (hlsource : lease.source = ref) (hltarget : lease.target = source.target)
      (hlstatus : lease.status = .active) (hlattempt : lease.attempt = source.attempts + 1)
      (hlexpires : lease.expiresAt ≤ lease.deadlineAt)
      (hruns : KeepsRuns st st') (houtbox : st'.outbox = st.outbox.modify ref f)
      (hleases : st.leases.insert? id lease = some st'.leases) (hgrants : st'.grants = st.grants)
  | fence (runId : Uuid) (now : Time) (preserveLease : Option Uuid)
      (preserveSource : Option SourceRef)
      (hpreserved : ∀ id lease, st.leases.get? id = some lease → lease.status = .active →
        (preserveLease = some id ↔ preserveSource = some lease.source))
      (hruns : KeepsRuns st st')
      (houtbox : st'.outbox = (fenceCancelledRunLeases st runId now preserveLease
        preserveSource).outbox)
      (hleases : st'.leases = (fenceCancelledRunLeases st runId now preserveLease
        preserveSource).leases)
      (hgrants : st'.grants = (fenceCancelledRunLeases st runId now preserveLease
        preserveSource).grants)
  | settle (id : Uuid) (lease : ExecutionLease) (f : OutboxSource → OutboxSource)
      (g : ExecutionLease → ExecutionLease) (status : GrantStatus)
      (hlease : st.leases.get? id = some lease) (honly : OnlyHolder st id lease.source)
      (hsource : ∀ source, st.outbox.get? lease.source = some source →
        (f source).target = source.target ∧ (f source).attempts = source.attempts ∧
        (f source).status ≠ .claimed ∧
        ((f source).status = .pending → source.attempts < d.settings.workerMaxAttempts))
      (hsame : SameLease lease (g lease)) (hended : (g lease).status ≠ .active)
      (hstatus : status ≠ .issued)
      (hruns : KeepsRuns st st') (houtbox : st'.outbox = st.outbox.modify lease.source f)
      (hleases : st'.leases = st.leases.modify id g)
      (hgrants : st'.grants = (st.closeGrants id status).grants)

abbrev Moves (d : Deployment) : State → State → Prop := Relation.ReflTransGen (Move d)

end RoozDataCloud.ExecutionMoves
