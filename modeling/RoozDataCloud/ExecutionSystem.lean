import RoozDataCloud.RunRequests

set_option autoImplicit false

/-!
# The execution plane as a transition system

Every request is one transaction: the tables it leaves are committed, or it
raises and they stay as they were. A run of the system is a list of requests, in
any order and at any times; whatever other services do to the directory between
two requests is a step of its own.
-/
namespace RoozDataCloud.ExecutionSystem
open KeyedTable ExecutionModels FallibleSteps LeaseReaper CancellationConvergence WorkClaims
open LeaseRequests RunRequests

/-- A request made under a lease. The credential is checked at its own time. -/
structure LeaseCall where
  credential : WorkerCredential
  leaseId : Uuid
  leaseTokenDigest : String
  now : Time

inductive Op where
  | createRun (caller : Caller) (versionId buildId : Uuid) (plan : Except Failure RunPlan)
      (runId commandId : Uuid)
  | createBuild (caller : Caller) (versionId buildId jobId : Uuid)
  | cancelRun (caller : Caller) (runId commandId : Uuid)
  | claimWork (credential : WorkerCredential) (kinds : List WorkKind) (leaseId : Uuid)
      (leaseTokenDigest : String) (now : Time)
  | renewLease (call : LeaseCall) (extendSeconds : ℕ)
  | updateLeaseStatus (call : LeaseCall) (report : StatusReport)
  | completeLease (call : LeaseCall) (payload : CompleteLeaseRequest)
  | issueSecretEnvelope (call : LeaseCall) (payload : SecretEnvelopeRequest) (grantId : Uuid)
  | reapExpiredLeases (now : Time) (batchSize : ℕ) (reapCancellations : Bool)
  | reapOverdueCancellations (now : Time) (batchSize : ℕ)
  | detectLostWorkers (now : Time) (batchSize : ℕ)
  | directoryChange (directory : Directory)

/-- Authentication of the worker and of the lease, then the request itself. -/
def underLease {α : Type} (st : State) (call : LeaseCall)
    (body : State → WorkerIdentity → ExecutionLease → Except Failure (State × α)) :
    Except Failure (State × α) := do
  let (st, worker) ← resolveWorkerContext st call.credential
  let lease ← requireLeaseAccess st call.credential call.leaseId call.leaseTokenDigest
  body st worker lease

def withoutResult (x : Except Failure State) : Except Failure (State × Unit) :=
  (fun st => (st, ())) <$> x

def claimRequest (d : Deployment) (st : State) (credential : WorkerCredential)
    (kinds : List WorkKind) (leaseId : Uuid) (leaseTokenDigest : String) (now : Time) :
    Except Failure (State × Option ExecutionLease) := do
  let (st, _) ← resolveWorkerContext st credential
  claimWork d st
    { workerId := credential.workerId
      leaseId := leaseId
      leaseTokenDigest := leaseTokenDigest
      now := now } kinds

def step (d : Deployment) (st : State) : Op → State
  | .createRun caller versionId buildId plan runId commandId =>
    commit st (createRun d st caller versionId buildId plan runId commandId)
  | .createBuild caller versionId buildId jobId =>
    commit st (createBuild d st caller versionId buildId jobId)
  | .cancelRun caller runId commandId => commit st (cancelRun d st caller runId commandId)
  | .claimWork credential kinds leaseId leaseTokenDigest now =>
    commit st (claimRequest d st credential kinds leaseId leaseTokenDigest now)
  | .renewLease call extendSeconds => commit st (underLease st call (fun st _ lease =>
      withoutResult (renewLease d st call.leaseId lease extendSeconds call.now)))
  | .updateLeaseStatus call report => commit st (underLease st call (fun st _ lease =>
      withoutResult (updateLeaseStatus st call.leaseId lease report call.now)))
  | .completeLease call payload => commit st (underLease st call (fun st _ lease =>
      withoutResult (completeLease d st call.leaseId lease payload call.now)))
  | .issueSecretEnvelope call payload grantId => commit st (underLease st call
      (fun st worker lease =>
        issueSecretEnvelope d st worker call.leaseId lease payload grantId call.now))
  | .reapExpiredLeases now batchSize reapCancellations =>
    commit st (reapExpiredLeases d st now batchSize reapCancellations)
  | .reapOverdueCancellations now batchSize =>
    commit st (reapOverdueCancellations st now batchSize)
  | .detectLostWorkers now batchSize =>
    commit st (withoutResult (detectLostWorkers d st now batchSize))
  | .directoryChange directory => { st with directory := directory }

/-- No run, build, command, lease or grant has been created yet. -/
def initial (directory : Directory) : State where
  directory := directory
  builds := .empty
  runs := .empty
  outbox := .empty
  leases := .empty
  grants := .empty
  artifacts := .empty
  idempotency := .empty

abbrev after (d : Deployment) (st : State) (ops : List Op) : State := exec (step d) st ops

/-- The states a deployment can come to, from its first directory on. -/
def Reachable (d : Deployment) (st : State) : Prop :=
  ∃ directory ops, st = after d (initial directory) ops

theorem reachable_invariant {d : Deployment} {P : State → Prop}
    (hinit : ∀ directory, P (initial directory))
    (hstep : ∀ st op, P st → P (step d st op)) {st : State} (h : Reachable d st) : P st := by
  obtain ⟨directory, ops, rfl⟩ := h
  exact exec_invariant (step d) hstep ops (initial directory) (hinit directory)

end RoozDataCloud.ExecutionSystem
