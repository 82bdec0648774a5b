import RoozDataCloud.ExecutionModels
import RoozDataCloud.LockWaits

set_option autoImplicit false

/-!
# The locks of the execution plane

The locks that the transactions of the execution plane ask for, in the order of
their statements. A request that returns early finishes there. The UPDATE of a row
that the transaction has locked for update asks for nothing more, and the rows of
one flush are written in the order of their classes.
-/
namespace RoozDataCloud.ExecutionLocks
open ExecutionModels LockWaits FallibleSteps

inductive PlaneLock where
  | idempotency (key : IdempotencyKey)
  | worker (id : Uuid)
  | lease (id : Uuid)
  | build (id : Uuid)
  | buildDispatch (id : Uuid)
  | run (id : Uuid)
  | runCommand (id : Uuid)
  | runEvents (runId : Uuid)
  deriving DecidableEq

abbrev PlaneRequest := Request PlaneLock RowMode

/-- `append_run_event`: under the event lock of the run its highest sequence is read, which
flushes what is `dirty`, and the event that is inserted references the run. -/
def appendRunEvent (runId : Uuid) (dirty : List PlaneRequest) : List PlaneRequest :=
  forUpdate (.runEvents runId) :: dirty ++ [keyShare (.run runId)]

section Cancellation

/-- The status of the run, and its START command when that is pending or its CANCEL command,
as `cancel_run` finds them. -/
structure CancelRun where
  key : IdempotencyKey
  runId : Uuid
  status : RunStatus
  startCommand : Option Uuid
  cancelCommand : Option Uuid

def ensureCancelCommand (c : CancelRun) : List PlaneRequest :=
  c.cancelCommand.toList.map (fun id => forUpdate (.runCommand id))

def cancelRun (c : CancelRun) : List PlaneRequest :=
  [forUpdate (.idempotency c.key), forUpdate (.run c.runId)] ++
    if c.status ∈ runTerminalStatuses then []
    else if c.status ∈ [.draft, .ready, .queued] then
      appendRunEvent c.runId (c.startCommand.toList.map (fun id => rowUpdate (.runCommand id))) ++
        appendRunEvent c.runId []
    else if c.status ∈ runCancellableActiveStatuses then
      ensureCancelCommand c ++ appendRunEvent c.runId []
    else if c.status = .aborting then ensureCancelCommand c
    else []

/-- The active leases of a run that are not locked, and its open commands in the order of
their ids. -/
structure Fence where
  leases : List Uuid
  commands : List Uuid

def fenceCancelledRunLeases (fence : Fence) : List PlaneRequest :=
  fence.leases.map (fun id => skipLocked (.lease id)) ++
    fence.commands.map (fun id => forUpdate (.runCommand id))

/-- What a convergence finds; the status is that of the run once it is locked. -/
structure Convergence where
  fence : Fence
  status : RunStatus

def convergeCancelledRun (runId : Uuid) (found : Convergence) : List PlaneRequest :=
  fenceCancelledRunLeases found.fence ++ forUpdate (.run runId) ::
    if found.status = .aborting then appendRunEvent runId [] ++ appendRunEvent runId [] else []

/-- Whether `_converge_cancelled_run` returns true. -/
def converges (found : Option Convergence) : Bool :=
  found.any (fun found => found.status = .aborting || found.status = .aborted)

def convergeIfRequested (runId : Uuid) (found : Option Convergence) : List PlaneRequest :=
  found.elim [] (convergeCancelledRun runId)

/-- An overdue run, which is aborting when its row is locked. -/
structure Overdue where
  runId : Uuid
  fence : Fence

def reapOverdueCancellations (overdue : List Overdue) : List PlaneRequest :=
  overdue.map (fun o => skipLocked (.run o.runId)) ++
    overdue.flatMap (fun o => convergeCancelledRun o.runId ⟨o.fence, .aborting⟩)

end Cancellation

section Leases

/-- The worker's `last_seen_at` is flushed by the select that locks the lease. -/
structure LeaseAccess where
  workerId : Uuid
  leaseId : Uuid

def requireLeaseAccess (access : LeaseAccess) : List PlaneRequest :=
  [rowUpdate (.worker access.workerId), forUpdate (.lease access.leaseId)]

def appendWorkerEvents (access : LeaseAccess) (runId : Uuid) (events : ℕ) : List PlaneRequest :=
  requireLeaseAccess access ++ (List.replicate events (appendRunEvent runId [])).flatten

/-- The row that a status is written to, and whether a run's status changes. -/
inductive StatusTarget where
  | build (buildId : Uuid)
  | run (runId : Uuid) (changed : Bool)

def updateLeaseStatus (access : LeaseAccess) (target : StatusTarget) : List PlaneRequest :=
  requireLeaseAccess access ++
    match target with
    | .build buildId => [rowUpdate (.build buildId)]
    | .run runId changed =>
      if changed then appendRunEvent runId [rowUpdate (.run runId)]
      else [rowUpdate (.run runId)]

/-- A completion of a run's lease. `late` is what a completion of RUN_START finds when the
cancellation of its run was requested meanwhile, `fence` what that of RUN_CANCEL fences. -/
structure Completion where
  runId : Uuid
  cancels : Bool
  source : Option Uuid
  retry : Bool
  outcome : Outcome
  late : Option Convergence
  fence : Fence

def Completion.confirmsCancel (c : Completion) : Bool :=
  c.cancels && (c.outcome = .aborted || c.outcome = .succeeded)

def sourceUpdate (source : Option Uuid) : List PlaneRequest :=
  source.toList.map (fun id => rowUpdate (.runCommand id))

/-- The source is flushed by the select of the run that `_reset_retry_target` makes. -/
def retryTarget (c : Completion) : List PlaneRequest :=
  sourceUpdate c.source ++
    if c.cancels then [] else appendRunEvent c.runId [rowUpdate (.run c.runId)]

def endRun (c : Completion) : List PlaneRequest :=
  (if c.confirmsCancel then fenceCancelledRunLeases c.fence else []) ++
    (appendRunEvent c.runId [rowUpdate (.run c.runId)] ++ appendRunEvent c.runId [] ++
      sourceUpdate c.source)

def completeLease (access : LeaseAccess) (c : Completion) : List PlaneRequest :=
  let late := if c.cancels then none else c.late
  requireLeaseAccess access ++ (convergeIfRequested c.runId late ++
    if converges late then [] else if c.retry then retryTarget c else endRun c)

/-- A lease that has expired, with what its reset finds. -/
inductive ExpiredLease where
  | build (leaseId buildId : Uuid) (source : Option Uuid)
  | run (leaseId runId : Uuid) (source : Option Uuid) (late : Option Convergence) (changed : Bool)

def ExpiredLease.leaseId : ExpiredLease → Uuid
  | .build leaseId _ _ => leaseId
  | .run leaseId _ _ _ _ => leaseId

def resetExpiredSource : ExpiredLease → List PlaneRequest
  | .build _ buildId source =>
    rowUpdate (.build buildId) :: source.toList.map (fun id => rowUpdate (.buildDispatch id))
  | .run _ runId source late changed =>
    convergeIfRequested runId late ++
      if converges late then []
      else if changed then appendRunEvent runId (rowUpdate (.run runId) :: sourceUpdate source)
      else rowUpdate (.run runId) :: sourceUpdate source

def reapExpiredLeases (expired : List ExpiredLease) (overdue : List Overdue) :
    List PlaneRequest :=
  expired.map (fun lease => skipLocked (.lease lease.leaseId)) ++
    (expired.flatMap resetExpiredSource ++ reapOverdueCancellations overdue)

end Leases

inductive PlaneJob where
  | cancelRun (c : CancelRun)
  | appendWorkerEvents (access : LeaseAccess) (runId : Uuid) (events : ℕ)
  | updateLeaseStatus (access : LeaseAccess) (target : StatusTarget)
  | completeLease (access : LeaseAccess) (c : Completion)
  | reapExpiredLeases (expired : List ExpiredLease) (overdue : List Overdue)
  | reapOverdueCancellations (overdue : List Overdue)

def PlaneJob.locks : PlaneJob → List PlaneRequest
  | .cancelRun c => ExecutionLocks.cancelRun c
  | .appendWorkerEvents access runId events =>
    ExecutionLocks.appendWorkerEvents access runId events
  | .updateLeaseStatus access target => ExecutionLocks.updateLeaseStatus access target
  | .completeLease access c => ExecutionLocks.completeLease access c
  | .reapExpiredLeases expired overdue => ExecutionLocks.reapExpiredLeases expired overdue
  | .reapOverdueCancellations overdue => ExecutionLocks.reapOverdueCancellations overdue

/-- Transactions are told apart by a number. -/
abbrev PlaneBoard := Board ℕ PlaneJob PlaneLock RowMode

def planeStep : PlaneBoard → Move ℕ PlaneJob → PlaneBoard := step rowModes PlaneJob.locks

def newBoard : PlaneBoard := idle ℕ PlaneJob PlaneLock RowMode

section Styles
variable (rowFirst : Uuid → Bool) (owner : Uuid → Uuid)

/-- Of each run, the row comes first and the event lock last, or the other way round. -/
def turn : PlaneLock → ℕ
  | .idempotency _ => 0
  | .worker _ => 0
  | .lease _ => 1
  | .build _ => 2
  | .buildDispatch _ => 3
  | .run id => if rowFirst id then 2 else 3
  | .runCommand id => if rowFirst (owner id) then 3 else 4
  | .runEvents runId => if rowFirst runId then 4 else 2

def commandId : PlaneLock → ℕ
  | .runCommand id => id
  | _ => 0

def Before (a b : PlaneLock) : Prop :=
  turn rowFirst owner a < turn rowFirst owner b ∨
    turn rowFirst owner a = turn rowFirst owner b ∧ commandId a < commandId b

instance : IsStrictOrder PlaneLock (Before rowFirst owner) where
  irrefl a h := by unfold Before at h; omega
  trans a b c hab hbc := by unfold Before at *; omega

/-- The jobs over one run that follow its style: the requests of its leases take the event lock
first, as long as they neither retry nor fence; a cancellation of it and its overdue
convergence lock the row first. -/
def Fits : PlaneJob → Prop
  | .cancelRun c => rowFirst c.runId = true ∧ c.startCommand = none ∧
      ∀ id ∈ c.cancelCommand, owner id = c.runId
  | .appendWorkerEvents _ runId _ => rowFirst runId = false
  | .updateLeaseStatus _ (.build _) => True
  | .updateLeaseStatus _ (.run runId _) => rowFirst runId = false
  | .completeLease _ c => rowFirst c.runId = false ∧ c.late = none ∧ c.retry = false ∧
      c.confirmsCancel = false ∧ ∀ id ∈ c.source, owner id = c.runId
  | .reapExpiredLeases [.build _ _ _] [] => True
  | .reapExpiredLeases [.run _ runId source late _] [] => rowFirst runId = false ∧ late = none ∧
      ∀ id ∈ source, owner id = runId
  | .reapExpiredLeases _ _ => False
  | .reapOverdueCancellations [o] => rowFirst o.runId = true ∧ o.fence.commands.Pairwise (· < ·) ∧
      ∀ id ∈ o.fence.commands, owner id = o.runId
  | .reapOverdueCancellations _ => False

variable {rowFirst owner}

theorem access_ascends (access : LeaseAccess) :
    Ascends rowModes (Before rowFirst owner) [] (requireLeaseAccess access) := by
  simp [requireLeaseAccess, Ascends, Above, Before, turn, forUpdate, rowUpdate]

theorem event_again {taken : List PlaneRequest} {runId : Uuid}
    (hevents : forUpdate (.runEvents runId) ∈ taken)
    (hrun : Covered rowModes taken (keyShare (.run runId))) :
    ∀ r ∈ appendRunEvent runId [], Covered rowModes taken r := by
  intro r hr
  simp only [appendRunEvent, List.cons_append, List.nil_append, List.mem_cons,
    List.not_mem_nil, or_false] at hr
  rcases hr with rfl | rfl
  · exact ⟨_, hevents, rfl, covers_refl _⟩
  · exact hrun

theorem workerEvents_fit {runId : Uuid} (access : LeaseAccess) (events : ℕ)
    (h : rowFirst runId = false) :
    Ascends rowModes (Before rowFirst owner) [] (appendWorkerEvents access runId events) := by
  rw [appendWorkerEvents, ascends_append]
  refine ⟨access_ascends access, ?_⟩
  cases events with
  | zero => trivial
  | succ n =>
    rw [List.replicate_succ, List.flatten_cons, ascends_append]
    refine ⟨?_, ascends_covered (fun r hr => ?_)⟩
    · simp [requireLeaseAccess, appendRunEvent, Ascends, Above, Before, turn, forUpdate,
        rowUpdate, keyShare, h]
    · obtain ⟨again, hagain, hr⟩ := List.mem_flatten.1 hr
      rw [List.eq_of_mem_replicate hagain] at hr
      exact event_again (by simp [appendRunEvent])
        ⟨keyShare (.run runId), by simp [appendRunEvent], rfl, covers_refl _⟩ r hr

theorem statusUpdate_fits {runId : Uuid} (access : LeaseAccess) (changed : Bool)
    (h : rowFirst runId = false) :
    Ascends rowModes (Before rowFirst owner) []
      (updateLeaseStatus access (.run runId changed)) := by
  rw [updateLeaseStatus, ascends_append]
  refine ⟨access_ascends access, ?_⟩
  cases changed with
  | false => simp [requireLeaseAccess, Ascends, Above, Before, turn, forUpdate, rowUpdate, h]
  | true =>
    have hkeyShare : Covers rowModes .noKeyUpdate .keyShare := by decide
    simp [requireLeaseAccess, appendRunEvent, Ascends, Above, Before, Covered, turn, forUpdate,
      rowUpdate, keyShare, h, hkeyShare]

theorem completion_fits {c : Completion} (access : LeaseAccess) (h : rowFirst c.runId = false)
    (hlate : c.late = none) (hretry : c.retry = false) (hcancel : c.confirmsCancel = false)
    (hsource : ∀ id ∈ c.source, owner id = c.runId) :
    Ascends rowModes (Before rowFirst owner) [] (completeLease access c) := by
  have hkeyShare : Covers rowModes .noKeyUpdate .keyShare := by decide
  have hlocks : completeLease access c = requireLeaseAccess access ++
      (appendRunEvent c.runId [rowUpdate (.run c.runId)] ++ appendRunEvent c.runId [] ++
        sourceUpdate c.source) := by
    simp [completeLease, hlate, convergeIfRequested, converges, hretry, endRun, hcancel]
  rw [hlocks, ascends_append, ascends_append, ascends_append]
  refine ⟨access_ascends access, ⟨?_, ascends_covered ?_⟩, ?_⟩
  · simp [requireLeaseAccess, appendRunEvent, Ascends, Above, Before, Covered, turn, forUpdate,
      rowUpdate, keyShare, h, hkeyShare]
  · exact event_again (by simp [appendRunEvent])
      ⟨keyShare (.run c.runId), by simp [appendRunEvent], rfl, covers_refl _⟩
  · cases hid : c.source with
    | none => trivial
    | some id =>
      have howner : owner id = c.runId := hsource id hid
      simp [sourceUpdate, requireLeaseAccess, appendRunEvent, Ascends, Above, Before, turn,
        forUpdate, rowUpdate, keyShare, h, howner]

theorem expiry_fits {leaseId runId : Uuid} {source : Option Uuid} (changed : Bool)
    (h : rowFirst runId = false) (hsource : ∀ id ∈ source, owner id = runId) :
    Ascends rowModes (Before rowFirst owner) []
      (reapExpiredLeases [.run leaseId runId source none changed] []) := by
  have hkeyShare : Covers rowModes .noKeyUpdate .keyShare := by decide
  cases source with
  | none =>
    cases changed <;>
      simp [reapExpiredLeases, reapOverdueCancellations, resetExpiredSource, convergeIfRequested,
        converges, sourceUpdate, ExpiredLease.leaseId, appendRunEvent, Ascends, Above, Before,
        Covered, turn, forUpdate, rowUpdate, skipLocked, keyShare, h, hkeyShare]
  | some id =>
    have howner : owner id = runId := hsource id rfl
    cases changed <;>
      simp [reapExpiredLeases, reapOverdueCancellations, resetExpiredSource, convergeIfRequested,
        converges, sourceUpdate, ExpiredLease.leaseId, appendRunEvent, Ascends, Above, Before,
        Covered, turn, forUpdate, rowUpdate, skipLocked, keyShare, h, howner, hkeyShare]

theorem cancel_fits {c : CancelRun} (h : rowFirst c.runId = true) (hstart : c.startCommand = none)
    (hcancel : ∀ id ∈ c.cancelCommand, owner id = c.runId) :
    Ascends rowModes (Before rowFirst owner) [] (cancelRun c) := by
  have hkeyShare : Covers rowModes .update .keyShare := by decide
  have hhead : Ascends rowModes (Before rowFirst owner) []
      [forUpdate (.idempotency c.key), forUpdate (.run c.runId)] := by
    simp [Ascends, Above, Before, turn, forUpdate, h]
  rw [cancelRun, ascends_append]
  refine ⟨hhead, ?_⟩
  have hensure : Ascends rowModes (Before rowFirst owner)
      [forUpdate (.run c.runId), forUpdate (.idempotency c.key)]
      (ensureCancelCommand c ++ appendRunEvent c.runId []) := by
    cases hid : c.cancelCommand with
    | none =>
      simp [ensureCancelCommand, hid, appendRunEvent, Ascends, Above, Before, Covered, turn,
        forUpdate, keyShare, h, hkeyShare]
    | some id =>
      have howner : owner id = c.runId := hcancel id hid
      simp [ensureCancelCommand, hid, appendRunEvent, Ascends, Above, Before, Covered, turn,
        forUpdate, keyShare, h, howner, hkeyShare]
  split
  · trivial
  split
  · rw [hstart]
    simp [appendRunEvent, Ascends, Above, Before, Covered, turn, forUpdate, keyShare, h, hkeyShare,
      covers_refl]
  split
  · exact hensure
  split
  · exact (ascends_append.1 hensure).1
  · trivial

theorem commands_ascend {taken : List PlaneRequest} {runId : Uuid} {commands : List Uuid}
    (h : rowFirst runId = true) (hsorted : commands.Pairwise (· < ·))
    (howner : ∀ id ∈ commands, owner id = runId)
    (htaken : ∀ d ∈ taken, turn rowFirst owner d.key < 3) :
    Ascends rowModes (Before rowFirst owner) taken
      (commands.map (fun id => forUpdate (.runCommand id))) := by
  have hturn : ∀ id ∈ commands, turn rowFirst owner (.runCommand id) = 3 := by
    intro id hid
    simp [turn, howner id hid, h]
  have hkeys : (commands.map PlaneLock.runCommand).Pairwise
      (fun a b => a = b ∨ Before rowFirst owner a b) := by
    rw [List.pairwise_map]
    refine hsorted.imp_of_mem (fun ha hb hlt => .inr (.inr ⟨?_, hlt⟩))
    rw [hturn _ ha, hturn _ hb]
  have hmap : Ascends rowModes (Before rowFirst owner) taken
      ((commands.map PlaneLock.runCommand).map (fun k => ⟨k, .update, true⟩)) := by
    refine ascends_map RowMode.update true hkeys (fun k hk d hd => .inl (.inl ?_))
    obtain ⟨id, hid, rfl⟩ := List.mem_map.1 hk
    rw [hturn id hid]
    exact htaken d hd
  rw [List.map_map] at hmap
  exact hmap

theorem overdue_fits {o : Overdue} (h : rowFirst o.runId = true)
    (hsorted : o.fence.commands.Pairwise (· < ·))
    (howner : ∀ id ∈ o.fence.commands, owner id = o.runId) :
    Ascends rowModes (Before rowFirst owner) [] (reapOverdueCancellations [o]) := by
  have hlocks : reapOverdueCancellations [o] = [skipLocked (.run o.runId)] ++
      (o.fence.leases.map (fun id => skipLocked (.lease id)) ++
        (o.fence.commands.map (fun id => forUpdate (.runCommand id)) ++
          ([forUpdate (.run o.runId)] ++ (appendRunEvent o.runId [] ++
            appendRunEvent o.runId [])))) := by
    simp [reapOverdueCancellations, convergeCancelledRun, fenceCancelledRunLeases]
  have hkeyShare : Covers rowModes .update .keyShare := by decide
  rw [hlocks]
  simp only [ascends_append]
  refine ⟨ascends_free (by simp [skipLocked]), ascends_free (by simp [skipLocked]),
    commands_ascend h hsorted howner ?_, ascends_covered ?_, ?_, ascends_covered ?_⟩
  · intro d hd
    simp only [List.append_nil, List.reverse_cons, List.reverse_nil, List.nil_append,
      List.mem_append, List.mem_reverse, List.mem_map, List.mem_cons, List.not_mem_nil,
      or_false] at hd
    rcases hd with ⟨id, -, rfl⟩ | rfl
    · simp [turn, skipLocked]
    · simp [turn, skipLocked, h]
  · intro r hr
    rw [List.mem_singleton.1 hr]
    exact ⟨skipLocked (.run o.runId), by simp, rfl, covers_refl _⟩
  · refine ⟨fun _ => .inr (fun d hd => .inl ?_), fun _ => .inl ?_, trivial⟩
    · simp only [List.append_nil, List.reverse_cons, List.reverse_nil, List.nil_append,
        List.mem_append, List.mem_reverse, List.mem_map, List.mem_cons, List.not_mem_nil,
        or_false] at hd
      rcases hd with rfl | ⟨id, hid, rfl⟩ | ⟨id, -, rfl⟩ | rfl
      · simp [turn, forUpdate, h]
      · simp [turn, forUpdate, howner id hid, h]
      · simp [turn, forUpdate, skipLocked, h]
      · simp [turn, forUpdate, skipLocked, h]
    · exact ⟨forUpdate (.run o.runId), by simp, rfl, hkeyShare⟩
  · exact event_again (by simp [appendRunEvent])
      ⟨forUpdate (.run o.runId), by simp, rfl, hkeyShare⟩

theorem fits_ascends {job : PlaneJob} (h : Fits rowFirst owner job) :
    Ascends rowModes (Before rowFirst owner) [] job.locks := by
  cases job with
  | cancelRun c => exact cancel_fits h.1 h.2.1 h.2.2
  | appendWorkerEvents access runId events => exact workerEvents_fit access events h
  | updateLeaseStatus access target =>
    cases target with
    | build buildId =>
      simp [PlaneJob.locks, updateLeaseStatus, requireLeaseAccess, Ascends, Above, Before, turn,
        forUpdate, rowUpdate]
    | run runId changed => exact statusUpdate_fits access changed h
  | completeLease access c => exact completion_fits access h.1 h.2.1 h.2.2.1 h.2.2.2.1 h.2.2.2.2
  | reapExpiredLeases expired overdue =>
    rcases expired with _ | ⟨lease, _ | ⟨next, rest⟩⟩
    · exact False.elim h
    · cases overdue with
      | cons o rest => cases lease <;> exact False.elim h
      | nil =>
        cases lease with
        | build leaseId buildId source =>
          cases source <;>
            simp [PlaneJob.locks, reapExpiredLeases, reapOverdueCancellations, resetExpiredSource,
              ExpiredLease.leaseId, Ascends, Above, Before, turn, rowUpdate, skipLocked]
        | run leaseId runId source late changed =>
          obtain ⟨hstyle, rfl, hsource⟩ := h
          exact expiry_fits changed hstyle hsource
    · cases lease <;> exact False.elim h
  | reapOverdueCancellations overdue =>
    rcases overdue with _ | ⟨o, _ | ⟨next, rest⟩⟩
    · exact False.elim h
    · exact overdue_fits h.1 h.2.1 h.2.2
    · exact False.elim h

theorem styled_run_deadlock_free {moves : List (Move ℕ PlaneJob)}
    (h : ∀ t job, .start t job ∈ moves → Fits rowFirst owner job) :
    ¬ Deadlocked rowModes (exec planeStep newBoard moves) :=
  ordered_run moves (admits_of_order (fun t job hjob => fits_ascends (h t job hjob)))

end Styles

/-- A worker appends an event to a run whose status another lease is writing. -/
def contended : List (Move ℕ PlaneJob) :=
  [.start 0 (.appendWorkerEvents ⟨1, 10⟩ 100 1),
    .start 1 (.updateLeaseStatus ⟨2, 11⟩ (.run 100 true)),
    .take 0, .take 0, .take 0, .take 1, .take 1]

theorem contended_fits {t : ℕ} {job : PlaneJob} (h : .start t job ∈ contended) :
    Fits (fun _ => false) (fun _ => 100) job := by
  simp only [contended, List.mem_cons, Move.start.injEq, reduceCtorEq, List.not_mem_nil,
    or_false] at h
  rcases h with ⟨-, rfl⟩ | ⟨-, rfl⟩
  · exact rfl
  · exact rfl

/-- A worker that appends an event holds the event lock of the run when it references the run;
the cancellation of the run has locked its row and then appends an event as well. -/
def crossed : List (Move ℕ PlaneJob) :=
  [.start 0 (.appendWorkerEvents ⟨1, 10⟩ 100 1),
    .start 1 (.cancelRun ⟨⟨1, 2, "cancel", "key"⟩, 100, .running, none, none⟩),
    .take 0, .take 0, .take 0, .take 1, .take 1]

end RoozDataCloud.ExecutionLocks
