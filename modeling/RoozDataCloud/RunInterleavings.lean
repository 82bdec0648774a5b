import RoozDataCloud.ExecutionSystem
import RoozDataCloud.ReadCommitted

set_option autoImplicit false

/-!
# Worker requests and cancellations of one run, statement by statement

A worker's request locks its lease, reads the run without a lock and writes it
later; a cancellation locks the run first. The flush of a run writes only the
columns the request has changed, whatever the other columns hold by then.
-/
namespace RoozDataCloud.RunInterleavings
open ExecutionModels FallibleSteps ExecutionRecovery CancellationConvergence LeaseRequests
open RunRequests ExecutionSystem ReadCommitted

/-- The rows of one run: its start command and lease, and its cancel command if there is one. -/
structure Rows where
  runId : Uuid
  run : Run
  start : OutboxSource
  cancel : Option OutboxSource
  lease : ExecutionLease

def flushRun (loaded changed stored : Run) : Run :=
  { stored with
    status := flushColumn loaded.status changed.status stored.status
    startedAt := flushColumn loaded.startedAt changed.startedAt stored.startedAt
    finishedAt := flushColumn loaded.finishedAt changed.finishedAt stored.finishedAt
    cancelRequestedAt :=
      flushColumn loaded.cancelRequestedAt changed.cancelRequestedAt stored.cancelRequestedAt
    cancelDeadlineAt :=
      flushColumn loaded.cancelDeadlineAt changed.cancelDeadlineAt stored.cancelDeadlineAt
    failureCode := flushColumn loaded.failureCode changed.failureCode stored.failureCode
    failureSummary := flushColumn loaded.failureSummary changed.failureSummary stored.failureSummary
    version := flushColumn loaded.version changed.version stored.version }

inductive WorkerCall where
  | report (report : StatusReport)
  | complete (payload : CompleteLeaseRequest)

/-- A request under the start lease, or a cancellation that is not the replay of an earlier one. -/
inductive Request where
  | worker (call : LeaseCall) (body : WorkerCall)
  | cancel (now : Time)

def leaseAccessible (call : LeaseCall) (lease : ExecutionLease) : Bool :=
  lease.workerId = call.credential.workerId && lease.status = .active &&
    decide (call.credential.now < lease.expiresAt) &&
    decide (call.credential.now < lease.deadlineAt) &&
    lease.leaseTokenDigest = call.leaseTokenDigest

/-- `update_lease_status`; `none` where it raises. -/
def reportRows (now : Time) (report : StatusReport) (loaded : Run) (s : Rows) : Option Rows :=
  if loaded.cancelRequestedAt.isSome then none
  else if report.run ∈ [RunStatus.starting, .running] then
    some { s with
      run := flushRun loaded (reportedRun report.run now loaded) s.run
      lease := reportedLease now s.lease }
  else none

def retryRows (now : Time) (payload : CompleteLeaseRequest) (available : Time) (loaded : Run)
    (s : Rows) : Rows :=
  let code := payload.errorCode.getD "WORKER_RETRYABLE_FAILURE"
  { s with
    run := flushRun loaded (resetRun loaded) s.run
    start := retriedSource available code s.start
    lease := completedLease false (some code) payload.errorSummary now s.lease }

def endRows (now : Time) (payload : CompleteLeaseRequest) (loaded : Run) (s : Rows) : Rows :=
  let ended := completedRun payload false now loaded
  let delivered := ended.status = .succeeded ∨ ended.status = .aborted
  { s with
    run := flushRun loaded ended s.run
    start := completedSource delivered ended.failureCode now s.start
    lease := completedLease delivered ended.failureCode ended.failureSummary now s.lease }

def settleRows (d : Deployment) (now : Time) (payload : CompleteLeaseRequest) (loaded : Run)
    (s : Rows) : Option Rows :=
  if executionRetryAllowed payload.retryable payload.outcome s.lease.attempt
      d.settings.workerMaxAttempts true then
    match retryAvailableAt now s.lease.attempt d.settings.workerRetryBaseSeconds
        d.settings.workerRetryMaxSeconds with
    | .ok available => some (retryRows now payload available loaded s)
    | .error _ => none
  else some (endRows now payload loaded s)

def fenceCommand (source : OutboxSource) : OutboxSource :=
  if source.status = .pending ∨ source.status = .claimed then convergedSource source else source

def fenceRows (now : Time) (s : Rows) : Rows :=
  { s with
    start := fenceCommand s.start
    cancel := s.cancel.map fenceCommand
    lease := if s.lease.status = .active then cancelledLease now s.lease else s.lease }

/-- `complete_lease`. A run that was cancelled by the time it was read is locked and read afresh
by the convergence; where that does not converge it, the completion goes on with the fresh row. -/
def completeRows (d : Deployment) (now : Time) (payload : CompleteLeaseRequest) (loaded : Run)
    (s : Rows) : Option Rows :=
  if loaded.cancelRequestedAt = none then settleRows d now payload loaded s
  else if s.run.cancelRequestedAt = none then settleRows d now payload s.run (fenceRows now s)
  else if s.run.status = .aborted then some (fenceRows now s)
  else if s.run.status ≠ .aborting then settleRows d now payload s.run (fenceRows now s)
  else some { fenceRows now s with run := convergedRun now s.run }

def workerRows (d : Deployment) (call : LeaseCall) (body : WorkerCall) (loaded : Run) (s : Rows) :
    Option Rows :=
  match body with
  | .report report => reportRows call.now report loaded s
  | .complete payload => completeRows d call.now payload loaded s

def ensureCancel (now : Time) (s : Rows) : Rows :=
  match s.cancel with
  | some _ => s
  | none => { s with cancel := some (cancelCommand s.runId s.run now) }

def withdrawCommand (source : OutboxSource) : OutboxSource :=
  if source.status = .pending then withdrawnSource source else source

/-- `cancel_run`, once the run is locked. -/
def cancelRows (d : Deployment) (now : Time) (s : Rows) : Option Rows :=
  if s.run.status ∈ runTerminalStatuses then some s
  else if s.run.status ∈ [RunStatus.draft, .ready, .queued] then
    if cancellationImmutable s.run (abortedRun d now s.run) then
      some { s with run := abortedRun d now s.run, start := withdrawCommand s.start }
    else none
  else if s.run.status ∈ runCancellableActiveStatuses then
    if cancellationImmutable s.run (abortingRun d now s.run) then
      some (ensureCancel now { s with run := abortingRun d now s.run })
    else none
  else if s.run.status = .aborting then some (ensureCancel now s)
  else none

inductive Lock where
  | lease | run
  deriving DecidableEq

inductive Txn where
  | ready
  | leased
  | granted
  | loaded (run : Run)
  | locked
  | written (rows : Rows)
  | finished

def next (d : Deployment) (requests : ℕ → Request) (i : ℕ) (s : Rows) (t : Txn) :
    Action Rows Txn Lock :=
  match requests i, t with
  | .worker _ _, .ready => .lock .lease .leased
  | .worker call _, .leased =>
    if leaseAccessible call s.lease ∧ s.run.cancelRequestedAt = none then .run .granted
    else .stop .finished
  | .worker _ _, .granted => .run (.loaded s.run)
  | .worker call body, .loaded loaded =>
    match workerRows d call body loaded s with
    | some rows => .lock .run (.written rows)
    | none => .stop .finished
  | .cancel _, .ready => .lock .run .locked
  | .cancel now, .locked =>
    match cancelRows d now s with
    | some rows => .run (.written rows)
    | none => .stop .finished
  | _, .written rows => .commit rows .finished
  | _, _ => .stop .finished

section Flush
variable (loaded changed : Run)

@[simp] theorem flushRun_status : (flushRun loaded changed loaded).status = changed.status :=
  flushColumn_self ..

@[simp] theorem flushRun_cancel :
    (flushRun loaded changed loaded).cancelRequestedAt = changed.cancelRequestedAt :=
  flushColumn_self ..

@[simp] theorem flushRun_version : (flushRun loaded changed loaded).version = changed.version :=
  flushColumn_self ..

end Flush

/-- No committed cancellation is overwritten: the run is not running and has not succeeded, a
cancel command waits only for an aborting or a cancelled, ended run, and only a cancelled run is
aborting. -/
structure Coherent (s : Rows) : Prop where
  stopped : s.run.cancelRequestedAt ≠ none → s.run.status ≠ .running ∧ s.run.status ≠ .succeeded
  pending : ∀ command, s.cancel = some command → command.status = .pending →
    s.run.status = .aborting ∨
      (s.run.status ∈ runTerminalStatuses ∧ s.run.cancelRequestedAt ≠ none)
  aborting : s.run.status = .aborting → s.run.cancelRequestedAt ≠ none

def Settled (s : Rows) : Prop :=
  s.run.cancelRequestedAt ≠ none → s.run.status = .aborting ∨ s.run.status = .aborted

/-- What one commit may do to the rows. -/
structure Follows (s s' : Rows) : Prop where
  coherent : Coherent s'
  version : s'.run = s.run ∨ s'.run.version = s.run.version + 1
  kept : s.run.cancelRequestedAt ≠ none → s'.run.cancelRequestedAt ≠ none
  settled : Settled s → Settled s'

variable {d : Deployment} {s s' : Rows}

theorem Coherent.no_pending (h : Coherent s) (hnone : s.run.cancelRequestedAt = none)
    (command : OutboxSource) (hcancel : s.cancel = some command) : command.status ≠ .pending := by
  intro hpending
  rcases h.pending command hcancel hpending with haborting | ⟨-, hset⟩
  · exact h.aborting haborting hnone
  · exact hset hnone

theorem follows_uncancelled (h : Coherent s) (hnone : s.run.cancelRequestedAt = none)
    (hcancel : s'.cancel = s.cancel) (hkeep : s'.run.cancelRequestedAt = s.run.cancelRequestedAt)
    (hstatus : s'.run.status ≠ .aborting) (hversion : s'.run.version = s.run.version + 1) :
    Follows s s' := by
  have hnone' := hkeep.trans hnone
  refine ⟨⟨fun hset => absurd hnone' hset, fun command hcommand hpending => ?_,
    fun haborting => absurd haborting hstatus⟩, .inr hversion, fun hset => absurd hnone hset,
    fun _ hset => absurd hnone' hset⟩
  exact absurd hpending (h.no_pending hnone command (hcancel ▸ hcommand))

theorem follows_cancelled (hset : s'.run.cancelRequestedAt ≠ none)
    (hstatus : s'.run.status = .aborting ∨ s'.run.status = .aborted)
    (hversion : s'.run = s.run ∨ s'.run.version = s.run.version + 1) : Follows s s' := by
  refine ⟨⟨fun _ => ?_, fun _ _ _ => ?_, fun _ => hset⟩, hversion, fun _ => hset, fun _ _ => hstatus⟩
  · rcases hstatus with h | h <;> simp [h]
  · refine hstatus.imp id (fun h => ⟨?_, hset⟩)
    rw [h]
    decide

theorem reportRows_follows (h : Coherent s) {now : Time} {report : StatusReport}
    (hrows : reportRows now report s.run s = some s') : Follows s s' := by
  unfold reportRows at hrows
  split_ifs at hrows with hset hallowed
  obtain rfl := Option.some.inj hrows
  have hnone : s.run.cancelRequestedAt = none := by simpa using hset
  refine follows_uncancelled h hnone rfl ?_ ?_ ?_
  · exact flushRun_cancel ..
  · rw [flushRun_status]
    intro haborting
    change report.run = .aborting at haborting
    rw [haborting] at hallowed
    exact absurd hallowed (by decide)
  · exact flushRun_version ..

theorem completedRun_kept (payload : CompleteLeaseRequest) (now : Time) (run : Run) :
    (completedRun payload false now run).cancelRequestedAt = run.cancelRequestedAt ∧
      (completedRun payload false now run).status ≠ .aborting ∧
      (completedRun payload false now run).version = run.version + 1 := by
  cases h : payload.outcome <;> simp [completedRun, h]

theorem settleRows_follows (h : Coherent s) (hnone : s.run.cancelRequestedAt = none) {now : Time}
    {payload : CompleteLeaseRequest} (hrows : settleRows d now payload s.run s = some s') :
    Follows s s' := by
  unfold settleRows at hrows
  split_ifs at hrows
  · split at hrows
    · obtain rfl := Option.some.inj hrows
      exact follows_uncancelled h hnone rfl (flushRun_cancel ..)
        (by simp [retryRows, resetRun]) (flushRun_version ..)
    · cases hrows
  · obtain rfl := Option.some.inj hrows
    obtain ⟨hcancel, hstatus, hversion⟩ := completedRun_kept payload now s.run
    exact follows_uncancelled h hnone rfl ((flushRun_cancel ..).trans hcancel)
      (by rw [endRows, flushRun_status]; exact hstatus) ((flushRun_version ..).trans hversion)

theorem completeRows_follows (h : Coherent s) (hs : Settled s) {now : Time}
    {payload : CompleteLeaseRequest} {loaded : Run}
    (hfresh : loaded.cancelRequestedAt = none → loaded = s.run)
    (hkept : loaded.cancelRequestedAt ≠ none → s.run.cancelRequestedAt ≠ none)
    (hrows : completeRows d now payload loaded s = some s') : Follows s s' := by
  unfold completeRows at hrows
  split_ifs at hrows with hnone hnow haborted hother
  · obtain rfl := hfresh hnone
    exact settleRows_follows h hnone hrows
  · exact absurd hnow (hkept hnone)
  · obtain rfl := Option.some.inj hrows
    exact follows_cancelled hnow (.inr haborted) (.inl rfl)
  · rcases hs hnow with haborting | haborted'
    · exact absurd haborting hother
    · exact absurd haborted' haborted
  · obtain rfl := Option.some.inj hrows
    exact follows_cancelled hnow (.inr rfl) (.inr rfl)

theorem ensureCancel_run (now : Time) (s : Rows) : (ensureCancel now s).run = s.run := by
  unfold ensureCancel
  split <;> rfl

theorem cancelRows_follows (h : Coherent s) {now : Time} (hrows : cancelRows d now s = some s') :
    Follows s s' := by
  unfold cancelRows at hrows
  split_ifs at hrows
  · obtain rfl := Option.some.inj hrows
    exact ⟨h, .inl rfl, id, id⟩
  · obtain rfl := Option.some.inj hrows
    exact follows_cancelled (by simp [abortedRun, cancelledRun]) (.inr rfl) (.inr rfl)
  · obtain rfl := Option.some.inj hrows
    have hrun := ensureCancel_run now { s with run := abortingRun d now s.run }
    refine follows_cancelled ?_ (.inl ?_) (.inr ?_) <;> rw [hrun]
    · simp [abortingRun, cancelledRun]
    · rfl
    · rfl
  · rename_i haborting
    obtain rfl := Option.some.inj hrows
    have hrun := ensureCancel_run now s
    refine follows_cancelled ?_ (.inl ?_) (.inl hrun) <;> rw [hrun]
    · exact h.aborting haborting
    · exact haborting

/-- A worker is about to write a run that it read as not cancelled, and whose committed version is
no longer the one it read. -/
def stale (d : Deployment) (requests : ℕ → Request) (i : ℕ) (s : Rows) (t : Txn) : Bool :=
  match requests i, t with
  | .worker call body, .loaded loaded =>
    (workerRows d call body loaded s).isSome && loaded.cancelRequestedAt = none &&
      s.run.version ≠ loaded.version
  | _, _ => false

def Fresh (d : Deployment) (requests : ℕ → Request) (i : ℕ) (s : Rows) (t : Txn) : Prop :=
  stale d requests i s t = false

/-- A run as read some time ago. -/
structure Seen (loaded run : Run) : Prop where
  older : loaded = run ∨ loaded.version < run.version
  kept : loaded.cancelRequestedAt ≠ none → run.cancelRequestedAt ≠ none

theorem Seen.follows {loaded : Run} (h : Seen loaded s.run) (hf : Follows s s') :
    Seen loaded s'.run := by
  refine ⟨?_, fun hset => hf.kept (h.kept hset)⟩
  rcases hf.version with hsame | hversion
  · rw [hsame]
    exact h.older
  · right
    rcases h.older with rfl | hlt <;> omega

theorem Seen.current {loaded run : Run} (h : Seen loaded run) (hversion : run.version = loaded.version) :
    loaded = run := by
  rcases h.older with hsame | hlt
  · exact hsame
  · omega

def Knows (s : Rows) : Txn → Prop
  | .granted => Settled s
  | .loaded loaded => Settled s ∧ Seen loaded s.run
  | .written rows => Follows s rows
  | _ => True

def Owns : Txn → Lock → Prop
  | .locked, .run | .written _, .run => True
  | _, _ => False

theorem workerRows_follows {requests : ℕ → Request} {i : ℕ} {call : LeaseCall} {body : WorkerCall}
    {loaded : Run} (hrequest : requests i = .worker call body) (h : Coherent s)
    (hs : Settled s) (hseen : Seen loaded s.run) (hfresh : Fresh d requests i s (.loaded loaded))
    (hrows : workerRows d call body loaded s = some s') : Follows s s' := by
  have hcurrent : loaded.cancelRequestedAt = none → loaded = s.run := by
    intro hnone
    refine hseen.current ?_
    simpa [Fresh, stale, hrequest, hrows, hnone] using hfresh
  cases body with
  | report report =>
    have hnone : loaded.cancelRequestedAt = none := by
      by_contra hset
      simp [workerRows, reportRows, Option.isSome_iff_ne_none, hset] at hrows
    obtain rfl := hcurrent hnone
    exact reportRows_follows h hrows
  | complete payload => exact completeRows_follows h hs hcurrent hseen.kept hrows

theorem next_commit {requests : ℕ → Request} {i : ℕ} {t t' : Txn}
    (h : next d requests i s t = .commit s' t') : t = .written s' ∧ t' = .finished := by
  cases hrequest : requests i <;> cases t <;> simp only [next, hrequest] at h <;>
    first
      | (obtain ⟨rfl, rfl⟩ := Action.commit.inj h; exact ⟨rfl, rfl⟩)
      | (split at h <;> cases h)
      | cases h

theorem next_stop {requests : ℕ → Request} {i : ℕ} {t t' : Txn}
    (h : next d requests i s t = .stop t') : t' = .finished := by
  cases hrequest : requests i <;> cases t <;> simp only [next, hrequest] at h <;>
    first
      | exact (Action.stop.inj h).symm
      | (split at h <;> first | exact (Action.stop.inj h).symm | cases h)
      | cases h

/-- The rows stay coherent as long as every worker's write is fresh. -/
def protocol (d : Deployment) (requests : ℕ → Request) :
    Protocol (next d requests) Txn.finished (Fresh d requests) where
  Good := Coherent
  Knows := fun _ => Knows
  Owns := Owns
  run := by
    intro i s t t' hgood hknows hfresh hnext
    cases hrequest : requests i with
    | worker call body =>
      cases t with
      | leased =>
        simp only [next, hrequest] at hnext
        split_ifs at hnext with haccess
        obtain rfl := Action.run.inj hnext
        exact ⟨fun hset => absurd haccess.2 hset, fun l hl => by cases l <;> exact hl.elim⟩
      | granted =>
        simp only [next, hrequest] at hnext
        obtain rfl := Action.run.inj hnext
        exact ⟨⟨hknows, .inl rfl, id⟩, fun l hl => by cases l <;> exact hl.elim⟩
      | loaded loaded =>
        simp only [next, hrequest] at hnext
        split at hnext <;> cases hnext
      | ready | locked | written rows | finished => simp [next, hrequest] at hnext
    | cancel now =>
      cases t with
      | locked =>
        simp only [next, hrequest] at hnext
        split at hnext
        · rename_i rows hrows
          obtain rfl := Action.run.inj hnext
          exact ⟨cancelRows_follows hgood hrows, fun l hl => by cases l <;> exact hl⟩
        · cases hnext
      | ready | leased | granted | loaded loaded | written rows | finished =>
        simp [next, hrequest] at hnext
  lock := by
    intro i s t l t' hgood hknows hfresh hnext
    cases hrequest : requests i with
    | worker call body =>
      cases t with
      | ready =>
        simp only [next, hrequest] at hnext
        obtain ⟨rfl, rfl⟩ := Action.lock.inj hnext
        exact ⟨trivial, fun l' hl' => by cases l' <;> exact hl'.elim⟩
      | loaded loaded =>
        simp only [next, hrequest] at hnext
        split at hnext
        · rename_i rows hrows
          obtain ⟨rfl, rfl⟩ := Action.lock.inj hnext
          refine ⟨workerRows_follows hrequest hgood hknows.1 hknows.2 hfresh hrows, fun l' hl' => ?_⟩
          cases l' with
          | lease => exact hl'.elim
          | run => exact .inl rfl
        · cases hnext
      | leased =>
        simp only [next, hrequest] at hnext
        split_ifs at hnext
      | granted | locked | written rows | finished => simp [next, hrequest] at hnext
    | cancel now =>
      cases t with
      | ready =>
        simp only [next, hrequest] at hnext
        obtain ⟨rfl, rfl⟩ := Action.lock.inj hnext
        refine ⟨trivial, fun l' hl' => ?_⟩
        cases l' with
        | lease => exact hl'.elim
        | run => exact .inl rfl
      | locked =>
        simp only [next, hrequest] at hnext
        split at hnext <;> cases hnext
      | leased | granted | loaded loaded | written rows | finished =>
        simp [next, hrequest] at hnext
  commit := by
    intro i s t s' t' hgood hknows hfresh hnext
    obtain ⟨rfl, rfl⟩ := next_commit hnext
    refine ⟨hknows.coherent, trivial, fun l hl => by cases l <;> exact hl, fun j u hu hfree => ?_⟩
    cases u with
    | granted => exact hknows.settled hu
    | loaded loaded => exact ⟨hknows.settled hu.1, hu.2.follows hknows⟩
    | written rows => exact absurd trivial (hfree .run trivial)
    | ready | leased | locked | finished => trivial
  stop := by
    intro i s t t' hgood hknows hfresh hnext
    obtain rfl := next_stop hnext
    exact ⟨trivial, fun l hl => by cases l <;> exact hl⟩
  abort := fun i s => ⟨trivial, fun l hl => by cases l <;> exact hl⟩

/-- After every interleaving in which each worker's write of the run is fresh, no committed
cancellation has been overwritten, and the last statement has either left the committed run alone
or made it the next version. -/
theorem committed_cancellation_kept (d : Deployment) (requests : ℕ → Request) (rows : Rows)
    (hrows : Coherent rows) (events : List Event) (e : Event)
    (hfresh : Along (step (next d requests) .finished) (Meets (next d requests) (Fresh d requests))
      (opening rows .ready) (events ++ [e])) :
    let before := exec (step (next d requests) .finished) (opening rows .ready) events
    let last := exec (step (next d requests) .finished) (opening rows .ready) (events ++ [e])
    Coherent last.committed ∧
      (before.committed.run.cancelRequestedAt ≠ none →
        last.committed.run.cancelRequestedAt ≠ none) ∧
      (last.committed.run = before.committed.run ∨
        last.committed.run.version = before.committed.run.version + 1) := by
  have hopening : (protocol d requests).Holds (opening rows .ready) :=
    (protocol d requests).holds_opening hrows (fun _ => trivial)
      (fun l hl => by cases l <;> exact hl)
  obtain ⟨hbefore, -⟩ := (along_append _ _ events [e]).1 hfresh
  have hheld := (protocol d requests).exec_holds events hopening hbefore
  have hlast := (protocol d requests).exec_holds (events ++ [e]) hopening hfresh
  refine ⟨hlast.good, ?_⟩
  rw [exec_append, exec_cons, exec_nil]
  rcases committed_cases (next d requests) .finished
    (exec (step (next d requests) .finished) (opening rows .ready) events) e with
    hsame | ⟨i, t, -, hnext⟩
  · rw [hsame]
    exact ⟨id, .inl rfl⟩
  · have hknows := hheld.knows i
    rw [(next_commit hnext).1] at hknows
    exact ⟨hknows.kept, hknows.version⟩

instance decidableFresh (d : Deployment) (requests : ℕ → Request) (i : ℕ) (s : Rows) (t : Txn) :
    Decidable (Fresh d requests i s t) :=
  inferInstanceAs (Decidable (stale d requests i s t = false))

/-- A running run, under a lease that is good for a minute. -/
def runningRows : Rows where
  runId := 1
  run :=
    { organizationId := 1
      projectId := 1
      agentId := 1
      agentVersionId := 1
      buildId := 1
      status := .running
      inputReference := []
      startedAt := some 1
      finishedAt := none
      cancelRequestedAt := none
      cancelDeadlineAt := none
      failureCode := none
      failureSummary := none
      version := 3 }
  start :=
    { requestedSource 1 1 (.runStart 1) "rdc.run.requested.v1" [] 0 with
      status := .claimed
      attempts := 1 }
  cancel := none
  lease :=
    { workerId := 1
      organizationId := 1
      projectId := 1
      source := .runCommand 1
      sourceTopic := "rdc.run.requested.v1"
      target := .runStart 1
      leaseTokenDigest := "token"
      status := .active
      attempt := 1
      claimedAt := 1
      expiresAt := seconds 60
      deadlineAt := seconds 600
      lastRenewedAt := none
      completedAt := none
      failureCode := none
      failureSummary := none }

/-- The worker reports success; every other request cancels the run. -/
def successAndCancellations : ℕ → Request
  | 0 => .worker
      { credential := { workerId := 1, tokenDigest := "worker", now := 2 }
        leaseId := 1
        leaseTokenDigest := "token"
        now := 2 }
      (.complete { outcome := .succeeded, retryable := false, errorCode := none
                   errorSummary := none, artifacts := [] })
  | _ => .cancel 3

theorem runningRows_coherent : Coherent runningRows where
  stopped := fun h => absurd rfl h
  pending := fun _ h => by cases h
  aborting := fun h => by cases h

def committedAfter (events : List Event) : Rows :=
  (exec (step (next plainDeployment successAndCancellations) .finished)
    (opening runningRows .ready) events).committed

/-- The worker has read the run when the cancellation takes the lock and commits. -/
def cancelledMeanwhile : List Event :=
  [.advance 0, .advance 0, .advance 0, .advance 1, .advance 1, .advance 1]

/-- The completion then overwrites the committed cancellation, under the version it had. -/
theorem cancellation_overwritten :
    (committedAfter cancelledMeanwhile).run.status = .aborting ∧
    (committedAfter cancelledMeanwhile).run.version = 4 ∧
    (committedAfter (cancelledMeanwhile ++ [.advance 0, .advance 0])).run.cancelRequestedAt =
      some 3 ∧
    (committedAfter (cancelledMeanwhile ++ [.advance 0, .advance 0])).run.status = .succeeded ∧
    (committedAfter (cancelledMeanwhile ++ [.advance 0, .advance 0])).run.version = 4 ∧
    (committedAfter (cancelledMeanwhile ++ [.advance 0, .advance 0])).cancel.map (·.status) =
      some .pending := by
  decide +kernel

/-- The worker commits before the cancellation takes the lock, which then finds the run ended. -/
theorem success_before_cancellation :
    Coherent (committedAfter ([.advance 0, .advance 0, .advance 0, .advance 0, .advance 0,
      .advance 1, .advance 1] ++ [.advance 1])) :=
  (committed_cancellation_kept plainDeployment successAndCancellations runningRows
    runningRows_coherent [.advance 0, .advance 0, .advance 0, .advance 0, .advance 0, .advance 1,
      .advance 1] (.advance 1) (by decide +kernel)).1

end RoozDataCloud.RunInterleavings
