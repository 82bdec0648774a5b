import RoozDataCloud.RunLifecycleSteps

set_option autoImplicit false

/-!
# Ended and cancelled runs

An ended run keeps its status and a cancelled run never starts again, in every
run of the system in which no pass of the reaper comes upon an expired start
lease of a run that its failed cancellation has ended, with an attempt left or
past its deadline.
-/
namespace RoozDataCloud.RunOutcomes
open KeyedTable ExecutionModels FallibleSteps WorkClaims LeaseRequests RunRequests
open ExecutionSystem ExecutionSteps RunLifecycle RunLifecycleSteps

theorem terminal_runs_absorbing (d : Deployment) (directory : Directory) (before ops : List Op)
    (hclean : Along (step d) (Clean d) (initial directory) (before ++ ops)) (r : Uuid) (run : Run)
    (hrun : (after d (initial directory) before).runs.get? r = some run)
    (hend : run.status ∈ runTerminalStatuses) :
    ∃ run', (after d (initial directory) (before ++ ops)).runs.get? r = some run' ∧
      run'.status = run.status := by
  obtain ⟨hbefore, hops⟩ := (along_append (step d) _ before ops).1 hclean
  obtain ⟨ha, hfirst⟩ := after_proceeds (initial_accounted d directory)
    (initial_lifecycle directory) before hbefore
  obtain ⟨-, hrest⟩ := after_proceeds ha hfirst.lifecycle ops hops
  obtain ⟨run', hrun', hkeep, -⟩ := hrest.evolves.run r run hrun
  refine ⟨run', ?_, hkeep hend⟩
  rw [after, exec_append]
  exact hrun'

def single {ρ : Type} (row : ρ) : Table Uuid ρ := ⟨[(1, row)], List.nodup_singleton _⟩

/-- One project, one worker and one agent version with its source archive. -/
def sampleDirectory : Directory where
  projects := single { status := .active, deletedAt := none, maxActiveLeases := 4 }
  workers := single
    { tokenDigest := "worker"
      capabilities := [.work .build, .work .runStart, .work .runCancel]
      maxConcurrency := 4
      status := .active
      lastSeenAt := none
      lastLostAt := none
      lastRecoveredAt := none
      expiresAt := none
      revokedAt := none }
  agents := single { organizationId := 1, projectId := 1, deletedAt := none }
  agentVersions := single
    { organizationId := 1
      projectId := 1
      agentId := 1
      manifestDigest := "manifest"
      manifest := []
      sourceObjectId := some 1 }
  storageObjects := single
    { organizationId := 1
      projectId := 1
      agentId := 1
      status := .available
      scanStatus := .passed
      deletedAt := none }
  egressPolicies := .empty
  egressRevisions := .empty
  projectSecrets := .empty

def workerAt (now : Time) : WorkerCredential :=
  { workerId := 1, tokenDigest := "worker", now := now }

def holderAt (leaseId : Uuid) (token : String) (now : Time) : LeaseCall :=
  { credential := workerAt now, leaseId := leaseId, leaseTokenDigest := token, now := now }

def containerImage : ArtifactRegistration where
  kind := .containerImage
  digestAlgorithm := "sha256"
  digest := "image"
  objectKey := "object"
  mediaType := "application/vnd.oci.image.manifest.v1+json"
  sizeBytes := 1
  status := .available
  scanStatus := .passed
  provenance := []

/-- A run is started under lease 2 and cancelled; the cancel command is leased as lease 3 and
its worker reports, without a retry, that the cancellation failed. -/
def failedCancellation : List Op :=
  [ .createBuild { userId := 1, idempotencyKey := "build-01", now := 0 } 1 1 1,
    .claimWork (workerAt 1) [.build] 1 "token-1" 1,
    .completeLease (holderAt 1 "token-1" 2)
      { outcome := .succeeded, retryable := false, errorCode := none, errorSummary := none
        artifacts := [(1, containerImage)] },
    .createRun { userId := 1, idempotencyKey := "run-0001", now := 3 } 1 1
      (.ok { runtime := [("timeout_seconds", .int 600)], inputReference := [], intent := .null
             receiptOnly := false }) 1 1,
    .claimWork (workerAt 4) [.runStart] 2 "token-2" 4,
    .cancelRun { userId := 1, idempotencyKey := "cancel-1", now := 5 } 1 2,
    .claimWork (workerAt 6) [.runCancel] 3 "token-3" 6,
    .completeLease (holderAt 3 "token-3" 7)
      { outcome := .failed, retryable := false, errorCode := none, errorSummary := none
        artifacts := [] } ]

set_option maxRecDepth 4000 in
/-- The start lease then expires, and the failed run is queued again. -/
theorem failed_run_queued_again :
    ((after plainDeployment (initial sampleDirectory) failedCancellation).runs.get? 1).map
      (·.status) = some .failed ∧
    RunStatus.failed ∈ runTerminalStatuses ∧
    ((after plainDeployment (initial sampleDirectory)
      (failedCancellation ++ [.reapExpiredLeases (seconds 61) 100 true])).runs.get? 1).map
      (·.status) = some .queued := by
  decide +kernel

set_option maxRecDepth 4000 in
/-- Reaped before the start lease expires, the failed run stays failed. -/
theorem failed_run_kept :
    ((after plainDeployment (initial sampleDirectory)
      (failedCancellation ++ [.reapExpiredLeases 8 100 true])).runs.get? 1).map (·.status) =
        some .failed := by
  obtain ⟨run, hrun, hstatus⟩ : ∃ run,
      (after plainDeployment (initial sampleDirectory) failedCancellation).runs.get? 1 = some run ∧
        run.status = .failed :=
    Option.map_eq_some_iff.1 (by decide +kernel)
  obtain ⟨run', hrun', hkeep⟩ := terminal_runs_absorbing plainDeployment sampleDirectory
    failedCancellation [.reapExpiredLeases 8 100 true] (by decide +kernel) 1 run hrun
    (by rw [hstatus]; decide)
  rw [hrun', Option.map_some, hkeep, hstatus]

/-- Once a cancellation is recorded, the run does not start, succeed or time out, its start is not
offered again, and it gets no start lease it did not have. -/
theorem cancellation_wins (d : Deployment) (directory : Directory) (before ops : List Op)
    (hclean : Along (step d) (Clean d) (initial directory) (before ++ ops)) (r : Uuid) (run : Run)
    (hrun : (after d (initial directory) before).runs.get? r = some run)
    (hset : run.cancelRequestedAt ≠ none) :
    ∃ run', (after d (initial directory) (before ++ ops)).runs.get? r = some run' ∧
      run'.cancelRequestedAt ≠ none ∧
      run'.status ∉ [RunStatus.queued, .starting, .running, .succeeded, .timedOut] ∧
      (∀ s source, (after d (initial directory) (before ++ ops)).outbox.get? s = some source →
        source.target = .runStart r → source.status ≠ .pending) ∧
      ∀ l lease, (after d (initial directory) (before ++ ops)).leases.get? l = some lease →
        lease.target = .runStart r →
        ∃ row, (after d (initial directory) before).leases.get? l = some row ∧
          row.target = .runStart r := by
  obtain ⟨hbefore, hops⟩ := (along_append (step d) _ before ops).1 hclean
  obtain ⟨ha, hfirst⟩ := after_proceeds (initial_accounted d directory)
    (initial_lifecycle directory) before hbefore
  obtain ⟨-, hrest⟩ := after_proceeds ha hfirst.lifecycle ops hops
  obtain ⟨run', hrun', -, hcancel⟩ := hrest.evolves.run r run hrun
  have hset' := hcancel hset
  rw [after, exec_append]
  refine ⟨run', hrun', hset', ?_, fun s source hsource htarget hpending => ?_,
    fun l lease hlease htarget => hrest.evolves.start l lease r run hlease htarget hrun hset⟩
  · rcases (hrest.lifecycle.settling r run' hrun').1 hset' with h | h | h <;> rw [h] <;> decide
  · have hadmits := hrest.lifecycle.admits s source r run' hsource (by rw [htarget]; rfl) hrun'
    rw [htarget, hpending] at hadmits
    exact hset' hadmits.1

set_option maxRecDepth 4000 in
/-- Its start lease expired, the cancelled run is started once more under lease 4. -/
theorem cancelled_run_started_again :
    ((after plainDeployment (initial sampleDirectory) failedCancellation).runs.get? 1).map
      (fun run => run.cancelRequestedAt.isSome) = some true ∧
    ((after plainDeployment (initial sampleDirectory)
      (failedCancellation ++ [.reapExpiredLeases (seconds 61) 100 true])).outbox.get?
        (.runCommand 1)).map (fun source => (source.target, source.status)) =
      some (.runStart 1, .pending) ∧
    ((after plainDeployment (initial sampleDirectory)
      (failedCancellation ++ [.reapExpiredLeases (seconds 61) 100 true,
        .claimWork (workerAt (seconds 90)) [.runStart] 4 "token-4" (seconds 90)])).runs.get? 1).map
      (fun run => (run.cancelRequestedAt.isSome, run.status)) = some (true, .starting) ∧
    ((after plainDeployment (initial sampleDirectory)
      (failedCancellation ++ [.reapExpiredLeases (seconds 61) 100 true,
        .claimWork (workerAt (seconds 90)) [.runStart] 4 "token-4" (seconds 90)])).leases.get? 4).map
      (·.target) = some (.runStart 1) := by
  decide +kernel

set_option maxRecDepth 4000 in
/-- Before the start lease expires, the cancelled run stays as its cancellation left it. -/
theorem cancelled_run_kept :
    ((after plainDeployment (initial sampleDirectory)
      (failedCancellation ++ [.reapExpiredLeases 8 100 true])).runs.get? 1).any (fun run =>
        run.cancelRequestedAt.isSome &&
          run.status ∉ [RunStatus.queued, .starting, .running, .succeeded, .timedOut]) = true := by
  obtain ⟨run, hrun, hset⟩ : ∃ run,
      (after plainDeployment (initial sampleDirectory) failedCancellation).runs.get? 1 = some run ∧
        run.cancelRequestedAt.isSome = true :=
    Option.map_eq_some_iff.1 (by decide +kernel)
  obtain ⟨run', hrun', hset', hstatus, -⟩ := cancellation_wins plainDeployment sampleDirectory
    failedCancellation [.reapExpiredLeases 8 100 true] (by decide +kernel) 1 run hrun
    (Option.isSome_iff_ne_none.1 hset)
  rw [hrun', Option.any_some, Bool.and_eq_true, decide_eq_true_eq]
  exact ⟨Option.isSome_iff_ne_none.2 hset', hstatus⟩

end RoozDataCloud.RunOutcomes
