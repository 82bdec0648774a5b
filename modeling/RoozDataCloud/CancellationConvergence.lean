import RoozDataCloud.ExecutionRecovery

set_option autoImplicit false

/-!
# Fencing and converging a cancelled run
-/
namespace RoozDataCloud.CancellationConvergence
open KeyedTable ExecutionModels FallibleSteps

/-- An `ACTIVE` lease of the run, other than the preserved one. -/
def fences (runId : Uuid) (preserved : Option Uuid) (id : Uuid) (lease : ExecutionLease) : Bool :=
  lease.target.runId? = some runId && lease.status = .active && preserved ≠ some id

def cancelledLease (now : Time) (lease : ExecutionLease) : ExecutionLease :=
  { lease with
    status := .cancelled
    completedAt := some now
    failureCode := some "RUN_CANCELLED"
    failureSummary := some "The Run cancellation was converged." }

def convergedSource (source : OutboxSource) : OutboxSource :=
  { source with
    status := .cancelled
    lastErrorCode := some "RUN_CANCELLATION_CONVERGED" }

def fenceLease (runId : Uuid) (now : Time) (preserved : Option Uuid) (id : Uuid)
    (lease : ExecutionLease) : ExecutionLease :=
  if fences runId preserved id lease then cancelledLease now lease else lease

def fenceSource (runId : Uuid) (preserved : Option SourceRef) (ref : SourceRef)
    (source : OutboxSource) : OutboxSource :=
  if source.target.runId? = some runId ∧ (source.status = .pending ∨ source.status = .claimed) ∧
      preserved ≠ some ref then
    convergedSource source
  else source

def fenceCancelledRunLeases (st : State) (runId : Uuid) (now : Time)
    (preserveLease : Option Uuid) (preserveSource : Option SourceRef) : State :=
  { st with
    leases := st.leases.mapRows (fenceLease runId now preserveLease)
    grants := st.grants.mapRows (fun _ grant =>
      if grant.status = .issued ∧
          (st.leases.get? grant.leaseId).any (fences runId preserveLease grant.leaseId) then
        { grant with status := .revoked }
      else grant)
    outbox := st.outbox.mapRows (fenceSource runId preserveSource) }

def convergedRun (now : Time) (run : Run) : Run :=
  { run with
    status := .aborted
    finishedAt := run.finishedAt.or (some now)
    failureCode := none
    failureSummary := none
    version := run.version + 1 }

/-- The fence comes first, whatever the run's own row then decides. -/
def convergeCancelledRun (st : State) (runId : Uuid) (now : Time) : State × Bool :=
  let st := fenceCancelledRunLeases st runId now none none
  match st.runs.get? runId with
  | none => (st, false)
  | some run =>
    if run.cancelRequestedAt = none then (st, false)
    else if run.status = .aborted then (st, true)
    else if run.status ≠ .aborting then (st, false)
    else (st.setRun runId (convergedRun now), true)

/-- Convergence succeeds on a cancelled run that is aborting or already aborted, and fences in
every case. -/
theorem convergeCancelledRun_cases (st : State) (runId : Uuid) (now : Time) :
    let base := fenceCancelledRunLeases st runId now none none
    (convergeCancelledRun st runId now = (base, false) ∧
      ∀ run, st.runs.get? runId = some run → run.cancelRequestedAt ≠ none →
        run.status ≠ .aborted ∧ run.status ≠ .aborting) ∨
    (convergeCancelledRun st runId now = (base, true) ∧
      ∃ run, st.runs.get? runId = some run ∧ run.cancelRequestedAt ≠ none ∧
        run.status = .aborted) ∨
    (convergeCancelledRun st runId now = (base.setRun runId (convergedRun now), true) ∧
      ∃ run, st.runs.get? runId = some run ∧ run.cancelRequestedAt ≠ none ∧
        run.status = .aborting) := by
  have hruns : (fenceCancelledRunLeases st runId now none none).runs = st.runs := rfl
  simp only [convergeCancelledRun, hruns]
  cases hrun : st.runs.get? runId with
  | none => exact .inl ⟨rfl, fun run h => by cases h⟩
  | some run =>
    by_cases hcancel : run.cancelRequestedAt = none
    · refine .inl ⟨by simp [hcancel], fun run' h hne => ?_⟩
      obtain rfl := Option.some.inj h
      exact absurd hcancel hne
    · by_cases haborted : run.status = .aborted
      · exact .inr (.inl ⟨by simp [hcancel, haborted], run, rfl, hcancel, haborted⟩)
      · by_cases haborting : run.status = .aborting
        · exact .inr (.inr ⟨by simp [hcancel, haborting], run, rfl, hcancel, haborting⟩)
        · refine .inl ⟨by simp [hcancel, haborted, haborting], fun run' h _ => ?_⟩
          obtain rfl := Option.some.inj h
          exact ⟨haborted, haborting⟩

def overdue (now : Time) (run : Run) : Bool :=
  run.status = .aborting && run.cancelRequestedAt.isSome && run.cancelDeadlineAt.any (· ≤ now)

def overdueOrder (a b : Uuid × Run) : Bool :=
  decide (a.2.cancelDeadlineAt.getD 0 < b.2.cancelDeadlineAt.getD 0) ||
    (decide (a.2.cancelDeadlineAt.getD 0 = b.2.cancelDeadlineAt.getD 0) && decide (a.1 ≤ b.1))

def overdueRuns (st : State) (now : Time) (batchSize : ℕ) : List Uuid :=
  (((st.runs.select (fun _ run => overdue now run)).insertionSort
    (fun a b => overdueOrder a b)).take batchSize).map Prod.fst

def reapOverdueCancellations (st : State) (now : Time) (batchSize : ℕ) :
    Except Failure (State × ℕ) := do
  require (1 ≤ batchSize ∧ batchSize ≤ 500)
    (.value "Cancellation recovery batch size must be between 1 and 500.")
  pure ((overdueRuns st now batchSize).foldl (fun acc runId =>
    let (st, converged) := convergeCancelledRun acc.1 runId now
    (st, if converged then acc.2 + 1 else acc.2)) (st, 0))

/-- A relation that every convergence extends covers the whole pass. -/
theorem reapOverdueCancellations_rule {P : State → Prop} {st st' : State} {now : Time}
    {batchSize n : ℕ} (h : reapOverdueCancellations st now batchSize = .ok (st', n)) (hst : P st)
    (hstep : ∀ mid r, P mid → P (convergeCancelledRun mid r now).1) : P st' := by
  simp only [reapOverdueCancellations, bind_ok, require_ok, pure_ok] at h
  obtain ⟨-, -, hfold⟩ := h
  have hall : ∀ (ids : List Uuid) (acc : State × ℕ), P acc.1 →
      P (ids.foldl (fun acc runId =>
        ((convergeCancelledRun acc.1 runId now).1,
          if (convergeCancelledRun acc.1 runId now).2 then acc.2 + 1 else acc.2)) acc).1 := by
    intro ids
    induction ids with
    | nil => exact fun acc hacc => hacc
    | cons r ids ih => exact fun acc hacc => ih _ (hstep acc.1 r hacc)
  have hlast := hall (overdueRuns st now batchSize) (st, 0) hst
  rw [hfold] at hlast
  exact hlast

end RoozDataCloud.CancellationConvergence
