import RoozDataCloud.ExecutionModels

set_option autoImplicit false

/-!
# Server-owned deadlines, lease clamps and retries
-/
namespace RoozDataCloud.ExecutionRecovery
open ExecutionModels FallibleSteps

def executionDeadlineAt (claimedAt : Time) (timeoutSeconds : ℕ) : Except Failure Time := do
  require (1 ≤ timeoutSeconds) (.value "Execution timeout must be positive.")
  pure (claimedAt + seconds timeoutSeconds)

def clampLeaseExpiry (proposed claimedAt : Time) (maxLifetimeSeconds : ℕ) (deadlineAt : Time) :
    Except Failure Time := do
  require (1 ≤ maxLifetimeSeconds) (.value "Lease maximum lifetime must be positive.")
  require (claimedAt < deadlineAt) (.value "Execution deadline must follow lease claim time.")
  pure (min (min proposed (claimedAt + seconds maxLifetimeSeconds)) deadlineAt)

def retryDelaySeconds (attempt baseSeconds maxSeconds : ℕ) : Except Failure ℕ := do
  require (1 ≤ attempt) (.value "Execution attempts start at one.")
  require (1 ≤ baseSeconds ∧ baseSeconds ≤ maxSeconds)
    (.value "Execution retry bounds are invalid.")
  pure (min maxSeconds (baseSeconds <<< (attempt - 1)))

def retryAvailableAt (now : Time) (attempt baseSeconds maxSeconds : ℕ) : Except Failure Time := do
  let delay ← retryDelaySeconds attempt baseSeconds maxSeconds
  pure (now + seconds delay)

def executionRetryAllowed (requested : Bool) (outcome : Outcome) (attempt maxAttempts : ℕ)
    (sourceAvailable : Bool) : Bool :=
  requested && sourceAvailable && (outcome = .failed || outcome = .timedOut) &&
    decide (1 ≤ attempt ∧ attempt < maxAttempts)

theorem clampLeaseExpiry_ok {proposed claimedAt deadlineAt expiry : Time} {lifetime : ℕ}
    (h : clampLeaseExpiry proposed claimedAt lifetime deadlineAt = .ok expiry) :
    claimedAt < deadlineAt ∧
      expiry = min (min proposed (claimedAt + seconds lifetime)) deadlineAt := by
  simp only [clampLeaseExpiry, bind_ok, require_ok, pure_ok] at h
  obtain ⟨-, -, -, hd, he⟩ := h
  exact ⟨hd, he.symm⟩

theorem executionRetryAllowed_iff {requested : Bool} {outcome : Outcome}
    {attempt maxAttempts : ℕ} {sourceAvailable : Bool} :
    executionRetryAllowed requested outcome attempt maxAttempts sourceAvailable = true ↔
      requested = true ∧ sourceAvailable = true ∧ (outcome = .failed ∨ outcome = .timedOut) ∧
        1 ≤ attempt ∧ attempt < maxAttempts := by
  simp only [executionRetryAllowed, Bool.and_eq_true, Bool.or_eq_true, decide_eq_true_eq,
    and_assoc]

/-- When the wait before the next attempt is asked for, no bound can refuse it. -/
def nextAttemptAt (d : Deployment) (retry : Bool) (now : Time) (attempt : ℕ) :
    Except Failure (Option Time) :=
  if retry then do
    let available ← retryAvailableAt now attempt d.settings.workerRetryBaseSeconds
      d.settings.workerRetryMaxSeconds
    pure (some available)
  else pure none

theorem nextAttemptAt_total (d : Deployment) (retry : Bool) (now : Time) (attempt : ℕ)
    (h : retry = true → 1 ≤ attempt) : ∃ next, nextAttemptAt d retry now attempt = .ok next := by
  cases retry with
  | false => exact ⟨none, rfl⟩
  | true =>
    have hb := d.settings.retry_bounds
    have ha : 1 ≤ attempt := h rfl
    simp only [nextAttemptAt, retryAvailableAt, retryDelaySeconds, bind_ok, require_ok, pure_ok,
      ↓reduceIte]
    exact ⟨_, _, ⟨_, ⟨(), ha, (), hb, rfl⟩, rfl⟩, rfl⟩

end RoozDataCloud.ExecutionRecovery
