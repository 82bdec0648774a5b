import RoozDataCloud.LockWaits
import RoozDataCloud.WebhookLifecycle

set_option autoImplicit false

/-!
# The locks of the webhook functions

The locks that claims, completions, replays and rotations ask for, in the order of
their statements. One that returns early finishes there, and the UPDATE of a row that
was locked for update asks for nothing more.
-/
namespace RoozDataCloud.WebhookLocks
open ExecutionModels WebhookModels WebhookLifecycle LockWaits FallibleSteps

inductive HookLock where
  | delivery (id : Uuid)
  | destination (id : Uuid)
  | secret (id : Uuid)
  deriving DecidableEq

abbrev HookRequest := Request HookLock RowMode

/-- The rows that the two selects of a claim return, and for which of the expired ones the
destination takes deliveries when its failure is counted. -/
structure ClaimSweep where
  now : Time
  expired : List (Uuid × WebhookDeliveryAttempt)
  counted : Uuid → Bool
  ready : List (Uuid × WebhookDeliveryAttempt)
  due : ∀ candidate ∈ expired, claimExpired now candidate.2 = true
  sorted : expired.Pairwise (fun a b => expiryOrder a b = true)

/-- The destinations that the loop over the expired claims updates, in its order. -/
def ClaimSweep.destinations (sweep : ClaimSweep) : List Uuid :=
  (sweep.expired.filter (fun candidate =>
    (WebhookLifecycle.expired sweep.now candidate.2).status = .deadLettered &&
      sweep.counted candidate.1)).map (fun candidate => candidate.2.destinationId)

def lockRows (rows : List (Uuid × WebhookDeliveryAttempt)) : List HookRequest :=
  rows.map (fun candidate => skipLocked (.delivery candidate.1))

def claimWebhookDeliveryCanary (sweep : ClaimSweep) : List HookRequest :=
  lockRows sweep.expired ++ ((sweep.destinations.map HookLock.destination).map rowUpdate ++
    lockRows sweep.ready)

def completeWebhookDeliveryCanary (deliveryId destinationId secretId : Uuid) : List HookRequest :=
  [forUpdate (.delivery deliveryId), forUpdate (.destination destinationId),
    forUpdate (.secret secretId)]

def replayWebhookDelivery (deliveryId destinationId : Uuid) : List HookRequest :=
  [forUpdate (.delivery deliveryId), forUpdate (.destination destinationId)]

def rotateWebhookSigningSecret (destinationId secretId : Uuid) : List HookRequest :=
  [forUpdate (.destination destinationId), forUpdate (.secret secretId)]

inductive HookJob where
  | claim (sweep : ClaimSweep)
  | complete (deliveryId destinationId secretId : Uuid)
  | replay (deliveryId destinationId : Uuid)
  | rotate (destinationId secretId : Uuid)

def HookJob.locks : HookJob → List HookRequest
  | .claim sweep => WebhookLocks.claimWebhookDeliveryCanary sweep
  | .complete deliveryId destinationId secretId =>
    WebhookLocks.completeWebhookDeliveryCanary deliveryId destinationId secretId
  | .replay deliveryId destinationId => WebhookLocks.replayWebhookDelivery deliveryId destinationId
  | .rotate destinationId secretId =>
    WebhookLocks.rotateWebhookSigningSecret destinationId secretId

abbrev HookBoard := Board ℕ HookJob HookLock RowMode

def hookStep : HookBoard → Move ℕ HookJob → HookBoard := step rowModes HookJob.locks

def newHooks : HookBoard := idle ℕ HookJob HookLock RowMode

/-- A claim updates its destinations in the order of their places. -/
def InPlace (place : Uuid → ℕ) : HookJob → Prop
  | .claim sweep => sweep.destinations.Pairwise (fun a b => a = b ∨ place a < place b)
  | _ => True

/-- The claims in flight and the one that is to start share an order of the destinations. -/
def SharedOrder (board : HookBoard) : Move ℕ HookJob → Prop
  | .start _ job => ∃ place : Uuid → ℕ, InPlace place job ∧
      ∀ u k, board.job u = some k → InPlace place k
  | _ => True

section Orders
variable (place : Uuid → ℕ)

def level : HookLock → ℕ
  | .delivery _ => 0
  | .destination _ => 1
  | .secret _ => 2

def placeOf : HookLock → ℕ
  | .destination id => place id
  | _ => 0

/-- Deliveries before destinations before secrets, and destinations by their places. -/
def Before (a b : HookLock) : Prop :=
  level a < level b ∨ level a = level b ∧ placeOf place a < placeOf place b

instance : IsStrictOrder HookLock (Before place) where
  irrefl a h := by unfold Before at h; omega
  trans a b c hab hbc := by unfold Before at *; omega

variable {place}

theorem lockRows_free {rows : List (Uuid × WebhookDeliveryAttempt)} {r : HookRequest}
    (h : r ∈ lockRows rows) : ∃ id, r = skipLocked (.delivery id) := by
  obtain ⟨candidate, -, rfl⟩ := List.mem_map.1 h
  exact ⟨candidate.1, rfl⟩

theorem claim_ascends {sweep : ClaimSweep} (h : InPlace place (.claim sweep)) :
    Ascends rowModes (Before place) [] (claimWebhookDeliveryCanary sweep) := by
  rw [claimWebhookDeliveryCanary, ascends_append, ascends_append]
  have hfree : ∀ rows, ∀ r ∈ lockRows rows, r.waits = false := by
    intro rows r hr
    obtain ⟨id, rfl⟩ := lockRows_free hr
    rfl
  have hkeys : (sweep.destinations.map HookLock.destination).Pairwise
      (fun a b => a = b ∨ Before place a b) := by
    rw [List.pairwise_map]
    refine h.imp (fun {a b} hab => ?_)
    rcases hab with rfl | hlt
    · exact .inl rfl
    · exact .inr (.inr ⟨rfl, hlt⟩)
  refine ⟨ascends_free (hfree sweep.expired), ?_, ascends_free (hfree sweep.ready)⟩
  refine ascends_map RowMode.noKeyUpdate true hkeys (fun k hk d hd => .inl (.inl ?_))
  obtain ⟨id, -, rfl⟩ := List.mem_map.1 hk
  rw [List.append_nil, List.mem_reverse] at hd
  obtain ⟨row, rfl⟩ := lockRows_free hd
  exact Nat.zero_lt_one

theorem job_ascends {job : HookJob} (h : InPlace place job) :
    Ascends rowModes (Before place) [] job.locks := by
  cases job with
  | claim sweep => exact claim_ascends h
  | complete deliveryId destinationId secretId =>
    simp [HookJob.locks, completeWebhookDeliveryCanary, Ascends, Above, Before, level, forUpdate]
  | replay deliveryId destinationId =>
    simp [HookJob.locks, replayWebhookDelivery, Ascends, Above, Before, level, forUpdate]
  | rotate destinationId secretId =>
    simp [HookJob.locks, rotateWebhookSigningSecret, Ascends, Above, Before, level, forUpdate]

theorem sharedOrder_admits {board : HookBoard} {move : Move ℕ HookJob}
    (h : SharedOrder board move) : Admits rowModes HookJob.locks board move := by
  cases move with
  | start t job =>
    obtain ⟨place, hjob, hflight⟩ := h
    exact ⟨Before place, inferInstance, job_ascends hjob,
      fun u k hk => job_ascends (hflight u k hk)⟩
  | take t => trivial
  | finish t => trivial

end Orders

/-- In every run whose transactions start only while the claims in flight share an order of the
destinations with them, no state has a circle of waiting transactions. -/
theorem webhooks_deadlock_free (moves : List (Move ℕ HookJob))
    (hc : Along hookStep SharedOrder newHooks moves) :
    ¬ Deadlocked rowModes (exec hookStep newHooks moves) := by
  refine ordered_run moves ((along_iff hookStep newHooks moves).2 (fun before move after hmoves => ?_))
  exact sharedOrder_admits ((along_iff hookStep newHooks moves).1 hc before move after hmoves)

/-- A delivery at its last attempt whose claim has run out. -/
def lapsedDelivery (destinationId expiry : ℕ) : WebhookDeliveryAttempt where
  organizationId := 1
  projectId := 2
  destinationId := destinationId
  eventId := 3
  endpointUrl := "https://example.test/hook"
  signingSecretId := 4
  signingSecretVersion := 1
  status := .claimed
  attemptCount := 5
  maxAttempts := 5
  availableAt := 0
  claimTokenDigest := some "digest"
  claimedBy := some "worker"
  claimExpiresAt := some expiry
  lastErrorCode := none
  lastHttpStatus := none
  completedAt := none
  replayCount := 0
  lastReplayedAt := none
  lastReplayKeyDigest := none
  replayRequestedByUserId := none
  createdAt := 0
  version := 6

/-- A sweep at time 100 of two such deliveries, the first of which expired before the other. -/
def pairSweep (first second firstDestination secondDestination expiry : ℕ)
    (hexpiry : expiry + 1 ≤ 100) : ClaimSweep where
  now := 100
  expired := [(first, lapsedDelivery firstDestination expiry),
    (second, lapsedDelivery secondDestination (expiry + 1))]
  counted := fun _ => true
  ready := []
  due := by
    have hbefore : expiry ≤ 100 := by omega
    simp [claimExpired, lapsedDelivery, hexpiry, hbefore]
  sorted := by simp [expiryOrder, lapsedDelivery]

/-- Two sweeps over the same two destinations in one order, beside a completion. -/
def aligned : List (Move ℕ HookJob) :=
  [.start 0 (.claim (pairSweep 11 12 1 2 10 (by decide))),
    .start 1 (.claim (pairSweep 13 14 1 2 20 (by decide))), .start 2 (.complete 15 2 4),
    .take 0, .take 0, .take 0, .take 1, .take 1]

theorem aligned_inPlace {t : ℕ} {job : HookJob} (h : .start t job ∈ aligned) :
    InPlace (fun id => id) job := by
  simp only [aligned, List.mem_cons, Move.start.injEq, reduceCtorEq, List.not_mem_nil,
    or_false] at h
  rcases h with ⟨-, rfl⟩ | ⟨-, rfl⟩ | ⟨-, rfl⟩
  · exact (by decide : [1, 2].Pairwise (fun a b => a = b ∨ a < b))
  · exact (by decide : [1, 2].Pairwise (fun a b => a = b ∨ a < b))
  · trivial

theorem aligned_deadlock_free : WaitsFor rowModes (exec hookStep newHooks aligned) 1 0 ∧
    ¬ Deadlocked rowModes (exec hookStep newHooks aligned) := by
  refine ⟨?_, webhooks_deadlock_free aligned (along_jobs (P := InPlace (fun id => id))
    (fun _ _ _ hjob hflight => ⟨_, hjob, hflight⟩) (fun _ _ => trivial) (fun _ _ => trivial)
    (fun _ _ hjob => aligned_inPlace hjob) (fun _ _ hk => by cases hk))⟩
  exact ⟨rowUpdate (.destination 1), rfl, rfl, ⟨0, .destination 1, .noKeyUpdate⟩, by decide, rfl,
    by decide, rfl, rfl⟩

/-- Two sweeps that find the two destinations in opposite orders of expiry. -/
def opposed : List (Move ℕ HookJob) :=
  [.start 0 (.claim (pairSweep 11 12 1 2 10 (by decide))),
    .start 1 (.claim (pairSweep 13 14 2 1 20 (by decide))),
    .take 0, .take 0, .take 0, .take 1, .take 1, .take 1]

theorem opposed_claims_deadlock : Deadlocked rowModes (exec hookStep newHooks opposed) := by
  have hfirst : WaitsFor rowModes (exec hookStep newHooks opposed) 0 1 :=
    ⟨rowUpdate (.destination 2), rfl, rfl, ⟨1, .destination 2, .noKeyUpdate⟩, by decide, rfl,
      by decide, rfl, rfl⟩
  have hsecond : WaitsFor rowModes (exec hookStep newHooks opposed) 1 0 :=
    ⟨rowUpdate (.destination 1), rfl, rfl, ⟨0, .destination 1, .noKeyUpdate⟩, by decide, rfl,
      by decide, rfl, rfl⟩
  exact ⟨0, .tail (.single hfirst) hsecond⟩

end RoozDataCloud.WebhookLocks
