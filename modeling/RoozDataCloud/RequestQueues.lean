import RoozDataCloud.ExecutionModels
import RoozDataCloud.ReadCommitted

set_option autoImplicit false

/-!
# A request queue

The rows of one queue, and the requests that change them. The queue row counts
its requests by status. Where a function is given a `RequestQueue` besides the
rows, it is the object of the session, which the counters are computed from.
-/
namespace RoozDataCloud.RequestQueues
open KeyedTable ExecutionModels FallibleSteps ReadCommitted

inductive QueueStatus where
  | pending | claimed | handled | failed
  deriving DecidableEq

def QueueStatus.all : List QueueStatus := [pending, claimed, handled, failed]

structure RequestQueue where
  pendingCount : ℤ
  claimedCount : ℤ
  handledCount : ℤ
  failedCount : ℤ
  deriving DecidableEq

namespace RequestQueue

def count (queue : RequestQueue) : QueueStatus → ℤ
  | .pending => queue.pendingCount
  | .claimed => queue.claimedCount
  | .handled => queue.handledCount
  | .failed => queue.failedCount

def add (queue : RequestQueue) (n : ℤ) : QueueStatus → RequestQueue
  | .pending => { queue with pendingCount := queue.pendingCount + n }
  | .claimed => { queue with claimedCount := queue.claimedCount + n }
  | .handled => { queue with handledCount := queue.handledCount + n }
  | .failed => { queue with failedCount := queue.failedCount + n }

/-- A request has changed its status. -/
def moved (queue : RequestQueue) (source target : QueueStatus) : RequestQueue :=
  (queue.add (-1) source).add 1 target

theorem count_add (queue : RequestQueue) (n : ℤ) (status status' : QueueStatus) :
    (queue.add n status).count status' = queue.count status' + if status = status' then n else 0 := by
  cases status <;> cases status' <;> simp [add, count]

theorem count_moved (queue : RequestQueue) (source target status : QueueStatus) :
    (queue.moved source target).count status = queue.count status -
      (if source = status then 1 else 0) + (if target = status then 1 else 0) := by
  rw [moved, count_add, count_add]
  split_ifs <;> omega

end RequestQueue

structure RequestQueueRequest where
  requestUrl : String
  uniqueKey : Option String
  identityDigest : String
  userData : Value
  status : QueueStatus
  attemptCount : ℕ
  maxAttempts : ℕ
  availableAt : Time
  claimedBy : Option Uuid
  claimToken : Option Uuid
  claimExpiresAt : Option Time
  handledAt : Option Time
  failureCode : Option String
  failureSummary : Option String
  createdAt : Time

structure RequestQueueEnqueueReceipt where
  requestId : Uuid
  idempotencyKey : String
  requestDigest : String
  identityDigest : String

structure RequestQueueTransition where
  requestId : Uuid
  fromStatus : Option QueueStatus
  toStatus : QueueStatus
  reason : String
  attemptCount : ℕ

structure Rows where
  queue : RequestQueue
  requests : Table Uuid RequestQueueRequest
  receipts : Table Uuid RequestQueueEnqueueReceipt
  transitions : List RequestQueueTransition

def flushQueue (loaded changed stored : RequestQueue) : RequestQueue where
  pendingCount := flushColumn loaded.pendingCount changed.pendingCount stored.pendingCount
  claimedCount := flushColumn loaded.claimedCount changed.claimedCount stored.claimedCount
  handledCount := flushColumn loaded.handledCount changed.handledCount stored.handledCount
  failedCount := flushColumn loaded.failedCount changed.failedCount stored.failedCount

theorem count_flushQueue (loaded changed stored : RequestQueue) (status : QueueStatus) :
    (flushQueue loaded changed stored).count status =
      flushColumn (loaded.count status) (changed.count status) (stored.count status) := by
  cases status <;> rfl

/-- The rows as the session has changed them, with the queue as it is written. -/
def flush (loaded stored : RequestQueue) (session : Rows) : Except Failure Rows := do
  let queue := flushQueue loaded session.queue stored
  require (0 ≤ queue.pendingCount ∧ 0 ≤ queue.claimedCount ∧ 0 ≤ queue.handledCount ∧
    0 ≤ queue.failedCount) (.integrity "ck_request_queues_nonnegative_counts")
  pure { session with queue := queue }

/-- An enqueue request, with the identifiers and the time it draws. -/
structure Enqueue where
  idempotencyKey : String
  requestDigest : String
  identityDigest : String
  url : String
  uniqueKey : Option String
  userData : Value
  requestId : Uuid
  receiptId : Uuid
  now : Time

def findReceipt (e : Enqueue) (receipts : Table Uuid RequestQueueEnqueueReceipt) :
    Option (Uuid × RequestQueueEnqueueReceipt) :=
  receipts.find? (fun _ receipt => receipt.idempotencyKey = e.idempotencyKey)

def replayReceipt (e : Enqueue) (receipt : RequestQueueEnqueueReceipt) : Except Failure Unit :=
  require (receipt.requestDigest = e.requestDigest) (apiError 409 "IDEMPOTENCY_KEY_REUSED"
    "The idempotency key was previously used with a different request.")

def pendingRequest (e : Enqueue) : RequestQueueRequest where
  requestUrl := e.url
  uniqueKey := e.uniqueKey
  identityDigest := e.identityDigest
  userData := e.userData
  status := .pending
  attemptCount := 0
  maxAttempts := 3
  availableAt := e.now
  claimedBy := none
  claimToken := none
  claimExpiresAt := none
  handledAt := none
  failureCode := none
  failureSummary := none
  createdAt := e.now

/-- `enqueue_request`, once its idempotency key is found to be new. -/
def insertRequest (e : Enqueue) (queue : RequestQueue) (rows : Rows) : Except Failure Rows := do
  require ((rows.requests.find? (fun _ request =>
    request.identityDigest = e.identityDigest)).isNone = true)
    (apiError 409 "REQUEST_QUEUE_DUPLICATE" "An equivalent request is already queued.")
  let requests ← demand (rows.requests.insert? e.requestId (pendingRequest e))
    (.integrity "request_queue_requests_pkey")
  let receipts ← demand (rows.receipts.insert? e.receiptId
    ⟨e.requestId, e.idempotencyKey, e.requestDigest, e.identityDigest⟩)
    (.integrity "request_queue_enqueue_receipts_pkey")
  flush queue rows.queue
    { queue := queue.add 1 .pending
      requests := requests
      receipts := receipts
      transitions := rows.transitions ++ [⟨e.requestId, none, .pending, "ENQUEUED", 0⟩] }

/-- A worker's claim. Both of its functions read the time its transaction started at. -/
structure ClaimCall where
  workerId : Uuid
  claimToken : Uuid
  leaseSeconds : ℕ
  now : Time

def claimExpired (now : Time) (request : RequestQueueRequest) : Bool :=
  request.status = .claimed && request.claimExpiresAt.any (· < now)

def reclaimTarget (request : RequestQueueRequest) : QueueStatus :=
  if request.maxAttempts ≤ request.attemptCount then .failed else .pending

def reclaimedRequest (request : RequestQueueRequest) : RequestQueueRequest :=
  { request with
    status := reclaimTarget request
    claimedBy := none
    claimToken := none
    claimExpiresAt := none
    failureCode := if reclaimTarget request = .failed then some "LEASE_EXPIRED" else request.failureCode
    failureSummary := if reclaimTarget request = .failed then
      some "Worker lease expired before completion." else request.failureSummary }

def reclaimRequest (session : Rows) (entry : Uuid × RequestQueueRequest) : Rows :=
  { session with
    queue := session.queue.moved .claimed (reclaimTarget entry.2)
    requests := session.requests.modify entry.1 (fun _ => reclaimedRequest entry.2)
    transitions := session.transitions ++ [⟨entry.1, some .claimed, reclaimTarget entry.2,
      "LEASE_EXPIRED", entry.2.attemptCount⟩] }

/-- The session's changes are flushed by the query that follows. -/
def reclaimExpiredRequests (call : ClaimCall) (queue : RequestQueue) (rows : Rows) :
    Except Failure (RequestQueue × Rows) := do
  let session := (rows.requests.select (fun _ request => claimExpired call.now request)).foldl
    reclaimRequest { rows with queue := queue }
  let rows ← flush queue rows.queue session
  pure (session.queue, rows)

def claimOrder (a b : Uuid × RequestQueueRequest) : Bool :=
  decide (a.2.createdAt < b.2.createdAt) ||
    (decide (a.2.createdAt = b.2.createdAt) && decide (a.1 ≤ b.1))

def nextPending (now : Time) (requests : Table Uuid RequestQueueRequest) :
    Option (Uuid × RequestQueueRequest) :=
  ((requests.select (fun _ request => request.status = .pending &&
    decide (request.availableAt ≤ now))).insertionSort (fun a b => claimOrder a b)).head?

def claimedRequest (call : ClaimCall) (request : RequestQueueRequest) : RequestQueueRequest :=
  { request with
    status := .claimed
    claimedBy := some call.workerId
    claimToken := some call.claimToken
    attemptCount := request.attemptCount + 1
    claimExpiresAt := some (call.now + seconds call.leaseSeconds) }

def claimNextRequest (call : ClaimCall) (queue : RequestQueue) (rows : Rows) :
    Except Failure (RequestQueue × Rows × Option Uuid) := do
  require (1 ≤ call.leaseSeconds ∧ call.leaseSeconds ≤ 300)
    (.value "lease_seconds must be between 1 and 300")
  match nextPending call.now rows.requests with
  | none => pure (queue, rows, none)
  | some (id, request) => do
    let changed := queue.moved .pending .claimed
    let rows ← flush queue rows.queue
      { rows with
        queue := changed
        requests := rows.requests.modify id (fun _ => claimedRequest call request)
        transitions := rows.transitions ++
          [⟨id, some .pending, .claimed, "CLAIMED", request.attemptCount + 1⟩] }
    pure (changed, rows, some id)

inductive Outcome where
  | handled | failed
  deriving DecidableEq

def Outcome.status : Outcome → QueueStatus
  | handled => .handled
  | failed => .failed

structure Completion where
  workerId : Uuid
  requestId : Uuid
  claimToken : Uuid
  outcome : Outcome
  failureCode : Option String
  failureSummary : Option String
  now : Time

/-- The first characters of a text that is given, for a failure only. -/
def failureText (outcome : Outcome) (limit : ℕ) (text : Option String) : Option String :=
  if outcome = .failed then
    (text.filter (· ≠ "")).map (fun s => String.ofList (s.toList.take limit))
  else none

def completedRequest (c : Completion) (request : RequestQueueRequest) : RequestQueueRequest :=
  { request with
    status := c.outcome.status
    claimedBy := none
    claimToken := none
    claimExpiresAt := none
    handledAt := some c.now
    failureCode := failureText c.outcome 80 c.failureCode
    failureSummary := failureText c.outcome 2000 c.failureSummary }

def claimHeld (c : Completion) (request : RequestQueueRequest) : Prop :=
  request.status = .claimed ∧ request.claimedBy = some c.workerId ∧
    request.claimToken = some c.claimToken ∧ request.claimExpiresAt.any (c.now < ·) = true

instance decidableClaimHeld (c : Completion) (request : RequestQueueRequest) :
    Decidable (claimHeld c request) :=
  inferInstanceAs (Decidable (_ ∧ _ ∧ _ ∧ _))

/-- `complete_worker_queue_request`, once the queue and the request are locked. -/
def finishRequest (c : Completion) (queue : RequestQueue) (request : RequestQueueRequest)
    (rows : Rows) : Except Failure Rows := do
  require (claimHeld c request) (apiError 409 "REQUEST_QUEUE_CLAIM_STALE"
    "The Queue request claim is stale or invalid.")
  flush queue rows.queue
    { rows with
      queue := queue.moved .claimed c.outcome.status
      requests := rows.requests.modify c.requestId (fun _ => completedRequest c request)
      transitions := rows.transitions ++ [⟨c.requestId, some .claimed, c.outcome.status,
        "WORKER_COMPLETED", request.attemptCount⟩] }

inductive Request where
  | enqueue (e : Enqueue)
  | claim (call : ClaimCall)
  | complete (c : Completion)

/-- What a request answers with: the receipt's request and whether it is a replay, the claimed
request if there is one, or nothing. -/
inductive Reply where
  | enqueued (requestId : Uuid) (replayed : Bool)
  | claimed (requestId : Option Uuid)
  | completed

/-- A request, with nothing else going on. -/
def serve (rows : Rows) : Request → Except Failure (Rows × Reply)
  | .enqueue e =>
    match findReceipt e rows.receipts with
    | some (_, receipt) => do
      let _ ← replayReceipt e receipt
      pure (rows, .enqueued receipt.requestId true)
    | none => do
      let rows ← insertRequest e rows.queue rows
      pure (rows, .enqueued e.requestId false)
  | .claim call => do
    let (queue, rows) ← reclaimExpiredRequests call rows.queue rows
    let (_, rows, claimed) ← claimNextRequest call queue rows
    pure (rows, .claimed claimed)
  | .complete c => do
    let request ← demand (rows.requests.get? c.requestId) (apiError 404 "RESOURCE_NOT_FOUND"
      "The requested resource was not found.")
    let rows ← finishRequest c rows.queue request rows
    pure (rows, .completed)

end RoozDataCloud.RequestQueues
