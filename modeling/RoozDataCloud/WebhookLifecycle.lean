import RoozDataCloud.RunCreation

set_option autoImplicit false

/-!
# The life of a webhook destination and of its deliveries

Every request and every SQL function here runs as one transaction. The tenancy
trigger stands in every write of a destination; the CHECK constraints of the
table do not, since no write of a reachable state violates them.
-/
namespace RoozDataCloud.WebhookLifecycle
open KeyedTable ExecutionModels FallibleSteps WebhookModels WorkClaims LeaseRequests RunRequests

/-- The project secret that a destination signs with. -/
structure SigningSecret where
  organizationId : Uuid
  projectId : Uuid
  version : ℕ

structure Tables where
  plane : State
  secrets : Table Uuid SigningSecret
  destinations : Table Uuid WebhookDestination
  webhooks : WebhookTables

/-- `validateWebhookDestination` gives the canonical endpoint and event types. -/
structure Site extends Deployment where
  organizationOf : Uuid → Uuid
  validateWebhookDestination : String → List String → Except String (String × List String)

def projectAlive (t : Tables) (projectId : Uuid) : Bool :=
  (t.plane.directory.projects.get? projectId).any (·.deletedAt = none)

/-- `enforce_webhook_destination_tenancy`: the row is written under the organization of its
project and the version that its secret has. -/
def tenancyGuard (s : Site) (t : Tables) (destination : WebhookDestination) :
    Except Failure WebhookDestination := do
  require (projectAlive t destination.projectId)
    (.integrity "Webhook Project reference is invalid")
  let secret ← demand ((t.secrets.get? destination.signingSecretId).filter (fun secret =>
      secret.organizationId = s.organizationOf destination.projectId &&
        secret.projectId = destination.projectId))
    (.integrity "Webhook signing secret reference is invalid")
  pure { destination with
    organizationId := s.organizationOf destination.projectId
    signingSecretVersion := secret.version }

/-- An UPDATE of the destination under `id`; no row is written when it does not meet `cond`. -/
def updateDestination (s : Site) (t : Tables) (id : Uuid) (cond : WebhookDestination → Bool)
    (f : WebhookDestination → WebhookDestination) : Except Failure Tables :=
  match (t.destinations.get? id).filter cond with
  | none => pure t
  | some destination => do
    let written ← tenancyGuard s t (f destination)
    pure { t with destinations := t.destinations.modify id (fun _ => written) }

/-- The delivery under `id` is written with its transition. -/
def recordDelivery (t : Tables) (id : Uuid) (delivery : WebhookDeliveryAttempt)
    (fromStatus : DeliveryStatus) (reasonCode : String) : Tables :=
  { t with
    webhooks := appendTransition
      { t.webhooks with deliveries := t.webhooks.deliveries.modify id (fun _ => delivery) }
      id delivery (some fromStatus) reasonCode }

section Destinations

structure CreateWebhookDestinationRequest where
  name : String
  endpointUrl : String
  eventTypes : List String
  signingSecret : String

def validated (s : Site) (payload : CreateWebhookDestinationRequest) :
    Except Failure (String × List String) :=
  match s.validateWebhookDestination payload.endpointUrl payload.eventTypes with
  | .ok valid => pure valid
  | .error message => .error (apiError 422 "WEBHOOK_DESTINATION_INVALID" message)

def createFingerprint (s : Site) (projectId : Uuid) (payload : CreateWebhookDestinationRequest)
    (valid : String × List String) : String :=
  s.canonicalFingerprint (.object [("project_id", .uuid projectId), ("name", .text payload.name),
    ("endpoint_url", .text valid.1), ("event_types", .array (valid.2.map .text)),
    ("signing_secret_digest", .text (s.sha256 payload.signingSecret))])

def newDestination (s : Site) (projectId secretId : Uuid) (name : String)
    (valid : String × List String) : WebhookDestination where
  organizationId := s.organizationOf projectId
  projectId := projectId
  name := name
  endpointUrl := valid.1
  eventTypes := valid.2
  status := .pendingVerification
  verifiedAt := none
  consecutiveFailureCount := 0
  failureThreshold := 3
  disabledReason := none
  signingSecretId := secretId
  signingSecretVersion := 1
  version := 1

def insertDestination (s : Site) (t : Tables) (projectId destinationId secretId : Uuid)
    (name : String) (valid : String × List String) : Except Failure Tables := do
  require ((t.destinations.find? (fun _ destination => destination.projectId = projectId &&
      destination.name = name)).isNone)
    (apiError 409 "WEBHOOK_DESTINATION_ALREADY_EXISTS"
      "A webhook destination with that name already exists.")
  let secrets ← demand (t.secrets.insert? secretId
      { organizationId := s.organizationOf projectId, projectId := projectId, version := 1 })
    (.integrity "project_secrets_pkey")
  let written ← tenancyGuard s { t with secrets := secrets }
    (newDestination s projectId secretId name valid)
  let destinations ← demand (t.destinations.insert? destinationId written)
    (.integrity "webhook_destinations_pkey")
  pure { t with secrets := secrets, destinations := destinations }

def createWebhookDestination (s : Site) (t : Tables) (caller : Caller)
    (projectId destinationId secretId : Uuid) (payload : CreateWebhookDestinationRequest) :
    Except Failure (Tables × Uuid) := do
  let _ ← validateIdempotencyKey caller.idempotencyKey
  let valid ← validated s payload
  let fingerprint := createFingerprint s projectId payload valid
  let key := idempotencyKey s.toDeployment caller (s.organizationOf projectId)
    "POST:/api/v1/projects/\x7bproject_id\x7d/webhook-destinations"
  match ← replay t.plane key fingerprint with
  | some id => pure (t, id)
  | none => do
    let t ← insertDestination s t projectId destinationId secretId payload.name valid
    let plane ← remember t.plane key fingerprint destinationId
    pure ({ t with plane := plane }, destinationId)

/-- A request on one destination, in the version that the caller has seen. -/
structure DestinationCall where
  projectId : Uuid
  destinationId : Uuid
  expectedVersion : ℕ

def lockedDestination (t : Tables) (call : DestinationCall) : Except Failure WebhookDestination := do
  let destination ← demand ((t.destinations.get? call.destinationId).filter (fun destination =>
    destination.projectId = call.projectId)) missingResource
  require (destination.version = call.expectedVersion) (apiError 409 "VERSION_CONFLICT"
    "The webhook destination changed. Reload it and try again.")
  pure destination

def rotated (secretVersion : ℕ) (destination : WebhookDestination) : WebhookDestination :=
  { destination with
    signingSecretVersion := secretVersion
    version := destination.version + 1
    status := .pendingVerification
    verifiedAt := none
    consecutiveFailureCount := 0
    disabledReason := none }

/-- The flush writes the secret before the destination, whose trigger reads it. -/
def rotateWebhookSigningSecret (s : Site) (t : Tables) (call : DestinationCall) :
    Except Failure (Tables × Unit) := do
  let destination ← lockedDestination t call
  let secret ← demand ((t.secrets.get? destination.signingSecretId).filter (fun secret =>
      secret.projectId = destination.projectId))
    (.value "Webhook signing secret is unavailable")
  let secrets := t.secrets.modify destination.signingSecretId
    (fun secret => { secret with version := secret.version + 1 })
  let t ← updateDestination s { t with secrets := secrets } call.destinationId (fun _ => true)
    (rotated (secret.version + 1))
  pure (t, ())

/-- The delivery of the event that is to verify the destination. -/
def verifyWebhookDestination (t : Tables) (call : DestinationCall) (eventId deliveryId : Uuid)
    (now : Time) : Except Failure (Tables × Uuid) := do
  let destination ← lockedDestination t call
  require (destination.status = .pendingVerification)
    (apiError 409 "WEBHOOK_DESTINATION_NOT_PENDING"
      "Only a pending webhook destination can be verified.")
  let event ← demand (eventOf t.webhooks destination.projectId eventId) missingResource
  require (event.eventType ∈ destination.eventTypes) missingResource
  let (webhooks, id) ← enqueueWebhookDelivery t.webhooks ⟨t.destinations, t.destinations⟩
    destination.projectId call.destinationId eventId deliveryId 5 now
  pure ({ t with webhooks := webhooks }, id)

def disabledByOperator (destination : WebhookDestination) : WebhookDestination :=
  { destination with
    status := .disabled
    disabledReason := some .operatorDisabled
    version := destination.version + 1 }

def disableWebhookDestination (s : Site) (t : Tables) (call : DestinationCall) :
    Except Failure (Tables × Unit) := do
  let _ ← lockedDestination t call
  let t ← updateDestination s t call.destinationId (fun _ => true) disabledByOperator
  pure (t, ())

end Destinations

section Claims

/-- `[a-z0-9][a-z0-9._-]{0,63}` -/
def workerIdValid (workerId : String) : Bool :=
  let alnum := fun c : Char => c.isLower || c.isDigit
  match workerId.toList with
  | [] => false
  | c :: rest => alnum c && decide (rest.length ≤ 63) &&
    rest.all (fun c => alnum c || decide (c ∈ ['.', '_', '-']))

/-- A caller's clock is accepted within five seconds of the server's, and the server's is used. -/
def clockValid (now : Option Time) (serverNow : Time) : Bool :=
  now.any (fun now => decide (now ≤ serverNow + seconds 5) && decide (serverNow ≤ now + seconds 5))

def takesDeliveries (destination : WebhookDestination) : Bool :=
  destination.status = .pendingVerification || destination.status = .active

def claimExpired (now : Time) (delivery : WebhookDeliveryAttempt) : Bool :=
  delivery.status = .claimed && delivery.claimExpiresAt.any (fun expiry => decide (expiry ≤ now))

/-- The delivery waits, and its destination takes deliveries. -/
def claimReady (t : Tables) (now : Time) (delivery : WebhookDeliveryAttempt) : Bool :=
  (delivery.status = .pending || delivery.status = .retryWait) &&
    decide (delivery.availableAt ≤ now) &&
    (t.destinations.get? delivery.destinationId).any takesDeliveries

def expired (now : Time) (delivery : WebhookDeliveryAttempt) : WebhookDeliveryAttempt :=
  let final := decide (delivery.maxAttempts ≤ delivery.attemptCount)
  { delivery with
    status := if final then .deadLettered else .retryWait
    availableAt := now
    claimTokenDigest := none
    claimedBy := none
    claimExpiresAt := none
    lastErrorCode := some "CLAIM_EXPIRED"
    completedAt := if final then some now else none
    version := delivery.version + 1 }

def claimed (tokenDigest workerId : String) (expiresAt : Time)
    (delivery : WebhookDeliveryAttempt) : WebhookDeliveryAttempt :=
  { delivery with
    status := .claimed
    attemptCount := delivery.attemptCount + 1
    claimTokenDigest := some tokenDigest
    claimedBy := some workerId
    claimExpiresAt := some expiresAt
    version := delivery.version + 1 }

def countFailure (reached : Bool) (destination : WebhookDestination) : WebhookDestination :=
  { destination with
    consecutiveFailureCount :=
      min destination.failureThreshold (destination.consecutiveFailureCount + 1)
    status := if reached then .disabled else destination.status
    disabledReason := if reached then some .autoFailureThreshold else destination.disabledReason
    version := destination.version + 1 }

def expiryFailure (destination : WebhookDestination) : WebhookDestination :=
  countFailure (decide (destination.failureThreshold ≤ destination.consecutiveFailureCount + 1))
    destination

/-- Here the count that is stored is compared, which the threshold bounds. -/
def completionFailure (destination : WebhookDestination) : WebhookDestination :=
  countFailure (decide (destination.failureThreshold ≤
    min destination.failureThreshold (destination.consecutiveFailureCount + 1))) destination

/-- `ORDER BY claim_expires_at, id` -/
def expiryOrder (a b : Uuid × WebhookDeliveryAttempt) : Bool :=
  if a.2.claimExpiresAt = b.2.claimExpiresAt then decide (a.1 ≤ b.1)
  else decide (a.2.claimExpiresAt.getD 0 ≤ b.2.claimExpiresAt.getD 0)

/-- `ORDER BY available_at, created_at, id` -/
def claimOrder (a b : Uuid × WebhookDeliveryAttempt) : Bool :=
  if a.2.availableAt = b.2.availableAt then
    if a.2.createdAt = b.2.createdAt then decide (a.1 ≤ b.1)
    else decide (a.2.createdAt ≤ b.2.createdAt)
  else decide (a.2.availableAt ≤ b.2.availableAt)

/-- One call of a claim. `locked` are the rows that other transactions hold. -/
structure ClaimCall where
  serverNow : Time
  claimSeconds : ℕ
  workerId : String
  rawToken : Uuid → String
  locked : Uuid → Bool

def ClaimCall.expiresAt (call : ClaimCall) : Time := call.serverNow + seconds call.claimSeconds

structure ClaimedDelivery where
  deliveryId : Uuid
  organizationId : Uuid
  projectId : Uuid
  destinationId : Uuid
  eventId : Uuid
  attemptCount : ℕ
  claimToken : String
  claimExpiresAt : Time

def expiredClaims (t : Tables) (call : ClaimCall) (batchSize : ℕ) :
    List (Uuid × WebhookDeliveryAttempt) :=
  ((t.webhooks.deliveries.select (fun id delivery => claimExpired call.serverNow delivery &&
    !call.locked id)).insertionSort (fun a b => expiryOrder a b)).take batchSize

def readyDeliveries (t : Tables) (call : ClaimCall) (batchSize : ℕ) :
    List (Uuid × WebhookDeliveryAttempt) :=
  ((t.webhooks.deliveries.select (fun id delivery => claimReady t call.serverNow delivery &&
    !call.locked id)).insertionSort (fun a b => claimOrder a b)).take batchSize

/-- A round of the first loop. The candidate's row is locked, so it is as it was selected. -/
def expireClaim (s : Site) (now : Time) (t : Tables) (candidate : Uuid × WebhookDeliveryAttempt) :
    Except Failure Tables :=
  let delivery := expired now candidate.2
  let t := recordDelivery t candidate.1 delivery .claimed "CLAIM_EXPIRED"
  if delivery.status = .deadLettered then
    updateDestination s t delivery.destinationId takesDeliveries expiryFailure
  else pure t

def claimReadyDelivery (s : Site) (call : ClaimCall) (t : Tables)
    (candidate : Uuid × WebhookDeliveryAttempt) : Tables :=
  recordDelivery t candidate.1
    (claimed (s.sha256 (call.rawToken candidate.1)) call.workerId call.expiresAt candidate.2)
    candidate.2.status "CLAIMED"

def handedOut (call : ClaimCall) (candidate : Uuid × WebhookDeliveryAttempt) : ClaimedDelivery where
  deliveryId := candidate.1
  organizationId := candidate.2.organizationId
  projectId := candidate.2.projectId
  destinationId := candidate.2.destinationId
  eventId := candidate.2.eventId
  attemptCount := candidate.2.attemptCount + 1
  claimToken := call.rawToken candidate.1
  claimExpiresAt := call.expiresAt

def claimWebhookDeliveryCanary (s : Site) (t : Tables) (now : Option Time) (batchSize : ℕ)
    (call : ClaimCall) : Except Failure (Tables × List ClaimedDelivery) := do
  require (clockValid now call.serverNow) (.value "Webhook claim clock is invalid")
  require ((1 ≤ batchSize ∧ batchSize ≤ 20) ∧ (15 ≤ call.claimSeconds ∧ call.claimSeconds ≤ 120) ∧
      workerIdValid call.workerId)
    (.value "Webhook claim bounds are invalid")
  let t ← (expiredClaims t call batchSize).foldlM (expireClaim s call.serverNow) t
  let ready := readyDeliveries t call batchSize
  pure (ready.foldl (claimReadyDelivery s call) t, ready.map (handedOut call))

/-- What `claim_webhook_delivery` selects: an expired claim is selected whatever its destination. -/
def claimCandidate (t : Tables) (call : ClaimCall) (projectId : Uuid) :
    Option (Uuid × WebhookDeliveryAttempt) :=
  ((t.webhooks.deliveries.select (fun id delivery => delivery.projectId = projectId &&
    (claimReady t call.serverNow delivery ||
      claimExpired call.serverNow delivery && (t.destinations.get? delivery.destinationId).isSome) &&
    !call.locked id)).insertionSort (fun a b => claimOrder a b)).head?

/-- `claim_webhook_delivery`, which claims one delivery of a project. -/
def claimWebhookDelivery (s : Site) (t : Tables) (projectId : Uuid) (call : ClaimCall) :
    Except Failure (Tables × Option ClaimedDelivery) := do
  require ((15 ≤ call.claimSeconds ∧ call.claimSeconds ≤ 120) ∧ workerIdValid call.workerId)
    (.value "Webhook claim parameters are invalid")
  match claimCandidate t call projectId with
  | none => pure (t, none)
  | some (id, delivery) =>
    if delivery.status = .claimed then
      let released := expired call.serverNow delivery
      let t := recordDelivery t id released .claimed "CLAIM_EXPIRED"
      if released.status = .deadLettered then do
        let t ← updateDestination s t delivery.destinationId (·.status ≠ .disabled) completionFailure
        pure (t, none)
      else
        pure (claimReadyDelivery s call t (id, released), some (handedOut call (id, released)))
    else
      pure (claimReadyDelivery s call t (id, delivery), some (handedOut call (id, delivery)))

end Claims

section Completions

inductive DeliveryOutcome where
  | delivered | httpRetry | httpPermanent | authRejected | dnsFailure | tlsFailure | timeout
  | configurationError
  deriving DecidableEq

def DeliveryOutcome.code : DeliveryOutcome → String
  | .delivered => "DELIVERED"
  | .httpRetry => "HTTP_RETRY"
  | .httpPermanent => "HTTP_PERMANENT"
  | .authRejected => "AUTH_REJECTED"
  | .dnsFailure => "DNS_FAILURE"
  | .tlsFailure => "TLS_FAILURE"
  | .timeout => "TIMEOUT"
  | .configurationError => "CONFIGURATION_ERROR"

def outcomes : List DeliveryOutcome :=
  [.delivered, .httpRetry, .httpPermanent, .authRejected, .dnsFailure, .tlsFailure, .timeout,
    .configurationError]

def parseOutcome (code : String) : Option DeliveryOutcome :=
  outcomes.find? (fun outcome => outcome.code = code)

/-- `^[0-9a-f]{64}$` -/
def digestValid (digest : String) : Bool :=
  decide (digest.length = 64) &&
    digest.toList.all (fun c => c.isDigit || decide ('a' ≤ c ∧ c ≤ 'f'))

structure CompletionCall where
  deliveryId : Uuid
  claimTokenDigest : String
  outcome : String
  httpStatus : Option ℕ
  now : Option Time
  serverNow : Time

structure Completion where
  deliveryId : Uuid
  status : DeliveryStatus
  outcome : DeliveryOutcome
  retryScheduled : Bool
  availableAt : Time

/-- The claim is held under the digest. A comparison with NULL does not fence. -/
def claimHeld (call : CompletionCall) (delivery : WebhookDeliveryAttempt) : Bool :=
  delivery.status = .claimed &&
    !delivery.claimTokenDigest.any (fun digest => digest ≠ call.claimTokenDigest) &&
    delivery.claimExpiresAt.any (fun expiry => decide (call.serverNow < expiry))

def secretOf (t : Tables) (delivery : WebhookDeliveryAttempt) : Option SigningSecret :=
  (t.secrets.get? delivery.signingSecretId).filter (fun secret =>
    secret.organizationId = delivery.organizationId && secret.projectId = delivery.projectId)

/-- The destination's endpoint and signing secret are those that the delivery was enqueued with. -/
def sameBinding (destination : WebhookDestination) (delivery : WebhookDeliveryAttempt) : Bool :=
  destination.endpointUrl = delivery.endpointUrl &&
    destination.signingSecretId = delivery.signingSecretId &&
    destination.signingSecretVersion = delivery.signingSecretVersion

def finalOutcome (outcome : DeliveryOutcome) (secret : SigningSecret) (destination : WebhookDestination)
    (delivery : WebhookDeliveryAttempt) : DeliveryOutcome :=
  if secret.version = delivery.signingSecretVersion ∧ takesDeliveries destination ∧
    sameBinding destination delivery then outcome else .configurationError

def retryable (outcome : DeliveryOutcome) : Bool :=
  outcome = .httpRetry || outcome = .dnsFailure || outcome = .timeout

def nextStatus (outcome : DeliveryOutcome) (delivery : WebhookDeliveryAttempt) : DeliveryStatus :=
  if outcome = .delivered then .succeeded
  else if retryable outcome ∧ delivery.attemptCount < delivery.maxAttempts then .retryWait
  else .deadLettered

def nextAvailable (outcome : DeliveryOutcome) (delivery : WebhookDeliveryAttempt) (now : Time) : Time :=
  if nextStatus outcome delivery = .retryWait then
    now + seconds (min 3600 (2 ^ min delivery.attemptCount 10 * 5))
  else delivery.availableAt

def completed (outcome : DeliveryOutcome) (call : CompletionCall) (delivery : WebhookDeliveryAttempt) :
    WebhookDeliveryAttempt :=
  let status := nextStatus outcome delivery
  { delivery with
    status := status
    availableAt := nextAvailable outcome delivery call.serverNow
    claimTokenDigest := none
    claimedBy := none
    claimExpiresAt := none
    lastErrorCode := if outcome = .delivered then none else some outcome.code
    lastHttpStatus := call.httpStatus
    completedAt := if status = .succeeded ∨ status = .deadLettered then some call.serverNow else none
    version := delivery.version + 1 }

def activated (now : Time) (destination : WebhookDestination) : WebhookDestination :=
  { destination with
    status := .active
    verifiedAt := some (destination.verifiedAt.getD now)
    consecutiveFailureCount := 0
    disabledReason := none
    version := destination.version + 1 }

/-- What the completion of a delivery does to its destination. -/
def settleDestination (s : Site) (t : Tables) (outcome : DeliveryOutcome) (status : DeliveryStatus)
    (destinationId : Uuid) (now : Time) : Except Failure Tables :=
  if outcome = .delivered then updateDestination s t destinationId (fun _ => true) (activated now)
  else if status = .deadLettered then
    updateDestination s t destinationId takesDeliveries completionFailure
  else pure t

/-- The writes of a completion whose rows have all been found. -/
def settleCompletion (s : Site) (t : Tables) (call : CompletionCall) (outcome : DeliveryOutcome)
    (delivery : WebhookDeliveryAttempt) : Except Failure (Tables × Option Completion) := do
  let done := completed outcome call delivery
  let t ← settleDestination s (recordDelivery t call.deliveryId done .claimed outcome.code) outcome
    done.status delivery.destinationId call.serverNow
  pure (t, some
    { deliveryId := call.deliveryId
      status := done.status
      outcome := outcome
      retryScheduled := decide (done.status = .retryWait)
      availableAt := done.availableAt })

/-- A call without effect returns no row. -/
def completeWebhookDeliveryCanary (s : Site) (t : Tables) (call : CompletionCall) :
    Except Failure (Tables × Option Completion) := do
  require (clockValid call.now call.serverNow) (.value "Webhook completion clock is invalid")
  if digestValid call.claimTokenDigest then do
    let outcome ← demand (parseOutcome call.outcome) (.value "Webhook delivery result is invalid")
    require (call.httpStatus.all (fun status => decide (100 ≤ status) && decide (status ≤ 599)))
      (.value "Webhook delivery result is invalid")
    match (t.webhooks.deliveries.get? call.deliveryId).filter (claimHeld call) with
    | none => pure (t, none)
    | some delivery =>
      match t.destinations.get? delivery.destinationId, secretOf t delivery with
      | some destination, some secret =>
        settleCompletion s t call (finalOutcome outcome secret destination delivery) delivery
      | _, _ => pure (t, none)
  else pure (t, none)

end Completions

section Replays

structure ReplayCall where
  caller : Caller
  projectId : Uuid
  deliveryId : Uuid
  expectedVersion : ℕ

def enabledAgain (destination : WebhookDestination) : WebhookDestination :=
  { destination with
    status := if destination.verifiedAt.isSome then .active else .pendingVerification
    consecutiveFailureCount := 0
    disabledReason := none
    version := destination.version + 1 }

def replayed (s : Site) (caller : Caller) (delivery : WebhookDeliveryAttempt) :
    WebhookDeliveryAttempt :=
  { delivery with
    status := .pending
    attemptCount := 0
    availableAt := caller.now
    claimTokenDigest := none
    claimedBy := none
    claimExpiresAt := none
    lastErrorCode := none
    lastHttpStatus := none
    completedAt := none
    replayCount := delivery.replayCount + 1
    lastReplayedAt := some caller.now
    lastReplayKeyDigest := some (s.sha256 caller.idempotencyKey)
    replayRequestedByUserId := some caller.userId
    version := delivery.version + 1 }

def replayAllowed (delivery : WebhookDeliveryAttempt) (destination : WebhookDestination) : Bool :=
  (destination.disabledReason = none || destination.disabledReason = some .autoFailureThreshold) &&
    sameBinding destination delivery

def replayWebhookDelivery (s : Site) (t : Tables) (call : ReplayCall) :
    Except Failure (Tables × Uuid) := do
  let _ ← validateIdempotencyKey call.caller.idempotencyKey
  let delivery ← demand ((t.webhooks.deliveries.get? call.deliveryId).filter (fun delivery =>
    delivery.projectId = call.projectId)) missingResource
  if delivery.lastReplayKeyDigest = some (s.sha256 call.caller.idempotencyKey) then
    pure (t, call.deliveryId)
  else do
    require (delivery.version = call.expectedVersion) (apiError 409 "VERSION_CONFLICT"
      "The webhook delivery changed. Reload it and try again.")
    require (delivery.status = .deadLettered) (apiError 409 "WEBHOOK_REPLAY_INVALID"
      "Only a failed terminal delivery can be replayed.")
    require ((t.destinations.get? delivery.destinationId).any (replayAllowed delivery))
      (apiError 409 "WEBHOOK_REPLAY_CONFIGURATION_CHANGED" "The delivery configuration changed.")
    let t ← updateDestination s t delivery.destinationId (·.status = .disabled) enabledAgain
    pure (recordDelivery t call.deliveryId (replayed s call.caller delivery) delivery.status
      "MANUAL_REPLAY", call.deliveryId)

end Replays

/-- What an emission names besides its request. -/
structure Subject where
  projectId : Uuid
  eventType : String
  subjectType : String
  subjectId : Uuid
  payload : Payload

/-- `emit_event` in a transaction of its own, so that all its statements see the same rows. -/
def emitEvent (s : Site) (t : Tables) (emission : RunCreation.Emission) (subject : Subject) :
    Except Failure (Tables × Unit) :=
  match RunCreation.emitEvent
      { emission with
        listed := t.destinations
        visible := fun _ => ⟨t.destinations, t.destinations⟩ }
      (s.organizationOf subject.projectId) subject.projectId subject.eventType subject.subjectType
      subject.subjectId subject.payload
      { plane := t.plane, runEvents := Table.empty, webhooks := t.webhooks } with
  | .ok _ t' => pure ({ t with webhooks := t'.webhooks }, ())
  | .error e _ => .error e

def enqueueDelivery (t : Tables) (projectId destinationId eventId deliveryId : Uuid)
    (maxAttempts : ℕ) (now : Time) : Except Failure (Tables × Uuid) := do
  let (webhooks, id) ← enqueueWebhookDelivery t.webhooks ⟨t.destinations, t.destinations⟩ projectId
    destinationId eventId deliveryId maxAttempts now
  pure ({ t with webhooks := webhooks }, id)

/-- The rest of the control plane may be anything at any time. -/
inductive Op where
  | elsewhere (plane : State)
  | emitEvent (emission : RunCreation.Emission) (subject : Subject)
  | createWebhookDestination (caller : Caller) (projectId destinationId secretId : Uuid)
      (payload : CreateWebhookDestinationRequest)
  | verifyWebhookDestination (call : DestinationCall) (eventId deliveryId : Uuid) (now : Time)
  | rotateWebhookSigningSecret (call : DestinationCall)
  | disableWebhookDestination (call : DestinationCall)
  | enqueueWebhookDelivery (projectId destinationId eventId deliveryId : Uuid) (maxAttempts : ℕ)
      (now : Time)
  | claimWebhookDeliveryCanary (now : Option Time) (batchSize : ℕ) (call : ClaimCall)
  | claimWebhookDelivery (projectId : Uuid) (call : ClaimCall)
  | completeWebhookDeliveryCanary (call : CompletionCall)
  | replayWebhookDelivery (call : ReplayCall)

def step (s : Site) (t : Tables) : Op → Tables
  | .elsewhere plane => { t with plane := plane }
  | .emitEvent emission subject => commit t (emitEvent s t emission subject)
  | .createWebhookDestination caller projectId destinationId secretId payload =>
    commit t (createWebhookDestination s t caller projectId destinationId secretId payload)
  | .verifyWebhookDestination call eventId deliveryId now =>
    commit t (verifyWebhookDestination t call eventId deliveryId now)
  | .rotateWebhookSigningSecret call => commit t (rotateWebhookSigningSecret s t call)
  | .disableWebhookDestination call => commit t (disableWebhookDestination s t call)
  | .enqueueWebhookDelivery projectId destinationId eventId deliveryId maxAttempts now =>
    commit t (enqueueDelivery t projectId destinationId eventId deliveryId maxAttempts now)
  | .claimWebhookDeliveryCanary now batchSize call =>
    commit t (claimWebhookDeliveryCanary s t now batchSize call)
  | .claimWebhookDelivery projectId call => commit t (claimWebhookDelivery s t projectId call)
  | .completeWebhookDeliveryCanary call => commit t (completeWebhookDeliveryCanary s t call)
  | .replayWebhookDelivery call => commit t (replayWebhookDelivery s t call)

/-- Before the first destination is created. -/
def opening (plane : State) : Tables where
  plane := plane
  secrets := Table.empty
  destinations := Table.empty
  webhooks := { events := Table.empty, deliveries := Table.empty, transitions := Table.empty }

def after (s : Site) (plane : State) (ops : List Op) : Tables := exec (step s) (opening plane) ops

end RoozDataCloud.WebhookLifecycle
