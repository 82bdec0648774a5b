import RoozDataCloud.ExecutionModels
import RoozDataCloud.NumberedLog

set_option autoImplicit false

/-!
# Events, webhook destinations and their deliveries
-/
namespace RoozDataCloud.WebhookModels
open KeyedTable NumberedLog ExecutionModels FallibleSteps

structure Event where
  organizationId : Uuid
  projectId : Uuid
  eventType : String
  subjectType : String
  subjectId : Uuid
  payload : Payload
  requestId : String
  occurredAt : Time

inductive DestinationStatus where
  | pendingVerification | active | disabled
  deriving DecidableEq

inductive DisabledReason where
  | operatorDisabled | autoFailureThreshold
  deriving DecidableEq

structure WebhookDestination where
  organizationId : Uuid
  projectId : Uuid
  name : String
  endpointUrl : String
  eventTypes : List String
  status : DestinationStatus
  verifiedAt : Option Time
  consecutiveFailureCount : ℕ
  failureThreshold : ℕ
  disabledReason : Option DisabledReason
  signingSecretId : Uuid
  signingSecretVersion : ℕ
  version : ℕ

inductive DeliveryStatus where
  | pending | claimed | retryWait | succeeded | deadLettered | cancelled
  deriving DecidableEq

structure WebhookDeliveryAttempt where
  organizationId : Uuid
  projectId : Uuid
  destinationId : Uuid
  eventId : Uuid
  endpointUrl : String
  signingSecretId : Uuid
  signingSecretVersion : ℕ
  status : DeliveryStatus
  attemptCount : ℕ
  maxAttempts : ℕ
  availableAt : Time
  claimTokenDigest : Option String
  claimedBy : Option String
  claimExpiresAt : Option Time
  lastErrorCode : Option String
  lastHttpStatus : Option ℕ
  completedAt : Option Time
  replayCount : ℕ
  lastReplayedAt : Option Time
  lastReplayKeyDigest : Option String
  replayRequestedByUserId : Option Uuid
  createdAt : Time
  version : ℕ

structure WebhookDeliveryTransition where
  fromStatus : Option DeliveryStatus
  toStatus : DeliveryStatus
  reasonCode : String
  attemptCount : ℕ

/-- Transitions are numbered per delivery. -/
structure WebhookTables where
  events : Table Uuid Event
  deliveries : Table Uuid WebhookDeliveryAttempt
  transitions : Log Uuid WebhookDeliveryTransition

def appendTransition (t : WebhookTables) (deliveryId : Uuid) (delivery : WebhookDeliveryAttempt)
    (fromStatus : Option DeliveryStatus) (reasonCode : String) : WebhookTables :=
  { t with
    transitions := append t.transitions deliveryId
      { fromStatus := fromStatus
        toStatus := delivery.status
        reasonCode := reasonCode
        attemptCount := delivery.attemptCount } }

/-- The lineage trigger lets a delivery in only for a destination that is not disabled and takes
the event's type, and copies the destination's binding into it. -/
def boundDelivery (destination : WebhookDestination) (event : Event) (destinationId eventId : Uuid)
    (maxAttempts : ℕ) (now : Time) : Except Failure WebhookDeliveryAttempt := do
  require (destination.status ≠ .disabled ∧ destination.organizationId = event.organizationId ∧
      destination.projectId = event.projectId ∧ event.eventType ∈ destination.eventTypes)
    (.integrity "Webhook delivery lineage is invalid")
  pure
    { organizationId := destination.organizationId
      projectId := destination.projectId
      destinationId := destinationId
      eventId := eventId
      endpointUrl := destination.endpointUrl
      signingSecretId := destination.signingSecretId
      signingSecretVersion := destination.signingSecretVersion
      status := .pending
      attemptCount := 0
      maxAttempts := maxAttempts
      availableAt := now
      claimTokenDigest := none
      claimedBy := none
      claimExpiresAt := none
      lastErrorCode := none
      lastHttpStatus := none
      completedAt := none
      replayCount := 0
      lastReplayedAt := none
      lastReplayKeyDigest := none
      replayRequestedByUserId := none
      createdAt := now
      version := 1 }

def deliveryOf (t : WebhookTables) (destinationId eventId : Uuid) :
    Option (Uuid × WebhookDeliveryAttempt) :=
  t.deliveries.find? (fun _ delivery => delivery.destinationId = destinationId &&
    delivery.eventId = eventId)

/-- The destinations that the two statements of one enqueueing see: the lookup and the trigger of
the insertion. -/
structure Visible where
  lookup : Table Uuid WebhookDestination
  insertion : Table Uuid WebhookDestination

def takes (projectId : Uuid) (eventType : String) (destination : WebhookDestination) : Bool :=
  destination.projectId = projectId &&
    (destination.status = .pendingVerification || destination.status = .active) &&
    decide (eventType ∈ destination.eventTypes)

def eventOf (t : WebhookTables) (projectId eventId : Uuid) : Option Event :=
  (t.events.get? eventId).filter (fun event => event.projectId = projectId)

def enqueueWebhookDelivery (t : WebhookTables) (visible : Visible)
    (projectId destinationId eventId deliveryId : Uuid) (maxAttempts : ℕ) (now : Time) :
    Except Failure (WebhookTables × Uuid) := do
  require (1 ≤ maxAttempts ∧ maxAttempts ≤ 8)
    (.value "Webhook max attempts must be between 1 and 8")
  match deliveryOf t destinationId eventId with
  | some (existing, _) => pure (t, existing)
  | none => do
    let missing := apiError 404 "RESOURCE_NOT_FOUND" "The requested resource was not found."
    let event ← demand (eventOf t projectId eventId) missing
    require ((visible.lookup.get? destinationId).any (takes projectId event.eventType)) missing
    let destination ← demand (visible.insertion.get? destinationId)
      (.integrity "Webhook delivery lineage is invalid")
    let delivery ← boundDelivery destination event destinationId eventId maxAttempts now
    let deliveries ← demand (t.deliveries.insert? deliveryId delivery)
      (.integrity "webhook_delivery_attempts_pkey")
    pure (appendTransition { t with deliveries := deliveries } deliveryId delivery none "ENQUEUED",
      deliveryId)

section Enqueueing
variable {t t' : WebhookTables} {visible : Visible} {projectId destinationId eventId deliveryId id : Uuid}
  {maxAttempts : ℕ} {now : Time}

/-- A new delivery waits for its first attempt under the binding of its destination. -/
theorem boundDelivery_ok {destination : WebhookDestination} {event : Event}
    {delivery : WebhookDeliveryAttempt}
    (h : boundDelivery destination event destinationId eventId maxAttempts now = .ok delivery) :
    delivery.destinationId = destinationId ∧ delivery.status = .pending ∧
      delivery.attemptCount = 0 ∧ delivery.maxAttempts = maxAttempts ∧ delivery.version = 1 := by
  simp only [boundDelivery, bind_ok, pure_ok] at h
  obtain ⟨-, -, rfl⟩ := h
  exact ⟨rfl, rfl, rfl, rfl, rfl⟩

/-- An enqueueing writes nothing, or one delivery under a new key with its first transition. -/
theorem enqueueWebhookDelivery_cases
    (h : enqueueWebhookDelivery t visible projectId destinationId eventId deliveryId maxAttempts now =
      .ok (t', id)) :
    t' = t ∨ ∃ destination event delivery deliveries,
      visible.insertion.get? destinationId = some destination ∧
      boundDelivery destination event destinationId eventId maxAttempts now = .ok delivery ∧
      (1 ≤ maxAttempts ∧ maxAttempts ≤ 8) ∧
      t.deliveries.insert? deliveryId delivery = some deliveries ∧
      t' = appendTransition { t with deliveries := deliveries } deliveryId delivery none "ENQUEUED" := by
  simp only [enqueueWebhookDelivery, bind_ok, require_ok] at h
  obtain ⟨-, hmax, hrest⟩ := h
  split at hrest
  · obtain ⟨rfl, -⟩ := Prod.mk.inj (pure_ok.1 hrest)
    exact .inl rfl
  · simp only [bind_ok, pure_ok, demand_ok] at hrest
    obtain ⟨event, -, -, -, destination, hdestination, delivery, hbound, deliveries, hinsert, hpair⟩ :=
      hrest
    obtain ⟨rfl, -⟩ := Prod.mk.inj hpair
    exact .inr ⟨destination, event, delivery, deliveries, hdestination, hbound, hmax, hinsert, rfl⟩

theorem enqueueWebhookDelivery_ok
    (h : enqueueWebhookDelivery t visible projectId destinationId eventId deliveryId maxAttempts now =
      .ok (t', id)) :
    t'.events = t.events ∧ (t'.deliveries = t.deliveries ∨
      ∃ delivery, delivery.destinationId = destinationId ∧
        t.deliveries.insert? deliveryId delivery = some t'.deliveries) := by
  rcases enqueueWebhookDelivery_cases h with
    rfl | ⟨destination, event, delivery, deliveries, -, hbound, -, hinsert, rfl⟩
  · exact ⟨rfl, .inl rfl⟩
  · exact ⟨rfl, .inr ⟨delivery, (boundDelivery_ok hbound).1, hinsert⟩⟩

end Enqueueing
end RoozDataCloud.WebhookModels
