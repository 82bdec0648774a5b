import RoozDataCloud.WebhookMoves

set_option autoImplicit false

/-!
# What an active webhook destination rests on

A destination is verified by a delivery that succeeded under its endpoint and
the version of its signing secret. A rotation takes the verification back with
the version, and deliveries that succeeded are never written again.
-/
namespace RoozDataCloud.WebhookActivation
open KeyedTable ExecutionModels FallibleSteps WebhookModels WebhookLifecycle WebhookMoves

/-- The delivery was enqueued for the destination under the binding that it has now. -/
def BoundTo (delivery : WebhookDeliveryAttempt) (id : Uuid) (destination : WebhookDestination) : Prop :=
  delivery.destinationId = id ∧ delivery.endpointUrl = destination.endpointUrl ∧
    delivery.signingSecretId = destination.signingSecretId ∧
    delivery.signingSecretVersion = destination.signingSecretVersion

def Backed (w : WebhookTables) (id : Uuid) (destination : WebhookDestination) : Prop :=
  ∃ deliveryId delivery, w.deliveries.get? deliveryId = some delivery ∧
    BoundTo delivery id destination ∧ delivery.status = .succeeded

/-- The CHECK constraints of the table. -/
structure Checks (destination : WebhookDestination) : Prop where
  activation : destination.status = .active → destination.verifiedAt ≠ none
  threshold : 1 ≤ destination.failureThreshold ∧ destination.failureThreshold ≤ 8
  failures : destination.consecutiveFailureCount ≤ destination.failureThreshold
  disabledReason : destination.status = .disabled ↔ destination.disabledReason ≠ none

/-- The destination fits the rows it refers to. -/
structure Fit (secrets : Table Uuid SigningSecret) (w : WebhookTables) (id : Uuid)
    (destination : WebhookDestination) : Prop where
  checks : Checks destination
  secret : ∃ secret, secrets.get? destination.signingSecretId = some secret ∧
    secret.version = destination.signingSecretVersion
  backed : destination.verifiedAt ≠ none → Backed w id destination

/-- No two destinations sign with one secret. -/
def Owned (destinations : Table Uuid WebhookDestination) : Prop :=
  ∀ id id' destination destination', destinations.get? id = some destination →
    destinations.get? id' = some destination' →
    destination.signingSecretId = destination'.signingSecretId → id = id'

structure Sound (t : Tables) : Prop where
  fit : ∀ id destination, t.destinations.get? id = some destination →
    Fit t.secrets t.webhooks id destination
  owned : Owned t.destinations

section Rows
variable {destination : WebhookDestination} {reached : Bool} {now : Time} {n : ℕ}

theorem Checks.countFailure (h : Checks destination) : Checks (countFailure reached destination) := by
  cases reached with
  | false => exact ⟨h.activation, h.threshold, min_le_left _ _, h.disabledReason⟩
  | true => exact ⟨nofun, h.threshold, min_le_left _ _, fun _ => nofun, fun _ => rfl⟩

theorem Checks.disabledByOperator (h : Checks destination) :
    Checks (disabledByOperator destination) :=
  ⟨nofun, h.threshold, h.failures, fun _ => nofun, fun _ => rfl⟩

theorem Checks.rotated (h : Checks destination) : Checks (rotated n destination) :=
  ⟨nofun, h.threshold, Nat.zero_le _, nofun, fun hreason => (hreason rfl).elim⟩

theorem Checks.activated (h : Checks destination) : Checks (activated now destination) :=
  ⟨fun _ => nofun, h.threshold, Nat.zero_le _, nofun, fun hreason => (hreason rfl).elim⟩

theorem Checks.enabledAgain (h : Checks destination) : Checks (enabledAgain destination) := by
  obtain ⟨verifiedAt, hverified⟩ : ∃ verifiedAt, destination.verifiedAt = verifiedAt := ⟨_, rfl⟩
  refine ⟨?_, h.threshold, Nat.zero_le _, ?_⟩ <;>
    simp only [WebhookLifecycle.enabledAgain, hverified] <;> cases verifiedAt <;> simp

end Rows

section Frames
variable {s : Site} {t t' : Tables} {w w' : WebhookTables} {id : Uuid}
  {destination : WebhookDestination} {delivery old : WebhookDeliveryAttempt}
  {fromStatus : DeliveryStatus} {reasonCode : String}
  {cond : WebhookDestination → Bool} {f : WebhookDestination → WebhookDestination}

/-- Deliveries that have succeeded stay as they are. -/
def KeepsSucceeded (w w' : WebhookTables) : Prop :=
  ∀ id delivery, w.deliveries.get? id = some delivery → delivery.status = .succeeded →
    w'.deliveries.get? id = some delivery

theorem KeepsSucceeded.of_eq (h : w'.deliveries = w.deliveries) : KeepsSucceeded w w' :=
  fun _ _ hget _ => h ▸ hget

theorem KeepsSucceeded.backed (h : KeepsSucceeded w w') (hbacked : Backed w id destination) :
    Backed w' id destination := by
  obtain ⟨deliveryId, delivery, hget, hbound, hdone⟩ := hbacked
  exact ⟨deliveryId, delivery, h deliveryId delivery hget hdone, hbound, hdone⟩

theorem Sound.webhooks (h : Sound t) (hkeeps : KeepsSucceeded t.webhooks w) :
    Sound { t with webhooks := w } where
  fit := fun id destination hget =>
    let hfit := h.fit id destination hget
    ⟨hfit.checks, hfit.secret, fun hverified => hkeeps.backed (hfit.backed hverified)⟩
  owned := h.owned

theorem recordDelivery_keeps (hget : t.webhooks.deliveries.get? id = some old)
    (hopen : old.status ≠ .succeeded) :
    KeepsSucceeded t.webhooks (recordDelivery t id delivery fromStatus reasonCode).webhooks := by
  intro id' delivery' hget' hdone
  have hne : id' ≠ id := by
    rintro rfl
    rw [hget, Option.some.injEq] at hget'
    exact hopen (hget' ▸ hdone)
  exact (Table.get?_modify_ne _ _ hne).trans hget'

theorem Owned.modify {destinations : Table Uuid WebhookDestination} {written : WebhookDestination}
    (h : Owned destinations) (hget : destinations.get? id = some destination)
    (hsecret : written.signingSecretId = destination.signingSecretId) :
    Owned (destinations.modify id (fun _ => written)) := by
  -- every row of the new table signs with the secret that the old row under its key had
  have hold : ∀ id' row', (destinations.modify id (fun _ => written)).get? id' = some row' →
      ∃ row, destinations.get? id' = some row ∧ row.signingSecretId = row'.signingSecretId := by
    intro id' row' hrow
    rw [Table.get?_modify] at hrow
    split_ifs at hrow with hid
    · subst hid
      rw [hget, Option.map_some, Option.some.injEq] at hrow
      exact ⟨destination, hget, hrow ▸ hsecret.symm⟩
    · exact ⟨row', hrow, rfl⟩
  intro id₁ id₂ row₁ row₂ h₁ h₂ hsame
  obtain ⟨old₁, hold₁, hs₁⟩ := hold id₁ row₁ h₁
  obtain ⟨old₂, hold₂, hs₂⟩ := hold id₂ row₂ h₂
  exact h id₁ id₂ old₁ old₂ hold₁ hold₂ (hs₁.trans (hsame.trans hs₂.symm))

/-- A write over a destination keeps the tables sound when all other destinations fit and the new
row fits as the statement computes it. The version that the trigger stores is then the same. -/
theorem Sound.of_write {new written : WebhookDestination} (howned : Owned t.destinations)
    (hget : t.destinations.get? id = some destination)
    (hothers : ∀ id' other, id' ≠ id → t.destinations.get? id' = some other →
      Fit t.secrets t.webhooks id' other)
    (hsecret : new.signingSecretId = destination.signingSecretId)
    (hfit : Fit t.secrets t.webhooks id new) (hguard : tenancyGuard s t new = .ok written) :
    Sound { t with destinations := t.destinations.modify id (fun _ => written) } := by
  obtain ⟨-, secret, hstored, -, -, rfl⟩ := tenancyGuard_ok hguard
  obtain ⟨secret', hstored', hversion⟩ := hfit.secret
  obtain rfl : secret = secret' := Option.some.inj (hstored.symm.trans hstored')
  rw [hversion]
  refine ⟨fun id' destination' hget' => ?_, howned.modify hget hsecret⟩
  rw [Table.get?_modify] at hget'
  split_ifs at hget' with hid
  · subst hid
    rw [hget, Option.map_some, Option.some.injEq] at hget'
    subst hget'
    exact ⟨⟨hfit.checks.activation, hfit.checks.threshold, hfit.checks.failures,
      hfit.checks.disabledReason⟩, hfit.secret, hfit.backed⟩
  · exact hothers id' destination' hid hget'

end Frames

section Moves
variable {s : Site} {op : Op} {t t' : Tables} {id : Uuid} {destination new : WebhookDestination}

theorem sameBinding_boundTo {delivery : WebhookDeliveryAttempt}
    (h : sameBinding destination delivery = true) :
    BoundTo delivery delivery.destinationId destination := by
  simp only [sameBinding, Bool.and_eq_true, decide_eq_true_eq] at h
  exact ⟨rfl, h.1.1.symm, h.1.2.symm, h.2.symm⟩

theorem Fit.change (h : Fit t.secrets t.webhooks id destination)
    (hchange : DestinationChange op t id destination new) :
    Fit t.secrets t.webhooks id new ∧ new.signingSecretId = destination.signingSecretId := by
  cases hchange with
  | failed reached => exact ⟨⟨h.checks.countFailure, h.secret, h.backed⟩, rfl⟩
  | disabled => exact ⟨⟨h.checks.disabledByOperator, h.secret, h.backed⟩, rfl⟩
  | activated now htakes hdelivered =>
    obtain ⟨deliveryId, delivery, hget, rfl, hbinding, hdone⟩ := hdelivered
    exact ⟨⟨h.checks.activated, h.secret,
      fun _ => ⟨deliveryId, delivery, hget, sameBinding_boundTo hbinding, hdone⟩⟩, rfl⟩
  | enabled => exact ⟨⟨h.checks.enabledAgain, h.secret, h.backed⟩, rfl⟩

theorem Sound.create {projectId destinationId secretId : Uuid} {name : String}
    {valid : String × List String} (h : Sound t)
    (hinsert : insertDestination s t projectId destinationId secretId name valid = .ok t') :
    Sound t' := by
  simp only [insertDestination, bind_ok, pure_ok, demand_ok] at hinsert
  obtain ⟨-, -, secrets, hsecrets, written, hguard, destinations, hrow, rfl⟩ := hinsert
  obtain ⟨-, secret, hstored, -, -, rfl⟩ := tenancyGuard_ok hguard
  have hfresh : ∀ id' destination', t.destinations.get? id' = some destination' →
      destination'.signingSecretId ≠ secretId := by
    intro id' destination' hget heq
    obtain ⟨secret', hget', -⟩ := (h.fit id' destination' hget).secret
    rw [heq, Table.insert_fresh hsecrets] at hget'
    cases hget'
  refine ⟨fun id' destination' hget => ?_, fun id₁ id₂ row₁ row₂ h₁ h₂ hsame => ?_⟩
  · rw [Table.get?_insert hrow] at hget
    split_ifs at hget with hid
    · obtain rfl := Option.some.inj hget
      refine ⟨⟨nofun, ⟨by simp [newDestination], by simp [newDestination]⟩, Nat.zero_le _, nofun,
        fun hreason => (hreason rfl).elim⟩, ⟨secret, hstored, rfl⟩,
        fun hverified => (hverified rfl).elim⟩
    · have hfit := h.fit id' destination' hget
      obtain ⟨secret', hget', hversion⟩ := hfit.secret
      exact ⟨hfit.checks, ⟨secret', Table.get?_insert_old hsecrets hget', hversion⟩, hfit.backed⟩
  · rw [Table.get?_insert hrow] at h₁ h₂
    split_ifs at h₁ h₂ with hid₁ hid₂ hid₂
    · rw [hid₁, hid₂]
    · obtain rfl := Option.some.inj h₁
      exact absurd hsame.symm (hfresh id₂ row₂ h₂)
    · obtain rfl := Option.some.inj h₂
      exact absurd hsame (hfresh id₁ row₁ h₁)
    · exact h.owned id₁ id₂ row₁ row₂ h₁ h₂ hsame

theorem Sound.rotate {secret : SigningSecret} {written : WebhookDestination}
    {secrets : Table Uuid SigningSecret} (h : Sound t)
    (hget : t.destinations.get? id = some destination)
    (hsecret : t.secrets.get? destination.signingSecretId = some secret)
    (hsecrets : secrets = t.secrets.modify destination.signingSecretId
      (fun secret => { secret with version := secret.version + 1 }))
    (hguard : tenancyGuard s { t with secrets := secrets } (rotated (secret.version + 1) destination) =
      .ok written) :
    Sound { t with
      secrets := secrets
      destinations := t.destinations.modify id (fun _ => written) } := by
  have hnew : secrets.get? destination.signingSecretId =
      some { secret with version := secret.version + 1 } := by
    rw [hsecrets, Table.get?_modify_self, hsecret, Option.map_some]
  have hfit : Fit secrets t.webhooks id (rotated (secret.version + 1) destination) :=
    ⟨(h.fit id destination hget).checks.rotated, ⟨_, hnew, rfl⟩,
      fun hverified => (hverified rfl).elim⟩
  have hothers : ∀ id' other, id' ≠ id → t.destinations.get? id' = some other →
      Fit secrets t.webhooks id' other := by
    intro id' other hne hother
    have hold := h.fit id' other hother
    obtain ⟨secret', hstored, hversion⟩ := hold.secret
    have hsecretNe : other.signingSecretId ≠ destination.signingSecretId := fun heq =>
      hne (h.owned id' id other destination hother hget heq)
    refine ⟨hold.checks, ⟨secret', ?_, hversion⟩, hold.backed⟩
    rw [hsecrets, Table.get?_modify_ne _ _ hsecretNe]
    exact hstored
  have hsame : (rotated (secret.version + 1) destination).signingSecretId =
      destination.signingSecretId := rfl
  exact Sound.of_write (t := { t with secrets := secrets }) h.owned hget hothers hsame hfit hguard

theorem keepsSucceeded_move (hmove : Move s op t t') : KeepsSucceeded t.webhooks t'.webhooks := by
  cases hmove with
  | frame plane events => exact .of_eq rfl
  | create projectId destinationId secretId name valid hinsert =>
    simp only [insertDestination, bind_ok, pure_ok, demand_ok] at hinsert
    obtain ⟨-, -, secrets, -, written, -, destinations, -, rfl⟩ := hinsert
    exact .of_eq rfl
  | enqueue hdestination hbound hmax hinsert =>
    exact fun _ _ hget _ => Table.get?_insert_old hinsert hget
  | deliver hget hchange => exact recordDelivery_keeps hget hchange.open
  | update hget hchange hguard => exact .of_eq rfl
  | rotate hop hget hcall hsecret hsecrets hguard => exact .of_eq rfl

theorem sound_move (h : Sound t) (hmove : Move s op t t') : Sound t' := by
  have hkeeps := keepsSucceeded_move hmove
  cases hmove with
  | frame plane events =>
    have hevents : Sound { t with webhooks := { t.webhooks with events := events } } :=
      h.webhooks (.of_eq rfl)
    exact ⟨hevents.fit, hevents.owned⟩
  | create projectId destinationId secretId name valid hinsert => exact h.create hinsert
  | enqueue hdestination hbound hmax hinsert =>
    exact h.webhooks hkeeps
  | deliver hget hchange => exact h.webhooks hkeeps
  | update hget hchange hguard =>
    obtain ⟨hfit, hsecret⟩ := (h.fit _ _ hget).change hchange
    exact Sound.of_write h.owned hget (fun id' other _ => h.fit id' other) hsecret hfit hguard
  | rotate hop hget hcall hsecret hsecrets hguard => exact h.rotate hget hsecret hsecrets hguard

end Moves

theorem sound_after (s : Site) (plane : State) (ops : List Op) : Sound (after s plane ops) :=
  after_invariant s plane ops
    ⟨fun _ _ hget => (nomatch hget), fun _ _ _ _ hget => (nomatch hget)⟩
    (fun _ _ _ => sound_move)

/-- In every reachable state a destination is active only on a delivery that succeeded under its
present binding, its failures stay within the threshold, and it is disabled for a reason. -/
theorem activation_sound (s : Site) (plane : State) (ops : List Op) (id : Uuid)
    (destination : WebhookDestination)
    (h : (after s plane ops).destinations.get? id = some destination) :
    (destination.status = .active → ∃ deliveryId delivery,
      (after s plane ops).webhooks.deliveries.get? deliveryId = some delivery ∧
        BoundTo delivery id destination ∧ delivery.status = .succeeded) ∧
    destination.consecutiveFailureCount ≤ destination.failureThreshold ∧
    (destination.status = .disabled ↔ destination.disabledReason ≠ none) := by
  have hfit := (sound_after s plane ops).fit id destination h
  refine ⟨fun hactive => ?_, hfit.checks.failures, hfit.checks.disabledReason⟩
  exact hfit.backed (hfit.checks.activation hactive)
/-- One project, and nothing else in the control plane. -/
def oneProject : State where
  directory :=
    { projects := ⟨[(1, { status := .active, deletedAt := none, maxActiveLeases := 4 })],
        show ([1] : List Uuid).Nodup by decide⟩
      workers := Table.empty
      agents := Table.empty
      agentVersions := Table.empty
      storageObjects := Table.empty
      egressPolicies := Table.empty
      egressRevisions := Table.empty
      projectSecrets := Table.empty }
  builds := Table.empty
  runs := Table.empty
  outbox := Table.empty
  leases := Table.empty
  grants := Table.empty
  artifacts := Table.empty
  idempotency := Table.empty

def plainSite : Site where
  toDeployment := plainDeployment
  organizationOf := fun _ => 1
  validateWebhookDestination := fun endpointUrl eventTypes => .ok (endpointUrl, eventTypes)

def sampleToken : String := "0123456789abcdef0123456789abcdef0123456789abcdef0123456789abcdef"

def sampleEmission : RunCreation.Emission where
  requestId := "request"
  alnum := Char.isAlphanum
  now := 0
  eventId := 10
  deliveryId := fun _ => 11
  listed := Table.empty
  visible := fun _ => ⟨Table.empty, Table.empty⟩

def sampleSubject : Subject where
  projectId := 1
  eventType := "run.created"
  subjectType := "run"
  subjectId := 5
  payload := [("agent_id", .uuid 1), ("agent_version_id", .uuid 1), ("build_id", .uuid 1),
    ("status", .text "QUEUED")]

def sampleClaim (now : Time) : ClaimCall where
  serverNow := now
  claimSeconds := 30
  workerId := "worker"
  rawToken := fun _ => sampleToken
  locked := fun _ => false

def delivered (deliveryId : Uuid) (now : Time) : CompletionCall where
  deliveryId := deliveryId
  claimTokenDigest := sampleToken
  outcome := "DELIVERED"
  httpStatus := some 200
  now := some now
  serverNow := now

/-- A destination is created and verified by the delivery of an event. -/
def verifiedRun : List Op :=
  [ .emitEvent sampleEmission sampleSubject,
    .createWebhookDestination { userId := 1, idempotencyKey := "destination", now := 0 } 1 7 8
      { name := "hook", endpointUrl := "endpoint", eventTypes := ["run.created"]
        signingSecret := "secret" },
    .verifyWebhookDestination { projectId := 1, destinationId := 7, expectedVersion := 1 } 10 20 0,
    .claimWebhookDeliveryCanary (some 1) 1 (sampleClaim 1),
    .completeWebhookDeliveryCanary (delivered 20 2) ]

set_option maxRecDepth 8000 in
theorem verifiedRun_active :
    ((after plainSite oneProject verifiedRun).destinations.get? 7).map (·.status) = some .active := by
  decide +kernel

theorem verified_destination_backed :
    ∃ destination, (after plainSite oneProject verifiedRun).destinations.get? 7 = some destination ∧
      destination.status = .active ∧
      ∃ deliveryId delivery,
        (after plainSite oneProject verifiedRun).webhooks.deliveries.get? deliveryId = some delivery ∧
          BoundTo delivery 7 destination ∧ delivery.status = .succeeded := by
  obtain ⟨destination, hget, hactive⟩ := Option.map_eq_some_iff.1 verifiedRun_active
  exact ⟨destination, hget, hactive,
    (activation_sound plainSite oneProject verifiedRun 7 destination hget).1 hactive⟩

end RoozDataCloud.WebhookActivation
