import RoozDataCloud.WebhookLifecycle
import Mathlib.Logic.Relation

set_option autoImplicit false

/-!
# What an operation on webhooks can write

Each operation is taken apart once, into the few kinds of write it makes together
with what has been checked before. Every invariant is then proved of these
writes and holds of every operation.
-/
namespace RoozDataCloud.WebhookMoves
open KeyedTable ExecutionModels FallibleSteps WebhookModels WebhookLifecycle

/-- What is written over a stored delivery, and under which reason. -/
inductive DeliveryChange (s : Site) (old : WebhookDeliveryAttempt) :
    WebhookDeliveryAttempt → String → Prop
  | expired (now : Time) (h : claimExpired now old = true) :
      DeliveryChange s old (expired now old) "CLAIM_EXPIRED"
  | claimed (tokenDigest workerId : String) (expiresAt : Time)
      (h : old.status = .pending ∨ old.status = .retryWait) :
      DeliveryChange s old (claimed tokenDigest workerId expiresAt old) "CLAIMED"
  | completed (call : CompletionCall) (outcome : DeliveryOutcome) (h : claimHeld call old = true) :
      DeliveryChange s old (completed outcome call old) outcome.code
  | replayed (caller : RunRequests.Caller) (h : old.status = .deadLettered) :
      DeliveryChange s old (replayed s caller old) "MANUAL_REPLAY"

/-- The operation replays a delivery of the destination. -/
def Replays (t : Tables) (op : Op) (id : Uuid) : Prop :=
  ∃ call delivery, op = .replayWebhookDelivery call ∧
    t.webhooks.deliveries.get? call.deliveryId = some delivery ∧ delivery.destinationId = id

/-- A delivery of the destination has succeeded under the endpoint and secret that it has. -/
def HasSucceeded (t : Tables) (id : Uuid) (destination : WebhookDestination) : Prop :=
  ∃ deliveryId delivery, t.webhooks.deliveries.get? deliveryId = some delivery ∧
    delivery.destinationId = id ∧ sameBinding destination delivery = true ∧
    delivery.status = .succeeded

/-- What is written over a stored destination, before the trigger. A rotation is not among these,
since it writes the secret too. -/
inductive DestinationChange (op : Op) (t : Tables) (id : Uuid) (old : WebhookDestination) :
    WebhookDestination → Prop
  | failed (reached : Bool) (h : takesDeliveries old = true) :
      DestinationChange op t id old (countFailure reached old)
  | disabled : DestinationChange op t id old (disabledByOperator old)
  | activated (now : Time) (h : takesDeliveries old = true) (hdelivered : HasSucceeded t id old) :
      DestinationChange op t id old (activated now old)
  | enabled (hop : Replays t op id)
      (hreason : old.disabledReason = none ∨ old.disabledReason = some .autoFailureThreshold) :
      DestinationChange op t id old (enabledAgain old)

def enqueued (t : Tables) (deliveries : Table Uuid WebhookDeliveryAttempt) (id : Uuid)
    (delivery : WebhookDeliveryAttempt) : Tables :=
  { t with
    webhooks := appendTransition { t.webhooks with deliveries := deliveries } id delivery none
      "ENQUEUED" }

inductive Move (s : Site) (op : Op) (t : Tables) : Tables → Prop
  | frame (plane : State) (events : Table Uuid Event) :
      Move s op t { t with plane := plane, webhooks := { t.webhooks with events := events } }
  | create {t' : Tables} (projectId destinationId secretId : Uuid) (name : String)
      (valid : String × List String)
      (h : insertDestination s t projectId destinationId secretId name valid = .ok t') :
      Move s op t t'
  | enqueue {destinationId eventId deliveryId : Uuid} {destination : WebhookDestination}
      {event : Event} {maxAttempts : ℕ} {now : Time} {delivery : WebhookDeliveryAttempt}
      {deliveries : Table Uuid WebhookDeliveryAttempt}
      (hdestination : t.destinations.get? destinationId = some destination)
      (hbound : boundDelivery destination event destinationId eventId maxAttempts now = .ok delivery)
      (hmax : 1 ≤ maxAttempts ∧ maxAttempts ≤ 8)
      (hinsert : t.webhooks.deliveries.insert? deliveryId delivery = some deliveries) :
      Move s op t (enqueued t deliveries deliveryId delivery)
  | deliver {id : Uuid} {old new : WebhookDeliveryAttempt} {reasonCode : String}
      (hget : t.webhooks.deliveries.get? id = some old)
      (hchange : DeliveryChange s old new reasonCode) :
      Move s op t (recordDelivery t id new old.status reasonCode)
  | update {id : Uuid} {old new written : WebhookDestination}
      (hget : t.destinations.get? id = some old) (hchange : DestinationChange op t id old new)
      (hguard : tenancyGuard s t new = .ok written) :
      Move s op t { t with destinations := t.destinations.modify id (fun _ => written) }
  | rotate {call : DestinationCall} {old written : WebhookDestination} {secret : SigningSecret}
      {secrets : Table Uuid SigningSecret} (hop : op = .rotateWebhookSigningSecret call)
      (hget : t.destinations.get? call.destinationId = some old)
      (hcall : old.projectId = call.projectId ∧ old.version = call.expectedVersion)
      (hsecret : t.secrets.get? old.signingSecretId = some secret)
      (hsecrets : secrets = t.secrets.modify old.signingSecretId
        (fun secret => { secret with version := secret.version + 1 }))
      (hguard : tenancyGuard s { t with secrets := secrets } (rotated (secret.version + 1) old) =
        .ok written) :
      Move s op t { t with
        secrets := secrets
        destinations := t.destinations.modify call.destinationId (fun _ => written) }

abbrev Moves (s : Site) (op : Op) : Tables → Tables → Prop := Relation.ReflTransGen (Move s op)

section Writes
variable {s : Site} {op : Op} {t t' : Tables} {w : WebhookTables} {id : Uuid}
  {destination : WebhookDestination} {cond : WebhookDestination → Bool}
  {f : WebhookDestination → WebhookDestination}

theorem DeliveryChange.open {old new : WebhookDeliveryAttempt} {reasonCode : String}
    (h : DeliveryChange s old new reasonCode) : old.status ≠ .succeeded := by
  cases h with
  | expired now h =>
    simp only [claimExpired, Bool.and_eq_true, decide_eq_true_eq] at h
    rw [h.1]
    rintro ⟨⟩
  | claimed tokenDigest workerId expiresAt h =>
    rcases h with h | h <;> rw [h] <;> rintro ⟨⟩
  | completed call outcome h =>
    simp only [claimHeld, Bool.and_eq_true, decide_eq_true_eq] at h
    rw [h.1.1]
    rintro ⟨⟩
  | replayed caller h =>
    rw [h]
    rintro ⟨⟩

theorem tenancyGuard_ok {written : WebhookDestination}
    (h : tenancyGuard s t destination = .ok written) :
    projectAlive t destination.projectId = true ∧
      ∃ secret, t.secrets.get? destination.signingSecretId = some secret ∧
        secret.organizationId = s.organizationOf destination.projectId ∧
        secret.projectId = destination.projectId ∧
        written = { destination with
          organizationId := s.organizationOf destination.projectId
          signingSecretVersion := secret.version } := by
  simp only [tenancyGuard, bind_ok, require_ok, demand_ok, pure_ok, Option.filter_eq_some_iff,
    Bool.and_eq_true, decide_eq_true_eq] at h
  obtain ⟨-, halive, secret, ⟨hget, horganization, hproject⟩, rfl⟩ := h
  exact ⟨halive, secret, hget, horganization, hproject, rfl⟩

theorem updateDestination_ok (h : updateDestination s t id cond f = .ok t') :
    t' = t ∨ ∃ old written, t.destinations.get? id = some old ∧ cond old = true ∧
      tenancyGuard s t (f old) = .ok written ∧
      t' = { t with destinations := t.destinations.modify id (fun _ => written) } := by
  unfold updateDestination at h
  split at h
  · exact .inl (pure_ok.1 h).symm
  next old hsome =>
    simp only [bind_ok, pure_ok] at h
    obtain ⟨written, hguard, rfl⟩ := h
    obtain ⟨hget, hcond⟩ := Option.filter_eq_some_iff.1 hsome
    exact .inr ⟨old, written, hget, hcond, hguard, rfl⟩

theorem updateDestination_webhooks (h : updateDestination s t id cond f = .ok t') :
    t'.webhooks = t.webhooks := by
  rcases updateDestination_ok h with rfl | ⟨_, _, -, -, -, rfl⟩ <;> rfl

theorem update_moves (h : updateDestination s t id cond f = .ok t')
    (hchange : ∀ old, t.destinations.get? id = some old → cond old = true →
      DestinationChange op t id old (f old)) : Moves s op t t' := by
  rcases updateDestination_ok h with rfl | ⟨old, written, hget, hcond, hguard, rfl⟩
  · exact .refl
  · exact .single (.update hget (hchange old hget hcond) hguard)

theorem plane_moves (plane : State) : Moves s op t { t with plane := plane } :=
  .single (.frame plane t.webhooks.events)

theorem enqueue_moves {projectId destinationId eventId deliveryId : Uuid} {maxAttempts : ℕ}
    {now : Time}
    (h : enqueueWebhookDelivery t.webhooks ⟨t.destinations, t.destinations⟩ projectId destinationId
      eventId deliveryId maxAttempts now = .ok (w, id)) :
    Moves s op t { t with webhooks := w } := by
  rcases enqueueWebhookDelivery_cases h with
    rfl | ⟨destination, event, delivery, deliveries, hdestination, hbound, hmax, hinsert, rfl⟩
  · exact .refl
  · exact .single (.enqueue hdestination hbound hmax hinsert)

end Writes

section Destinations
variable {s : Site} {op : Op} {t t' : Tables} {id : Uuid} {call : DestinationCall}

theorem emitEvent_moves {emission : RunCreation.Emission} {subject : Subject}
    (h : emitEvent s t emission subject = .ok (t', ())) : Moves s op t t' := by
  unfold emitEvent at h
  split at h
  next emitted hemit =>
    obtain ⟨rfl, -⟩ := Prod.mk.inj (pure_ok.1 h)
    simp only [RunCreation.emitEvent, SessionSteps.bind_ok, SessionSteps.query_ok,
      SessionSteps.write_ok] at hemit
    obtain ⟨_, _, ⟨-, rfl⟩, _, _, ⟨-, rfl⟩, _, mid, hinsert, hloop⟩ := hemit
    -- the event is written first, then one delivery per destination that takes it
    have hevent : Moves s op t { t with webhooks := mid.webhooks } := by
      simp only [RunCreation.insertEvent, bind_ok, pure_ok] at hinsert
      obtain ⟨-, -, -, -, -, -, events, -, rfl⟩ := hinsert
      exact .single (.frame t.plane events)
    refine SessionSteps.forM_rule (fun st _ => Moves s op t { t with webhooks := st.webhooks })
      (fun st st' item _ hst hround => hst.trans ?_) _ mid emitted hevent hloop
    rw [SessionSteps.write_ok, RunCreation.enqueueFor, bind_ok] at hround
    obtain ⟨⟨webhooks, deliveryId⟩, henqueue, hwritten⟩ := hround
    obtain rfl := pure_ok.1 hwritten
    have hround : Moves s op { t with webhooks := st.webhooks }
        { { t with webhooks := st.webhooks } with webhooks := webhooks } := enqueue_moves henqueue
    exact hround
  next => cases h

theorem createWebhookDestination_moves {caller : RunRequests.Caller}
    {projectId destinationId secretId : Uuid} {payload : CreateWebhookDestinationRequest}
    (h : createWebhookDestination s t caller projectId destinationId secretId payload =
      .ok (t', id)) : Moves s op t t' := by
  simp only [createWebhookDestination, bind_ok] at h
  obtain ⟨-, -, valid, -, found, -, h⟩ := h
  cases found with
  | some known =>
    obtain ⟨rfl, -⟩ := Prod.mk.inj (pure_ok.1 h)
    exact .refl
  | none =>
    simp only [bind_ok, pure_ok] at h
    obtain ⟨mid, hinsert, plane, -, hpair⟩ := h
    obtain ⟨rfl, -⟩ := Prod.mk.inj hpair
    have hcreate : Moves s op t mid :=
      .single (.create projectId destinationId secretId payload.name valid hinsert)
    exact hcreate.trans (plane_moves plane)

theorem lockedDestination_ok {destination : WebhookDestination}
    (h : lockedDestination t call = .ok destination) :
    t.destinations.get? call.destinationId = some destination ∧
      destination.projectId = call.projectId ∧ destination.version = call.expectedVersion := by
  simp only [lockedDestination, bind_ok, demand_ok, require_ok, pure_ok, Option.filter_eq_some_iff,
    decide_eq_true_eq] at h
  obtain ⟨_, ⟨hget, hproject⟩, -, hversion, rfl⟩ := h
  exact ⟨hget, hproject, hversion⟩

theorem rotateWebhookSigningSecret_ok (h : rotateWebhookSigningSecret s t call = .ok (t', ())) :
    ∃ old secret written secrets, t.destinations.get? call.destinationId = some old ∧
      (old.projectId = call.projectId ∧ old.version = call.expectedVersion) ∧
      t.secrets.get? old.signingSecretId = some secret ∧
      secrets = t.secrets.modify old.signingSecretId
        (fun secret => { secret with version := secret.version + 1 }) ∧
      tenancyGuard s { t with secrets := secrets } (rotated (secret.version + 1) old) = .ok written ∧
      t' = { t with
        secrets := secrets
        destinations := t.destinations.modify call.destinationId (fun _ => written) } := by
  simp only [rotateWebhookSigningSecret, bind_ok, demand_ok, pure_ok,
    Option.filter_eq_some_iff] at h
  obtain ⟨old, hlocked, secret, ⟨hsecret, -⟩, _, hupdate, hpair⟩ := h
  obtain ⟨rfl, -⟩ := Prod.mk.inj hpair
  obtain ⟨hget, hcall⟩ := lockedDestination_ok hlocked
  simp only [updateDestination, hget, Option.filter_some, if_true, bind_ok, pure_ok] at hupdate
  obtain ⟨written, hguard, rfl⟩ := hupdate
  exact ⟨old, secret, written, _, hget, hcall, hsecret, rfl, hguard, rfl⟩

theorem rotateWebhookSigningSecret_moves
    (h : rotateWebhookSigningSecret s t call = .ok (t', ())) :
    Moves s (.rotateWebhookSigningSecret call) t t' := by
  obtain ⟨old, secret, written, secrets, hget, hcall, hsecret, hsecrets, hguard, rfl⟩ :=
    rotateWebhookSigningSecret_ok h
  exact .single (.rotate rfl hget hcall hsecret hsecrets hguard)

theorem disableWebhookDestination_moves (h : disableWebhookDestination s t call = .ok (t', ())) :
    Moves s op t t' := by
  simp only [disableWebhookDestination, bind_ok, pure_ok] at h
  obtain ⟨-, -, _, hupdate, hpair⟩ := h
  obtain ⟨rfl, -⟩ := Prod.mk.inj hpair
  exact update_moves hupdate (fun _ _ _ => .disabled)

theorem verifyWebhookDestination_moves {eventId deliveryId : Uuid} {now : Time}
    (h : verifyWebhookDestination t call eventId deliveryId now = .ok (t', id)) :
    Moves s op t t' := by
  simp only [verifyWebhookDestination, bind_ok, pure_ok] at h
  obtain ⟨_, -, -, -, _, -, -, -, ⟨webhooks, id'⟩, henqueue, hpair⟩ := h
  obtain ⟨rfl, -⟩ := Prod.mk.inj hpair
  exact enqueue_moves henqueue

theorem enqueueDelivery_moves {projectId destinationId eventId deliveryId : Uuid} {maxAttempts : ℕ}
    {now : Time}
    (h : enqueueDelivery t projectId destinationId eventId deliveryId maxAttempts now =
      .ok (t', id)) : Moves s op t t' := by
  simp only [enqueueDelivery, bind_ok, pure_ok] at h
  obtain ⟨⟨webhooks, id'⟩, henqueue, hpair⟩ := h
  obtain ⟨rfl, -⟩ := Prod.mk.inj hpair
  exact enqueue_moves henqueue

end Destinations

section Claims
variable {s : Site} {op : Op} {t t' : Tables} {call : ClaimCall} {n : ℕ}
  {candidate : Uuid × WebhookDeliveryAttempt} {candidates : List (Uuid × WebhookDeliveryAttempt)}
  {p : WebhookDeliveryAttempt → Prop}

/-- The candidates of a loop are distinct deliveries, stored as they were selected. -/
structure Selected (p : WebhookDeliveryAttempt → Prop) (t : Tables)
    (candidates : List (Uuid × WebhookDeliveryAttempt)) : Prop where
  nodup : (candidates.map Prod.fst).Nodup
  stored : ∀ candidate ∈ candidates,
    t.webhooks.deliveries.get? candidate.1 = some candidate.2 ∧ p candidate.2

theorem selected_take {q : Uuid → WebhookDeliveryAttempt → Bool}
    {o : Uuid × WebhookDeliveryAttempt → Uuid × WebhookDeliveryAttempt → Prop} [DecidableRel o]
    (hq : ∀ id delivery, q id delivery = true → p delivery) :
    Selected p t (((t.webhooks.deliveries.select q).insertionSort o).take n) where
  nodup := Table.take_sorted_nodup
  stored := fun candidate hmem =>
    let hselected := Table.mem_take_sorted hmem
    ⟨hselected.1, hq candidate.1 candidate.2 hselected.2⟩

def Waiting (delivery : WebhookDeliveryAttempt) : Prop :=
  delivery.status = .pending ∨ delivery.status = .retryWait

theorem claimReady_waiting {now : Time} {delivery : WebhookDeliveryAttempt}
    (h : claimReady t now delivery = true) : Waiting delivery := by
  simp only [claimReady, Bool.and_eq_true, Bool.or_eq_true, decide_eq_true_eq] at h
  exact h.1.1

theorem selected_expiredClaims :
    Selected (fun delivery => claimExpired call.serverNow delivery = true) t
      (expiredClaims t call n) := by
  apply selected_take
  intro id delivery h
  rw [Bool.and_eq_true] at h
  exact h.1

theorem selected_readyDeliveries : Selected Waiting t (readyDeliveries t call n) := by
  apply selected_take
  intro id delivery h
  rw [Bool.and_eq_true] at h
  exact claimReady_waiting h.1

theorem Selected.tail (h : Selected p t (candidate :: candidates)) {delivery : WebhookDeliveryAttempt}
    {fromStatus : DeliveryStatus} {reasonCode : String}
    (hwebhooks : t'.webhooks = (recordDelivery t candidate.1 delivery fromStatus reasonCode).webhooks) :
    Selected p t' candidates := by
  obtain ⟨hfresh, hnodup⟩ := List.nodup_cons.1 h.nodup
  refine ⟨hnodup, fun other hother => ?_⟩
  obtain ⟨hget, hp⟩ := h.stored other (List.mem_cons_of_mem _ hother)
  have hne : other.1 ≠ candidate.1 := fun heq => hfresh (heq ▸ List.mem_map_of_mem hother)
  rw [hwebhooks]
  exact ⟨(Table.get?_modify_ne _ _ hne).trans hget, hp⟩

theorem claimExpired_claimed {now : Time} {delivery : WebhookDeliveryAttempt}
    (h : claimExpired now delivery = true) : delivery.status = .claimed := by
  simp only [claimExpired, Bool.and_eq_true, decide_eq_true_eq] at h
  exact h.1

theorem release_move {now : Time} {id : Uuid} {delivery : WebhookDeliveryAttempt}
    (hget : t.webhooks.deliveries.get? id = some delivery)
    (h : claimExpired now delivery = true) :
    Move s op t (recordDelivery t id (expired now delivery) .claimed "CLAIM_EXPIRED") := by
  have hmove : Move s op t (recordDelivery t id (expired now delivery) delivery.status
      "CLAIM_EXPIRED") := .deliver hget (.expired now h)
  rwa [claimExpired_claimed h] at hmove

theorem claim_move (hget : t.webhooks.deliveries.get? candidate.1 = some candidate.2)
    (h : Waiting candidate.2) : Move s op t (claimReadyDelivery s call t candidate) :=
  .deliver hget (.claimed _ _ _ h)

theorem expireClaim_moves (h : Selected (fun delivery => claimExpired call.serverNow delivery = true)
      t (candidate :: candidates)) (hrun : expireClaim s call.serverNow t candidate = .ok t') :
    Moves s op t t' ∧
      Selected (fun delivery => claimExpired call.serverNow delivery = true) t' candidates := by
  obtain ⟨hget, hexpired⟩ := h.stored candidate List.mem_cons_self
  have hrelease : Moves s op t (recordDelivery t candidate.1 (expired call.serverNow candidate.2)
      .claimed "CLAIM_EXPIRED") := .single (release_move hget hexpired)
  unfold expireClaim at hrun
  dsimp only at hrun
  split_ifs at hrun
  · have hfail : Moves s op _ t' := update_moves hrun (fun _ _ hcond => .failed _ hcond)
    exact ⟨hrelease.trans hfail, h.tail (updateDestination_webhooks hrun)⟩
  · obtain rfl := pure_ok.1 hrun
    exact ⟨hrelease, h.tail rfl⟩

theorem claimReadyDeliveries_moves (h : Selected Waiting t candidates) :
    Moves s op t (candidates.foldl (claimReadyDelivery s call) t) := by
  induction candidates generalizing t with
  | nil => exact .refl
  | cons candidate rest ih =>
    obtain ⟨hget, hwaiting⟩ := h.stored candidate List.mem_cons_self
    have hfirst : Moves s op t (claimReadyDelivery s call t candidate) :=
      .single (claim_move hget hwaiting)
    exact hfirst.trans (ih (h.tail rfl))

theorem claimWebhookDeliveryCanary_moves {now : Option Time} {claims : List ClaimedDelivery}
    (h : claimWebhookDeliveryCanary s t now n call = .ok (t', claims)) : Moves s op t t' := by
  simp only [claimWebhookDeliveryCanary, bind_ok, pure_ok] at h
  obtain ⟨-, -, -, -, mid, hloop, hpair⟩ := h
  obtain ⟨rfl, -⟩ := Prod.mk.inj hpair
  have hmid := foldlM_rule (fun st rest => Moves s op t st ∧
      Selected (fun delivery => claimExpired call.serverNow delivery = true) st rest)
    (fun st st' candidate rest hst hround =>
      let hnext := expireClaim_moves hst.2 hround
      ⟨hst.1.trans hnext.1, hnext.2⟩)
    (expiredClaims t call n) t mid ⟨.refl, selected_expiredClaims⟩ hloop
  exact hmid.1.trans (claimReadyDeliveries_moves selected_readyDeliveries)

theorem claimCandidate_some {projectId id : Uuid} {delivery : WebhookDeliveryAttempt}
    (h : claimCandidate t call projectId = some (id, delivery)) :
    t.webhooks.deliveries.get? id = some delivery ∧
      (Waiting delivery ∨ claimExpired call.serverNow delivery = true) := by
  have hmem := List.mem_of_mem_head? h
  rw [List.mem_insertionSort, Table.mem_select] at hmem
  simp only [Bool.and_eq_true, Bool.or_eq_true] at hmem
  obtain ⟨hget, ⟨-, hready | hexpired⟩, -⟩ := hmem
  · exact ⟨hget, .inl (claimReady_waiting hready)⟩
  · exact ⟨hget, .inr hexpired.1⟩

theorem Waiting.unclaimed {delivery : WebhookDeliveryAttempt} (h : Waiting delivery) :
    delivery.status ≠ .claimed := by
  rcases h with h | h <;> rw [h] <;> exact nofun

theorem claimWebhookDelivery_moves {projectId : Uuid} {claim : Option ClaimedDelivery}
    (h : claimWebhookDelivery s t projectId call = .ok (t', claim)) : Moves s op t t' := by
  simp only [claimWebhookDelivery, bind_ok] at h
  obtain ⟨-, -, h⟩ := h
  split at h
  · obtain ⟨rfl, -⟩ := Prod.mk.inj (pure_ok.1 h)
    exact .refl
  next id delivery hcandidate =>
    obtain ⟨hget, hstate⟩ := claimCandidate_some hcandidate
    split_ifs at h with hclaimed hdead
    · have hexpired := hstate.resolve_left (fun hwaiting => hwaiting.unclaimed hclaimed)
      simp only [bind_ok, pure_ok] at h
      obtain ⟨_, hupdate, hpair⟩ := h
      obtain ⟨rfl, -⟩ := Prod.mk.inj hpair
      refine Relation.ReflTransGen.head (release_move hget hexpired) ?_
      refine update_moves hupdate (fun old _ hcond => .failed _ ?_)
      rw [decide_eq_true_eq] at hcond
      cases hstatus : old.status <;> simp_all [takesDeliveries]
    · have hexpired := hstate.resolve_left (fun hwaiting => hwaiting.unclaimed hclaimed)
      obtain ⟨rfl, -⟩ := Prod.mk.inj (pure_ok.1 h)
      refine Relation.ReflTransGen.head (release_move hget hexpired) (.single (claim_move ?_ (.inr ?_)))
      · exact (Table.get?_modify_self _ _ _).trans (by rw [hget]; rfl)
      · simp only [expired] at hdead ⊢
        split_ifs at hdead ⊢
        · exact absurd rfl hdead
        · rfl
    · obtain ⟨rfl, -⟩ := Prod.mk.inj (pure_ok.1 h)
      refine .single (claim_move hget (hstate.resolve_right (fun hexpired => ?_)))
      exact hclaimed (claimExpired_claimed hexpired)

end Claims

section Completions
variable {s : Site} {op : Op} {t t' : Tables} {outcome : DeliveryOutcome}
  {destination : WebhookDestination} {secret : SigningSecret} {delivery : WebhookDeliveryAttempt}

theorem claimHeld_claimed {call : CompletionCall} (h : claimHeld call delivery = true) :
    delivery.status = .claimed := by
  simp only [claimHeld, Bool.and_eq_true, decide_eq_true_eq] at h
  exact h.1.1

theorem finalOutcome_delivered (h : finalOutcome outcome secret destination delivery = .delivered) :
    takesDeliveries destination = true ∧ sameBinding destination delivery = true := by
  unfold finalOutcome at h
  split_ifs at h with hcurrent
  exact hcurrent.2

theorem settleCompletion_moves {call : CompletionCall} {result : Option Completion}
    (hget : t.webhooks.deliveries.get? call.deliveryId = some delivery)
    (hheld : claimHeld call delivery = true)
    (hdestination : t.destinations.get? delivery.destinationId = some destination)
    (hcurrent : outcome = .delivered →
      takesDeliveries destination = true ∧ sameBinding destination delivery = true)
    (h : settleCompletion s t call outcome delivery = .ok (t', result)) : Moves s op t t' := by
  simp only [settleCompletion, bind_ok, pure_ok] at h
  obtain ⟨_, hupdate, hpair⟩ := h
  obtain ⟨rfl, -⟩ := Prod.mk.inj hpair
  have hrecord : Move s op t (recordDelivery t call.deliveryId (completed outcome call delivery)
      delivery.status outcome.code) := .deliver hget (.completed call outcome hheld)
  rw [claimHeld_claimed hheld] at hrecord
  refine Relation.ReflTransGen.head hrecord ?_
  unfold settleDestination at hupdate
  split_ifs at hupdate with hdelivered
  · refine update_moves hupdate (fun old hold _ => ?_)
    obtain rfl : old = destination := Option.some.inj (hold.symm.trans hdestination)
    obtain ⟨htakes, hbinding⟩ := hcurrent hdelivered
    refine .activated _ htakes
      ⟨call.deliveryId, completed outcome call delivery, ?_, rfl, hbinding, ?_⟩
    · exact (Table.get?_modify_self _ _ _).trans (by rw [hget]; rfl)
    · simp only [completed, nextStatus, if_pos hdelivered]
  · exact update_moves hupdate (fun _ _ hcond => .failed _ hcond)
  · obtain rfl := pure_ok.1 hupdate
    exact .refl

theorem completeWebhookDeliveryCanary_moves {call : CompletionCall} {result : Option Completion}
    (h : completeWebhookDeliveryCanary s t call = .ok (t', result)) : Moves s op t t' := by
  simp only [completeWebhookDeliveryCanary, bind_ok] at h
  obtain ⟨-, -, h⟩ := h
  split_ifs at h
  · simp only [bind_ok] at h
    obtain ⟨outcome, -, -, -, h⟩ := h
    split at h
    · obtain ⟨rfl, -⟩ := Prod.mk.inj (pure_ok.1 h)
      exact .refl
    next delivery hfound =>
      obtain ⟨hget, hheld⟩ := Option.filter_eq_some_iff.1 hfound
      split at h
      next destination secret hdestination hsecret =>
        exact settleCompletion_moves hget hheld hdestination finalOutcome_delivered h
      · obtain ⟨rfl, -⟩ := Prod.mk.inj (pure_ok.1 h)
        exact .refl
  · obtain ⟨rfl, -⟩ := Prod.mk.inj (pure_ok.1 h)
    exact .refl

theorem replayWebhookDelivery_ok {call : ReplayCall} {id : Uuid}
    (h : replayWebhookDelivery s t call = .ok (t', id)) :
    t' = t ∨ ∃ delivery mid, t.webhooks.deliveries.get? call.deliveryId = some delivery ∧
      delivery.lastReplayKeyDigest ≠ some (s.sha256 call.caller.idempotencyKey) ∧
      delivery.version = call.expectedVersion ∧ delivery.status = .deadLettered ∧
      (t.destinations.get? delivery.destinationId).any (replayAllowed delivery) = true ∧
      updateDestination s t delivery.destinationId (·.status = .disabled) enabledAgain = .ok mid ∧
      t' = recordDelivery mid call.deliveryId (replayed s call.caller delivery) delivery.status
        "MANUAL_REPLAY" := by
  simp only [replayWebhookDelivery, bind_ok, demand_ok, Option.filter_eq_some_iff] at h
  obtain ⟨-, -, delivery, ⟨hget, -⟩, h⟩ := h
  split_ifs at h with hreplayed
  · obtain ⟨rfl, -⟩ := Prod.mk.inj (pure_ok.1 h)
    exact .inl rfl
  · simp only [bind_ok, require_ok, pure_ok] at h
    obtain ⟨-, hversion, -, hdead, -, hallowed, mid, hupdate, hpair⟩ := h
    obtain ⟨rfl, -⟩ := Prod.mk.inj hpair
    exact .inr ⟨delivery, mid, hget, hreplayed, hversion, hdead, hallowed, hupdate, rfl⟩

theorem replayWebhookDelivery_moves {call : ReplayCall} {id : Uuid}
    (h : replayWebhookDelivery s t call = .ok (t', id)) :
    Moves s (.replayWebhookDelivery call) t t' := by
  rcases replayWebhookDelivery_ok h with
    rfl | ⟨delivery, mid, hget, -, -, hdead, hallowed, hupdate, rfl⟩
  · exact .refl
  · have henable : Moves s (.replayWebhookDelivery call) t mid := by
      refine update_moves hupdate (fun old hold _ => .enabled ⟨call, delivery, rfl, hget, rfl⟩ ?_)
      rw [hold, Option.any_some] at hallowed
      simp only [replayAllowed, Bool.and_eq_true, Bool.or_eq_true, decide_eq_true_eq] at hallowed
      exact hallowed.1
    have hstored : mid.webhooks.deliveries.get? call.deliveryId = some delivery := by
      rw [updateDestination_webhooks hupdate]
      exact hget
    exact henable.tail (.deliver hstored (.replayed call.caller hdead))

end Completions

theorem step_moves (s : Site) (t : Tables) (op : Op) : Moves s op t (step s t op) := by
  cases op with
  | elsewhere plane => exact plane_moves plane
  | emitEvent emission subject => exact commit_cases .refl (fun _ _ h => emitEvent_moves h)
  | createWebhookDestination caller projectId destinationId secretId payload =>
    exact commit_cases .refl (fun _ _ h => createWebhookDestination_moves h)
  | verifyWebhookDestination call eventId deliveryId now =>
    exact commit_cases .refl (fun _ _ h => verifyWebhookDestination_moves h)
  | rotateWebhookSigningSecret call =>
    exact commit_cases .refl (fun _ _ h => rotateWebhookSigningSecret_moves h)
  | disableWebhookDestination call =>
    exact commit_cases .refl (fun _ _ h => disableWebhookDestination_moves h)
  | enqueueWebhookDelivery projectId destinationId eventId deliveryId maxAttempts now =>
    exact commit_cases .refl (fun _ _ h => enqueueDelivery_moves h)
  | claimWebhookDeliveryCanary now batchSize call =>
    exact commit_cases .refl (fun _ _ h => claimWebhookDeliveryCanary_moves h)
  | claimWebhookDelivery projectId call =>
    exact commit_cases .refl (fun _ _ h => claimWebhookDelivery_moves h)
  | completeWebhookDeliveryCanary call =>
    exact commit_cases .refl (fun _ _ h => completeWebhookDeliveryCanary_moves h)
  | replayWebhookDelivery call =>
    exact commit_cases .refl (fun _ _ h => replayWebhookDelivery_moves h)

theorem Moves.keeps {P : Tables → Prop} {s : Site} {op : Op} {t t' : Tables} (h : Moves s op t t')
    (hmove : ∀ t t', P t → Move s op t t' → P t') (ht : P t) : P t' := by
  induction h with
  | refl => exact ht
  | tail _ hlast ih => exact hmove _ _ ih hlast

theorem after_append (s : Site) (plane : State) (before later : List Op) :
    after s plane (before ++ later) = exec (step s) (after s plane before) later :=
  exec_append (step s) (opening plane) before later

theorem after_snoc (s : Site) (plane : State) (before : List Op) (op : Op) :
    after s plane (before ++ [op]) = step s (after s plane before) op :=
  after_append s plane before [op]

/-- What every move keeps, once it holds, holds in every later state. -/
theorem later_invariant {P : Tables → Prop} (s : Site) (plane : State) (before later : List Op)
    (h : P (after s plane before)) (hmove : ∀ op t t', P t → Move s op t t' → P t') :
    P (after s plane (before ++ later)) := by
  rw [after_append]
  exact exec_invariant (step s) (fun t op ht => Moves.keeps (step_moves s t op) (hmove op) ht) later
    _ h

/-- What every move keeps holds in every state that is reached. -/
theorem after_invariant {P : Tables → Prop} (s : Site) (plane : State) (ops : List Op)
    (hopening : P (opening plane)) (hmove : ∀ op t t', P t → Move s op t t' → P t') :
    P (after s plane ops) :=
  later_invariant s plane [] ops hopening hmove

end RoozDataCloud.WebhookMoves
