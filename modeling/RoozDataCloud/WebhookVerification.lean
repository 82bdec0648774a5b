import RoozDataCloud.WebhookDeliveries
import RoozDataCloud.WebhookDisabling

set_option autoImplicit false

/-!
# The delivery that verifies a destination

A destination and an event have one delivery. A verification returns it as it is, also
when it has ended or was enqueued under a binding that the destination no longer has.
-/
namespace RoozDataCloud.WebhookVerification
open KeyedTable ExecutionModels FallibleSteps WebhookModels WebhookLifecycle WebhookMoves
open WebhookDeliveries (delivery_move)
open WebhookDisabling (statusOf Placed placed_after DestinationChange.project)
open WebhookActivation

def terminal (status : DeliveryStatus) : Bool :=
  decide (status ∈ [.succeeded, .deadLettered, .cancelled])

/-- The delivery has not ended, and has the endpoint and the secret of its destination. -/
def CanVerify (t : Tables) (destinationId id : Uuid) : Prop :=
  ∃ delivery destination, t.webhooks.deliveries.get? id = some delivery ∧
    t.destinations.get? destinationId = some destination ∧ delivery.destinationId = destinationId ∧
    terminal delivery.status = false ∧ sameBinding destination delivery = true

/-- There is a delivery of the event to the destination that has ended or has another binding. -/
def Spent (t : Tables) (destinationId eventId : Uuid) : Prop :=
  ∃ id delivery destination, t.webhooks.deliveries.get? id = some delivery ∧
    t.destinations.get? destinationId = some destination ∧ delivery.destinationId = destinationId ∧
    delivery.eventId = eventId ∧
    (terminal delivery.status = true ∨ sameBinding destination delivery = false)

/-- A valid completion, with success, of a claim that is held on a delivery of the destination. The
delivery has the binding of the destination, which takes deliveries and whose project is alive. -/
structure Succeeds (t : Tables) (call : CompletionCall) (id destinationId : Uuid) : Prop where
  delivery : call.deliveryId = id
  outcome : call.outcome = "DELIVERED"
  clock : clockValid call.now call.serverNow = true
  digest : digestValid call.claimTokenDigest = true
  httpStatus : call.httpStatus.all (fun status => decide (100 ≤ status) && decide (status ≤ 599)) = true
  held : ∃ delivery destination, t.webhooks.deliveries.get? id = some delivery ∧
    claimHeld call delivery = true ∧ delivery.destinationId = destinationId ∧
    t.destinations.get? destinationId = some destination ∧ takesDeliveries destination = true ∧
    sameBinding destination delivery = true ∧ projectAlive t destination.projectId = true

section Pairs
variable {s : Site} {op : Op} {t t' : Tables} {w w' : WebhookTables}

/-- No two deliveries are of one destination and one event. -/
def Single (w : WebhookTables) : Prop :=
  ∀ id id' delivery delivery', w.deliveries.get? id = some delivery →
    w.deliveries.get? id' = some delivery' → delivery.destinationId = delivery'.destinationId →
    delivery.eventId = delivery'.eventId → id = id'

theorem boundDelivery_binding {destination : WebhookDestination} {event : Event}
    {destinationId eventId : Uuid} {maxAttempts : ℕ} {now : Time} {delivery : WebhookDeliveryAttempt}
    (h : boundDelivery destination event destinationId eventId maxAttempts now = .ok delivery) :
    delivery.destinationId = destinationId ∧ delivery.eventId = eventId ∧
      delivery.status = .pending ∧ sameBinding destination delivery = true ∧
      delivery.projectId = destination.projectId ∧
      delivery.organizationId = destination.organizationId := by
  simp only [boundDelivery, bind_ok, pure_ok] at h
  obtain ⟨-, -, rfl⟩ := h
  simp [sameBinding]

theorem enqueue_pair {visible : Visible} {projectId destinationId eventId deliveryId id : Uuid}
    {maxAttempts : ℕ} {now : Time}
    (h : enqueueWebhookDelivery w visible projectId destinationId eventId deliveryId maxAttempts now =
      .ok (w', id)) :
    (w' = w ∧ ∃ delivery, w.deliveries.get? id = some delivery ∧
      delivery.destinationId = destinationId ∧ delivery.eventId = eventId) ∨
    ((∀ id' other, w.deliveries.get? id' = some other → other.destinationId = destinationId →
        other.eventId ≠ eventId) ∧
      ∃ destination event delivery, visible.insertion.get? destinationId = some destination ∧
        boundDelivery destination event destinationId eventId maxAttempts now = .ok delivery ∧
        w.deliveries.insert? id delivery = some w'.deliveries) := by
  simp only [enqueueWebhookDelivery, bind_ok] at h
  obtain ⟨-, -, h⟩ := h
  split at h
  next existing delivery hfound =>
    obtain ⟨rfl, rfl⟩ := Prod.mk.inj (pure_ok.1 h)
    obtain ⟨hget, hpair⟩ := Table.find?_some hfound
    simp only [Bool.and_eq_true, decide_eq_true_eq] at hpair
    exact .inl ⟨rfl, delivery, hget, hpair⟩
  next hnone =>
    simp only [bind_ok, pure_ok, demand_ok] at h
    obtain ⟨event, -, -, -, destination, hdestination, delivery, hbound, deliveries, hinsert, hpair⟩ := h
    obtain ⟨rfl, rfl⟩ := Prod.mk.inj hpair
    refine .inr ⟨fun id' other hget hsame hevent => ?_, destination, event, delivery, hdestination,
      hbound, hinsert⟩
    have hother := Table.find?_none hnone hget
    simp only [hsame, hevent, decide_true, Bool.and_self, Bool.true_eq_false] at hother

theorem Single.enqueue {visible : Visible} {projectId destinationId eventId deliveryId id : Uuid}
    {maxAttempts : ℕ} {now : Time} (hsingle : Single w)
    (h : enqueueWebhookDelivery w visible projectId destinationId eventId deliveryId maxAttempts now =
      .ok (w', id)) : Single w' := by
  rcases enqueue_pair h with ⟨rfl, -⟩ | ⟨hfresh, destination, event, delivery, -, hbound, hinsert⟩
  · exact hsingle
  obtain ⟨hdestination, hevent, -⟩ := boundDelivery_binding hbound
  intro a b first second hfirst hsecond hsame hsameEvent
  rw [Table.get?_insert hinsert] at hfirst hsecond
  split_ifs at hfirst hsecond with ha hb hb
  · rw [ha, hb]
  · obtain rfl := Option.some.inj hfirst
    exact absurd (hsameEvent ▸ hevent) (hfresh b second hsecond (hsame ▸ hdestination))
  · obtain rfl := Option.some.inj hsecond
    exact absurd (hsameEvent.trans hevent) (hfresh a first hfirst (hsame.trans hdestination))
  · exact hsingle a b first second hfirst hsecond hsame hsameEvent

theorem pair_move {id : Uuid} {destinationId eventId : Uuid}
    (h : ∃ delivery, t.webhooks.deliveries.get? id = some delivery ∧
      delivery.destinationId = destinationId ∧ delivery.eventId = eventId)
    (hmove : Move s op t t') :
    ∃ delivery, t'.webhooks.deliveries.get? id = some delivery ∧
      delivery.destinationId = destinationId ∧ delivery.eventId = eventId := by
  obtain ⟨delivery, hget, hpair⟩ := h
  rcases delivery_move hmove id with ⟨hsame, -⟩ | ⟨_, hnone, -⟩ | ⟨old, new, _, hold, hchange, hnew, -⟩
  · exact ⟨delivery, hsame.trans hget, hpair⟩
  · rw [hget] at hnone
    cases hnone
  · obtain rfl := Option.some.inj (hget.symm.trans hold)
    refine ⟨new, hnew, ?_⟩
    cases hchange <;> exact hpair

/-- The step adds no delivery. -/
def SameKeys (w w' : WebhookTables) : Prop :=
  ∀ id, (w'.deliveries.get? id).isSome = (w.deliveries.get? id).isSome

theorem SameKeys.record {id : Uuid} {delivery : WebhookDeliveryAttempt} {fromStatus : DeliveryStatus}
    {reasonCode : String} (h : SameKeys w t.webhooks) :
    SameKeys w (recordDelivery t id delivery fromStatus reasonCode).webhooks := by
  intro id'
  rw [← h id']
  change ((t.webhooks.deliveries.modify id (fun _ => delivery)).get? id').isSome = _
  rw [Table.get?_modify]
  split_ifs with hid
  · rw [Option.isSome_map, hid]
  · rfl

theorem SameKeys.update {id : Uuid} {cond : WebhookDestination → Bool}
    {f : WebhookDestination → WebhookDestination} (h : SameKeys w t.webhooks)
    (hupdate : updateDestination s t id cond f = .ok t') : SameKeys w t'.webhooks := by
  rw [updateDestination_webhooks hupdate]
  exact h

theorem Single.of_sameKeys (hsingle : Single t.webhooks) (hmoves : Moves s op t t')
    (hkeys : SameKeys t.webhooks t'.webhooks) : Single t'.webhooks := by
  have hback : ∀ id delivery, t'.webhooks.deliveries.get? id = some delivery →
      ∃ old, t.webhooks.deliveries.get? id = some old ∧
        old.destinationId = delivery.destinationId ∧ old.eventId = delivery.eventId := by
    intro id delivery hget
    have hsome := hkeys id
    rw [hget, Option.isSome_some] at hsome
    obtain ⟨old, hold⟩ := Option.isSome_iff_exists.1 hsome.symm
    obtain ⟨new, hnew, hdestination, hevent⟩ := hmoves.keeps (fun _ _ => pair_move)
      ⟨old, hold, rfl, rfl⟩
    obtain rfl := Option.some.inj (hget.symm.trans hnew)
    exact ⟨old, hold, hdestination.symm, hevent.symm⟩
  intro a b first second hfirst hsecond hsame hevent
  obtain ⟨old, hold, hd, he⟩ := hback a first hfirst
  obtain ⟨old', hold', hd', he'⟩ := hback b second hsecond
  exact hsingle a b old old' hold hold' (hd.trans (hsame.trans hd'.symm)) (he.trans (hevent.trans he'.symm))

end Pairs

section Steps
variable {s : Site} {t t' : Tables}

theorem claimReadyDeliveries_keys {call : ClaimCall} {w : WebhookTables}
    (candidates : List (Uuid × WebhookDeliveryAttempt)) (t : Tables) (h : SameKeys w t.webhooks) :
    SameKeys w (candidates.foldl (claimReadyDelivery s call) t).webhooks := by
  induction candidates generalizing t with
  | nil => exact h
  | cons candidate candidates ih => exact ih _ h.record

theorem claimWebhookDeliveryCanary_keys {now : Option Time} {n : ℕ} {call : ClaimCall}
    {claims : List ClaimedDelivery}
    (h : claimWebhookDeliveryCanary s t now n call = .ok (t', claims)) :
    SameKeys t.webhooks t'.webhooks := by
  simp only [claimWebhookDeliveryCanary, bind_ok, pure_ok, Prod.mk.injEq] at h
  obtain ⟨-, -, -, -, mid, hloop, rfl, -⟩ := h
  apply claimReadyDeliveries_keys
  refine foldlM_rule (fun st _ => SameKeys t.webhooks st.webhooks)
    (fun st st' candidate rest hst hround => ?_) _ t mid (fun _ => rfl) hloop
  unfold expireClaim at hround
  dsimp only at hround
  split_ifs at hround
  · exact hst.record.update hround
  · obtain rfl := pure_ok.1 hround
    exact hst.record

theorem claimWebhookDelivery_keys {projectId : Uuid} {call : ClaimCall}
    {claim : Option ClaimedDelivery} (h : claimWebhookDelivery s t projectId call = .ok (t', claim)) :
    SameKeys t.webhooks t'.webhooks := by
  have hrefl : SameKeys t.webhooks t.webhooks := fun _ => rfl
  simp only [claimWebhookDelivery, bind_ok] at h
  obtain ⟨-, -, h⟩ := h
  split at h
  · obtain ⟨rfl, -⟩ := Prod.mk.inj (pure_ok.1 h)
    exact hrefl
  next id delivery hcandidate =>
    split_ifs at h
    · simp only [bind_ok, pure_ok, Prod.mk.injEq] at h
      obtain ⟨_, hupdate, rfl, -⟩ := h
      exact hrefl.record.update hupdate
    · obtain ⟨rfl, -⟩ := Prod.mk.inj (pure_ok.1 h)
      exact hrefl.record.record
    · obtain ⟨rfl, -⟩ := Prod.mk.inj (pure_ok.1 h)
      exact hrefl.record

theorem completeWebhookDeliveryCanary_keys {call : CompletionCall} {result : Option Completion}
    (h : completeWebhookDeliveryCanary s t call = .ok (t', result)) :
    SameKeys t.webhooks t'.webhooks := by
  have hrefl : SameKeys t.webhooks t.webhooks := fun _ => rfl
  simp only [completeWebhookDeliveryCanary, bind_ok] at h
  obtain ⟨-, -, h⟩ := h
  split_ifs at h
  · simp only [bind_ok] at h
    obtain ⟨outcome, -, -, -, h⟩ := h
    split at h
    · obtain ⟨rfl, -⟩ := Prod.mk.inj (pure_ok.1 h)
      exact hrefl
    · split at h
      · simp only [settleCompletion, bind_ok, pure_ok, Prod.mk.injEq] at h
        obtain ⟨_, hupdate, rfl, -⟩ := h
        unfold settleDestination at hupdate
        split_ifs at hupdate
        · exact hrefl.record.update hupdate
        · exact hrefl.record.update hupdate
        · obtain rfl := pure_ok.1 hupdate
          exact hrefl.record
      · obtain ⟨rfl, -⟩ := Prod.mk.inj (pure_ok.1 h)
        exact hrefl
  · obtain ⟨rfl, -⟩ := Prod.mk.inj (pure_ok.1 h)
    exact hrefl

theorem replayWebhookDelivery_keys {call : ReplayCall} {id : Uuid}
    (h : replayWebhookDelivery s t call = .ok (t', id)) : SameKeys t.webhooks t'.webhooks := by
  rcases replayWebhookDelivery_ok h with rfl | ⟨delivery, mid, -, -, -, -, -, hupdate, rfl⟩
  · exact fun _ => rfl
  · have hmid : SameKeys t.webhooks mid.webhooks := SameKeys.update (fun _ => rfl) hupdate
    exact hmid.record

theorem createWebhookDestination_webhooks {caller : RunRequests.Caller}
    {projectId destinationId secretId id : Uuid} {payload : CreateWebhookDestinationRequest}
    (h : createWebhookDestination s t caller projectId destinationId secretId payload =
      .ok (t', id)) : t'.webhooks = t.webhooks := by
  simp only [createWebhookDestination, bind_ok] at h
  obtain ⟨-, -, valid, -, found, -, h⟩ := h
  cases found with
  | some known =>
    obtain ⟨rfl, -⟩ := Prod.mk.inj (pure_ok.1 h)
    rfl
  | none =>
    simp only [bind_ok, pure_ok, insertDestination, demand_ok, Prod.mk.injEq] at h
    obtain ⟨_, ⟨-, -, secrets, -, written, -, destinations, -, rfl⟩, plane, -, rfl, -⟩ := h
    rfl

theorem emitEvent_single {emission : RunCreation.Emission} {subject : Subject}
    (hsingle : Single t.webhooks) (h : emitEvent s t emission subject = .ok (t', ())) :
    Single t'.webhooks := by
  unfold emitEvent at h
  split at h
  next emitted hemit =>
    obtain ⟨rfl, -⟩ := Prod.mk.inj (pure_ok.1 h)
    simp only [RunCreation.emitEvent, SessionSteps.bind_ok, SessionSteps.query_ok,
      SessionSteps.write_ok] at hemit
    obtain ⟨_, _, ⟨-, rfl⟩, _, _, ⟨-, rfl⟩, _, mid, hinsert, hloop⟩ := hemit
    have hmid : Single mid.webhooks := by
      simp only [RunCreation.insertEvent, bind_ok, pure_ok] at hinsert
      obtain ⟨-, -, -, -, -, -, events, -, rfl⟩ := hinsert
      exact hsingle
    refine SessionSteps.forM_rule (fun st _ => Single st.webhooks)
      (fun st st' item _ hst hround => ?_) _ mid emitted hmid hloop
    rw [SessionSteps.write_ok, RunCreation.enqueueFor, bind_ok] at hround
    obtain ⟨⟨webhooks, deliveryId⟩, henqueue, hwritten⟩ := hround
    obtain rfl := pure_ok.1 hwritten
    exact hst.enqueue henqueue
  next => cases h

theorem single_step (h : Single t.webhooks) (op : Op) : Single (step s t op).webhooks := by
  have hkeys : SameKeys t.webhooks (step s t op).webhooks → Single (step s t op).webhooks :=
    h.of_sameKeys (step_moves s t op)
  cases op with
  | elsewhere plane => exact h
  | emitEvent emission subject =>
    exact commit_cases (P := fun t' : Tables => Single t'.webhooks) h (fun _ _ => emitEvent_single h)
  | createWebhookDestination caller projectId destinationId secretId payload =>
    refine commit_cases (P := fun t' : Tables => Single t'.webhooks) h (fun t' _ hrun => ?_)
    rw [createWebhookDestination_webhooks hrun]
    exact h
  | verifyWebhookDestination call eventId deliveryId now =>
    refine commit_cases (P := fun t' : Tables => Single t'.webhooks) h (fun t' _ hrun => ?_)
    simp only [verifyWebhookDestination, bind_ok, pure_ok, Prod.mk.injEq] at hrun
    obtain ⟨_, -, -, -, _, -, -, -, ⟨webhooks, id⟩, henqueue, rfl, -⟩ := hrun
    exact h.enqueue henqueue
  | rotateWebhookSigningSecret call =>
    refine commit_cases (P := fun t' : Tables => Single t'.webhooks) h (fun t' _ hrun => ?_)
    obtain ⟨_, _, _, _, -, -, -, -, -, rfl⟩ := rotateWebhookSigningSecret_ok hrun
    exact h
  | disableWebhookDestination call =>
    refine commit_cases (P := fun t' : Tables => Single t'.webhooks) h (fun t' _ hrun => ?_)
    simp only [disableWebhookDestination, bind_ok, pure_ok, Prod.mk.injEq] at hrun
    obtain ⟨-, -, _, hupdate, rfl, -⟩ := hrun
    rw [updateDestination_webhooks hupdate]
    exact h
  | enqueueWebhookDelivery projectId destinationId eventId deliveryId maxAttempts now =>
    refine commit_cases (P := fun t' : Tables => Single t'.webhooks) h (fun t' _ hrun => ?_)
    simp only [enqueueDelivery, bind_ok, pure_ok, Prod.mk.injEq] at hrun
    obtain ⟨⟨webhooks, id⟩, henqueue, rfl, -⟩ := hrun
    exact h.enqueue henqueue
  | claimWebhookDeliveryCanary now batchSize call =>
    exact hkeys (commit_cases (P := fun t' : Tables => SameKeys t.webhooks t'.webhooks) (fun _ => rfl)
      (fun _ _ => claimWebhookDeliveryCanary_keys))
  | claimWebhookDelivery projectId call =>
    exact hkeys (commit_cases (P := fun t' : Tables => SameKeys t.webhooks t'.webhooks) (fun _ => rfl)
      (fun _ _ => claimWebhookDelivery_keys))
  | completeWebhookDeliveryCanary call =>
    exact hkeys (commit_cases (P := fun t' : Tables => SameKeys t.webhooks t'.webhooks) (fun _ => rfl)
      (fun _ _ => completeWebhookDeliveryCanary_keys))
  | replayWebhookDelivery call =>
    exact hkeys (commit_cases (P := fun t' : Tables => SameKeys t.webhooks t'.webhooks) (fun _ => rfl)
      (fun _ _ => replayWebhookDelivery_keys))

theorem single_after (s : Site) (plane : State) (ops : List Op) :
    Single (after s plane ops).webhooks :=
  exec_invariant (step s) (P := fun t => Single t.webhooks) (fun _ op h => single_step h op) ops _
    (fun _ _ _ _ hget => (nomatch hget))

end Steps

section Activation
variable {s : Site} {op : Op} {t t' : Tables} {id : Uuid} {old new written : WebhookDestination}

/-- A destination is of the organization of its project, and a delivery of those of its
destination. -/
structure Housed (s : Site) (t : Tables) : Prop where
  destination : ∀ id destination, t.destinations.get? id = some destination →
    destination.organizationId = s.organizationOf destination.projectId
  delivery : ∀ id delivery, t.webhooks.deliveries.get? id = some delivery →
    ∃ destination, t.destinations.get? delivery.destinationId = some destination ∧
      delivery.projectId = destination.projectId ∧
      delivery.organizationId = s.organizationOf destination.projectId

theorem Housed.write {secrets : Table Uuid SigningSecret} (h : Housed s t)
    (hget : t.destinations.get? id = some old) (hproject : new.projectId = old.projectId)
    (hguard : tenancyGuard s { t with secrets := secrets } new = .ok written) :
    Housed s { t with
      secrets := secrets
      destinations := t.destinations.modify id (fun _ => written) } := by
  obtain ⟨horganization, hkept⟩ : written.organizationId = s.organizationOf new.projectId ∧
      written.projectId = new.projectId := by
    obtain ⟨-, secret, -, -, -, rfl⟩ := tenancyGuard_ok hguard
    exact ⟨rfl, rfl⟩
  constructor
  · intro id' row hrow
    rw [Table.get?_modify] at hrow
    split_ifs at hrow with hid
    · obtain ⟨_, -, rfl⟩ := Option.map_eq_some_iff.1 hrow
      rw [horganization, hkept]
    · exact h.destination id' row hrow
  · intro id' delivery hdelivery
    obtain ⟨destination, hstored, hsame⟩ := h.delivery id' delivery hdelivery
    by_cases hid : delivery.destinationId = id
    · obtain rfl : destination = old := Option.some.inj ((hid ▸ hstored).symm.trans hget)
      refine ⟨written, ?_, ?_⟩
      · rw [hid, Table.get?_modify_self, hget, Option.map_some]
      · rw [hkept, hproject]
        exact hsame
    · exact ⟨destination, (Table.get?_modify_ne _ _ hid).trans hstored, hsame⟩

theorem housed_move (h : Housed s t) (hmove : Move s op t t') : Housed s t' := by
  cases hmove with
  | frame plane events => exact ⟨h.destination, h.delivery⟩
  | create projectId destinationId secretId name valid hinsert =>
    simp only [insertDestination, bind_ok, pure_ok, demand_ok] at hinsert
    obtain ⟨-, -, secrets, -, written, hguard, destinations, hrow, rfl⟩ := hinsert
    obtain ⟨-, secret, -, -, -, rfl⟩ := tenancyGuard_ok hguard
    constructor
    · intro id destination hget
      rw [Table.get?_insert hrow] at hget
      split_ifs at hget
      · obtain rfl := Option.some.inj hget
        rfl
      · exact h.destination id destination hget
    · intro id delivery hdelivery
      obtain ⟨destination, hstored, hsame⟩ := h.delivery id delivery hdelivery
      exact ⟨destination, Table.get?_insert_old hrow hstored, hsame⟩
  | @enqueue destinationId _ deliveryId destination _ _ _ delivery deliveries hdestination hbound _
      hinsert =>
    refine ⟨h.destination, fun id row hget => ?_⟩
    change deliveries.get? id = some row at hget
    obtain ⟨htarget, -, -, -, hproject, horganization⟩ := boundDelivery_binding hbound
    rw [Table.get?_insert hinsert] at hget
    split_ifs at hget
    · obtain rfl := Option.some.inj hget
      exact ⟨destination, htarget ▸ hdestination, hproject,
        horganization.trans (h.destination _ _ hdestination)⟩
    · exact h.delivery id row hget
  | @deliver deliveryId old new reasonCode hget hchange =>
    refine ⟨h.destination, fun id row hrow => ?_⟩
    change (t.webhooks.deliveries.modify deliveryId (fun _ => new)).get? id = some row at hrow
    rw [Table.get?_modify] at hrow
    split_ifs at hrow
    · obtain ⟨_, -, rfl⟩ := Option.map_eq_some_iff.1 hrow
      have hold := h.delivery deliveryId old hget
      cases hchange <;> exact hold
    · exact h.delivery id row hrow
  | update hget hchange hguard => exact h.write hget (DestinationChange.project hchange).1 hguard
  | @rotate call old written secret secrets hop hget hcall hsecret hsecrets hguard =>
    have hproject : (rotated (secret.version + 1) old).projectId = old.projectId := rfl
    exact h.write hget hproject hguard

theorem housed_after (s : Site) (plane : State) (ops : List Op) : Housed s (after s plane ops) :=
  after_invariant s plane ops ⟨fun _ _ hget => (nomatch hget), fun _ _ hget => (nomatch hget)⟩
    (fun _ _ _ => housed_move)

theorem succeeds_activates {call : CompletionCall} {destinationId : Uuid} (hsound : Sound t)
    (hplaced : Placed s t) (hhoused : Housed s t) (h : Succeeds t call id destinationId) :
    statusOf (step s t (.completeWebhookDeliveryCanary call)) destinationId = some .active := by
  obtain ⟨delivery, destination, hget, hheld, rfl, hdestination, htakes, hbinding, halive⟩ := h.held
  obtain ⟨secret, hsecret, horganization, hproject⟩ := hplaced _ _ hdestination
  obtain ⟨secret', hsecret', hversion⟩ := (hsound.fit _ _ hdestination).secret
  obtain rfl := Option.some.inj (hsecret.symm.trans hsecret')
  obtain ⟨destination', hdestination', hsameProject, hsameOrganization⟩ := hhoused.delivery _ _ hget
  obtain rfl := Option.some.inj (hdestination.symm.trans hdestination')
  have hbound := hbinding
  simp only [sameBinding, Bool.and_eq_true, decide_eq_true_eq] at hbound
  obtain ⟨⟨-, hsecretId⟩, hsecretVersion⟩ := hbound
  have hfound : secretOf t delivery = some secret := by
    rw [secretOf, ← hsecretId, hsecret]
    simp [horganization, hproject, hsameProject, hsameOrganization]
  have houtcome : finalOutcome .delivered secret destination delivery = .delivered :=
    if_pos ⟨hversion.trans hsecretVersion, htakes, hbinding⟩
  obtain ⟨written, hguard, hactive⟩ : ∃ written, tenancyGuard s
      (recordDelivery t id (completed .delivered call delivery) .claimed "DELIVERED")
      (activated call.serverNow destination) = .ok written ∧ written.status = .active := by
    simp only [tenancyGuard, bind_ok, demand_ok, require_ok, pure_ok, Option.filter_eq_some_iff,
      Bool.and_eq_true, decide_eq_true_eq]
    exact ⟨_, ⟨(), halive, secret, ⟨hsecret, horganization, hproject⟩, rfl⟩, rfl⟩
  obtain ⟨result, hsettle⟩ : ∃ result, settleCompletion s t call .delivered delivery = .ok
      ({ recordDelivery t id (completed .delivered call delivery) .claimed "DELIVERED" with
        destinations := t.destinations.modify delivery.destinationId (fun _ => written) }, result) := by
    simp only [settleCompletion, settleDestination, updateDestination, if_true, bind_ok, pure_ok,
      Prod.mk.injEq]
    refine ⟨_, _, ?_, rfl, rfl⟩
    have hrow : (t.destinations.get? delivery.destinationId).filter (fun _ => true) =
        some destination := by
      rw [hdestination, Option.filter_some, if_pos rfl]
    rw [h.delivery]
    simp only [recordDelivery, hrow]
    exact bind_ok.2 ⟨written, hguard, rfl⟩
  have hrun : completeWebhookDeliveryCanary s t call = .ok
      ({ recordDelivery t id (completed .delivered call delivery) .claimed "DELIVERED" with
        destinations := t.destinations.modify delivery.destinationId (fun _ => written) }, result) := by
    have hparsed : parseOutcome call.outcome = some .delivered := by
      rw [h.outcome]
      decide
    have hclaim : (t.webhooks.deliveries.get? call.deliveryId).filter (claimHeld call) =
        some delivery := by
      rw [h.delivery, hget, Option.filter_some, if_pos hheld]
    simp only [completeWebhookDeliveryCanary, bind_ok, require_ok, demand_ok, h.digest, if_true]
    refine ⟨(), h.clock, .delivered, hparsed, (), h.httpStatus, ?_⟩
    rw [hclaim]
    simp only [hdestination, hfound, houtcome]
    exact hsettle
  rw [step, hrun, commit, statusOf, Table.get?_modify_self, hdestination, Option.map_some,
    Option.map_some, hactive]

end Activation

section Verification
variable {t t' : Tables} {call : DestinationCall} {eventId deliveryId id : Uuid} {now : Time}

/-- What a verification returns can verify the destination, unless there is a delivery already that
cannot. -/
theorem canVerify_iff (hsingle : Single t.webhooks)
    (h : verifyWebhookDestination t call eventId deliveryId now = .ok (t', id)) :
    CanVerify t' call.destinationId id ↔ ¬ Spent t call.destinationId eventId := by
  simp only [verifyWebhookDestination, bind_ok, pure_ok, Prod.mk.injEq] at h
  obtain ⟨locked, hlocked, -, -, _, -, -, -, ⟨webhooks, id'⟩, henqueue, rfl, rfl⟩ := h
  have hdestination := (lockedDestination_ok hlocked).1
  rcases enqueue_pair henqueue with ⟨rfl, delivery, hget, htarget, hevent⟩ |
    ⟨hfresh, destination, event, delivery, hinserted, hbound, hinsert⟩
  · constructor
    · rintro ⟨row, destination, hrow, hstored, -, hopen, hbinding⟩
        ⟨other, spent, destination', hspent, hstored', hother, hotherEvent, hcannot⟩
      obtain rfl : other = id' := hsingle _ _ spent delivery hspent hget (hother.trans htarget.symm)
        (hotherEvent.trans hevent.symm)
      obtain rfl := Option.some.inj (hrow.symm.trans hspent)
      obtain rfl := Option.some.inj (hstored.symm.trans hstored')
      rcases hcannot with hterminal | hchanged
      · rw [hopen] at hterminal
        cases hterminal
      · rw [hbinding] at hchanged
        cases hchanged
    · intro hspent
      refine ⟨delivery, locked, hget, hdestination, htarget, ?_, ?_⟩
      · rw [← Bool.not_eq_true]
        exact fun hterminal => hspent
          ⟨id', delivery, locked, hget, hdestination, htarget, hevent, .inl hterminal⟩
      · rw [← Bool.not_eq_false]
        exact fun hchanged => hspent
          ⟨id', delivery, locked, hget, hdestination, htarget, hevent, .inr hchanged⟩
  · obtain rfl : destination = locked := Option.some.inj (hinserted.symm.trans hdestination)
    obtain ⟨htarget, -, hpending, hbinding, -⟩ := boundDelivery_binding hbound
    constructor
    · rintro - ⟨other, spent, -, hspent, -, hother, hotherEvent, -⟩
      exact hfresh other spent hspent hother hotherEvent
    · intro _
      refine ⟨delivery, destination, (Table.get?_insert hinsert id').trans (if_pos rfl), hdestination,
        htarget, ?_, hbinding⟩
      rw [hpending]
      rfl

end Verification

/-- The delivery that a verification returns has not ended and has the binding of the destination,
exactly when no delivery of the event to the destination had ended or had another binding. A
successful attempt of it, under the binding of the destination, activates the destination. -/
theorem verification_progress_iff (s : Site) (plane : State) (ops : List Op) (call : DestinationCall)
    (eventId deliveryId id : Uuid) (now : Time) (t' : Tables)
    (h : verifyWebhookDestination (after s plane ops) call eventId deliveryId now = .ok (t', id)) :
    (CanVerify t' call.destinationId id ↔
      ¬ Spent (after s plane ops) call.destinationId eventId) ∧
    ∀ later completion,
      Succeeds (after s plane (ops ++ .verifyWebhookDestination call eventId deliveryId now :: later))
        completion id call.destinationId →
      statusOf (after s plane (ops ++ .verifyWebhookDestination call eventId deliveryId now :: later ++
        [.completeWebhookDeliveryCanary completion])) call.destinationId = some .active := by
  refine ⟨canVerify_iff (single_after s plane ops) h, fun later completion hsucceeds => ?_⟩
  rw [after_snoc]
  exact succeeds_activates (sound_after s plane _) (placed_after s plane _) (housed_after s plane _)
    hsucceeds

section Samples

def firstVerification : DestinationCall where
  projectId := 1
  destinationId := 7
  expectedVersion := 1

set_option maxRecDepth 8000 in
theorem firstVerification_ok :
    ((verifyWebhookDestination (after plainSite oneProject (verifiedRun.take 2)) firstVerification 10 20
        0).toOption.map Prod.snd = some 20) ∧
      (after plainSite oneProject (verifiedRun.take 2)).webhooks.deliveries.rows.length = 0 := by
  decide +kernel

/-- The first verification of a destination returns a delivery that can verify it. -/
theorem first_delivery_verifies :
    ∃ t', verifyWebhookDestination (after plainSite oneProject (verifiedRun.take 2)) firstVerification
      10 20 0 = .ok (t', 20) ∧ CanVerify t' 7 20 := by
  obtain ⟨hreturned, hrows⟩ := firstVerification_ok
  obtain ⟨⟨t', id⟩, hsome, rfl⟩ := Option.map_eq_some_iff.1 hreturned
  have hok := toOption_some.1 hsome
  refine ⟨t', hok, (verification_progress_iff plainSite oneProject (verifiedRun.take 2)
    firstVerification 10 20 20 0 t' hok).1.2 ?_⟩
  rintro ⟨id, delivery, -, hget, -⟩
  rw [Table.get?_eq_some, List.length_eq_zero_iff.1 hrows] at hget
  cases hget

/-- The destination is verified with an event, its secret is rotated, and it is verified with the
same event again. -/
def rotatedAgain : List Op :=
  verifiedRun ++ [.rotateWebhookSigningSecret { projectId := 1, destinationId := 7, expectedVersion := 2 }]

set_option maxRecDepth 8000 in
/-- The verification returns the delivery that has succeeded under the version before. -/
theorem spent_delivery_returned :
    ((verifyWebhookDestination (after plainSite oneProject rotatedAgain)
        { projectId := 1, destinationId := 7, expectedVersion := 3 } 10 21 5).toOption.map
      (fun result =>
        (result.2, (result.1.webhooks.deliveries.get? result.2).map (fun delivery =>
            (delivery.status, delivery.signingSecretVersion)),
          (result.1.destinations.get? 7).map (fun destination =>
            (destination.status, destination.signingSecretVersion))))) =
      some (20, some (.succeeded, 1), some (.pendingVerification, 2)) := by
  decide +kernel

end Samples
end RoozDataCloud.WebhookVerification
