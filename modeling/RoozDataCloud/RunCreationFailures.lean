import RoozDataCloud.RunCreation

set_option autoImplicit false

/-!
# Where the creation of a run fails

Every check of the request itself comes before the first row is written. Two
checks come later: the one of the request identifier when the event is emitted,
and the one of each destination when its delivery is enqueued.
-/
namespace RoozDataCloud.RunCreationFailures
open KeyedTable NumberedLog ExecutionModels WebhookModels RunCreation RunRequests WorkClaims
open FallibleSteps hiding bind_ok bind_error pure_ok pure_error
open SessionSteps hiding pure_ok pure_error

def isApi : Failure → Bool
  | .api .. => true
  | _ => false

/-- The delivery of the event to a listed destination is not refused: it is there already, or the
destination still takes the event when it is looked up. -/
def Deliverable (emission : Emission) (projectId : Uuid) (eventType : String) (t : Tables)
    (item : Uuid × ℕ) : Prop :=
  (deliveryOf t.webhooks item.1 emission.eventId).isSome = true ∨
    ((emission.visible item.2).lookup.get? item.1).any (takes projectId eventType) = true

section Deliveries
variable {emission : Emission} {projectId : Uuid} {event : Event} {item : Uuid × ℕ} {t t' : Tables}

theorem enqueueFor_ok (h : enqueueFor emission projectId item t = .ok t') :
    t'.webhooks.events = t.webhooks.events ∧
      (t'.webhooks.deliveries = t.webhooks.deliveries ∨
        ∃ delivery, delivery.destinationId = item.1 ∧
          t.webhooks.deliveries.insert? (emission.deliveryId item.2) delivery =
            some t'.webhooks.deliveries) := by
  simp only [enqueueFor, FallibleSteps.bind_ok, FallibleSteps.pure_ok] at h
  obtain ⟨⟨webhooks, id⟩, henqueue, rfl⟩ := h
  exact enqueueWebhookDelivery_ok henqueue

theorem enqueueFor_deliverable (hevent : eventOf t.webhooks projectId emission.eventId = some event)
    (h : enqueueFor emission projectId item t = .ok t') :
    Deliverable emission projectId event.eventType t item := by
  simp only [enqueueFor, enqueueWebhookDelivery, FallibleSteps.bind_ok] at h
  obtain ⟨_, ⟨_, -, hrest⟩, -⟩ := h
  split at hrest
  next existing delivery hfound => exact .inl (by rw [hfound]; rfl)
  next hfound =>
    simp only [FallibleSteps.bind_ok, demand_ok, require_ok, hevent] at hrest
    obtain ⟨event', ⟨rfl⟩, -, hlookup, -⟩ := hrest
    exact .inr hlookup

theorem enqueueFor_refused (hevent : eventOf t.webhooks projectId emission.eventId = some event)
    {e : Failure} (h : enqueueFor emission projectId item t = .error e) (hapi : isApi e = true) :
    ¬ Deliverable emission projectId event.eventType t item := by
  simp only [enqueueFor, enqueueWebhookDelivery, FallibleSteps.bind_error,
    FallibleSteps.pure_error, and_false, exists_false, or_false, require_error] at h
  rcases h with ⟨-, rfl⟩ | ⟨-, -, hrest⟩
  · cases hapi
  · split at hrest
    · exact (FallibleSteps.pure_error.1 hrest).elim
    next hfound =>
      simp only [FallibleSteps.bind_error, demand_error, demand_ok, require_error, hevent,
        boundDelivery, FallibleSteps.pure_error, reduceCtorEq, false_and, false_or, and_false,
        exists_false, or_false] at hrest
      obtain ⟨event', ⟨rfl⟩, ⟨hlookup, -⟩ | ⟨-, -, hlast⟩⟩ := hrest
      · rintro (hexists | htakes)
        · rw [hfound] at hexists
          cases hexists
        · exact hlookup htakes
      · rcases hlast with ⟨-, rfl⟩ | ⟨-, -, ⟨-, rfl⟩ | ⟨-, -, -, rfl⟩⟩ <;> cases hapi

theorem deliveryOf_insert {w w' : WebhookTables} {deliveryId : Uuid}
    {delivery : WebhookDeliveryAttempt}
    (h : w.deliveries.insert? deliveryId delivery = some w'.deliveries) {destinationId : Uuid}
    (hne : delivery.destinationId ≠ destinationId) (eventId : Uuid) :
    deliveryOf w' destinationId eventId = deliveryOf w destinationId eventId := by
  rw [deliveryOf, deliveryOf, Table.find?_insert h]
  simp [hne]

theorem deliverable_other {eventType : String} (h : enqueueFor emission projectId item t = .ok t')
    {item' : Uuid × ℕ} (hne : item.1 ≠ item'.1) :
    Deliverable emission projectId eventType t' item' ↔
      Deliverable emission projectId eventType t item' := by
  have hsame : deliveryOf t'.webhooks item'.1 emission.eventId =
      deliveryOf t.webhooks item'.1 emission.eventId := by
    rcases (enqueueFor_ok h).2 with heq | ⟨delivery, hid, hinsert⟩
    · rw [deliveryOf, deliveryOf, heq]
    · exact deliveryOf_insert hinsert (by rwa [hid]) emission.eventId
  rw [Deliverable, Deliverable, hsame]

theorem eventOf_enqueueFor (h : enqueueFor emission projectId item t = .ok t') :
    eventOf t'.webhooks projectId emission.eventId = eventOf t.webhooks projectId emission.eventId := by
  rw [eventOf, eventOf, (enqueueFor_ok h).1]

theorem enqueueAll_deliverable {items : List (Uuid × ℕ)} (hnodup : (items.map Prod.fst).Nodup)
    (hevent : eventOf t.webhooks projectId emission.eventId = some event)
    (h : items.forM (fun item => write (enqueueFor emission projectId item)) t = .ok () t') :
    ∀ item ∈ items, Deliverable emission projectId event.eventType t item := by
  induction items generalizing t with
  | nil => exact fun _ hitem => nomatch hitem
  | cons first rest ih =>
    obtain ⟨⟨⟩, mid, hfirst, hrest⟩ := bind_ok.1 h
    rw [write_ok] at hfirst
    obtain ⟨hfresh, hnodup⟩ := List.nodup_cons.1 hnodup
    have hrest := ih hnodup ((eventOf_enqueueFor hfirst).trans hevent) hrest
    intro item hitem
    rcases List.mem_cons.1 hitem with rfl | hitem
    · exact enqueueFor_deliverable hevent hfirst
    · have hne : first.1 ≠ item.1 := fun heq => hfresh (heq ▸ List.mem_map_of_mem hitem)
      exact (deliverable_other hfirst hne).1 (hrest item hitem)

theorem enqueueAll_refused {items : List (Uuid × ℕ)} (hnodup : (items.map Prod.fst).Nodup)
    (hevent : eventOf t.webhooks projectId emission.eventId = some event) {e : Failure}
    (h : items.forM (fun item => write (enqueueFor emission projectId item)) t = .error e t')
    (hapi : isApi e = true) :
    ∃ item ∈ items, ¬ Deliverable emission projectId event.eventType t item := by
  induction items generalizing t with
  | nil => exact (SessionSteps.pure_error.1 h).elim
  | cons first rest ih =>
    obtain ⟨hfresh, hnodup⟩ := List.nodup_cons.1 hnodup
    rcases bind_error.1 h with hfirst | ⟨⟨⟩, mid, hfirst, hrest⟩
    · exact ⟨first, List.mem_cons_self, enqueueFor_refused hevent (write_error.1 hfirst).1 hapi⟩
    · rw [write_ok] at hfirst
      obtain ⟨item, hitem, hrefused⟩ := ih hnodup ((eventOf_enqueueFor hfirst).trans hevent) hrest
      have hne : first.1 ≠ item.1 := fun heq => hfresh (heq ▸ List.mem_map_of_mem hitem)
      exact ⟨item, List.mem_cons_of_mem first hitem,
        fun h => hrefused ((deliverable_other hfirst hne).2 h)⟩

end Deliveries
section Emission
variable {emission : Emission} {projectId : Uuid} {t t' : Tables}

/-- The emission of a `run.created` event is not refused. -/
structure Settled (emission : Emission) (projectId : Uuid) (t : Tables) : Prop where
  requestId : requestIdValid emission = true
  destinations : ∀ item ∈ (matchingDestinations emission projectId "run.created").zipIdx,
    Deliverable emission projectId "run.created" t item

theorem createdPayload_valid (run : Run) (plan : RunPlan) :
    validateEventPayload "run.created" "run" (createdPayload run plan) =
      .ok (createdPayload run plan) := by
  cases hreceipt : plan.receiptOnly <;>
    simp [validateEventPayload, eventDefinitions, createdPayload, initialStatus, hreceipt, demand,
      require, statusAllowed, isIdentifier, WorkClaims.read, Payload.get?, bind, Except.bind, pure,
      Except.pure, List.lookup_cons, List.lookup_nil]

theorem insertEvent_ok {eventId : Uuid} {event : Event} (h : insertEvent t eventId event = .ok t') :
    t'.webhooks.deliveries = t.webhooks.deliveries ∧
      eventOf t'.webhooks event.projectId eventId = some event := by
  simp only [insertEvent, FallibleSteps.bind_ok, FallibleSteps.pure_ok, demand_ok] at h
  obtain ⟨-, -, -, -, -, -, events, hinsert, rfl⟩ := h
  refine ⟨rfl, ?_⟩
  rw [eventOf, Table.get?_insert hinsert, if_pos rfl]
  simp [Option.filter]

theorem insertEvent_error {eventId : Uuid} {event : Event} {e : Failure}
    (h : insertEvent t eventId event = .error e) : isApi e = false := by
  simp only [insertEvent, FallibleSteps.bind_error, FallibleSteps.pure_error, require_error,
    demand_error, and_false, exists_false, or_false] at h
  rcases h with ⟨-, rfl⟩ | ⟨-, -, ⟨-, rfl⟩ | ⟨-, -, ⟨-, rfl⟩ | ⟨-, -, -, rfl⟩⟩⟩ <;> rfl

theorem deliverable_congr {eventType : String} {item : Uuid × ℕ}
    (h : t'.webhooks.deliveries = t.webhooks.deliveries) :
    Deliverable emission projectId eventType t' item ↔
      Deliverable emission projectId eventType t item := by
  rw [Deliverable, Deliverable, deliveryOf, deliveryOf, h]

theorem matching_nodup (emission : Emission) (projectId : Uuid) (eventType : String) :
    ((matchingDestinations emission projectId eventType).zipIdx.map Prod.fst).Nodup := by
  rw [List.zipIdx_map_fst]
  exact Table.select_keys_nodup _ _

variable {organizationId subjectId : Uuid} {run : Run} {plan : RunPlan}

theorem emitEvent_settled
    (h : emitEvent emission organizationId projectId "run.created" "run" subjectId
      (createdPayload run plan) t = .ok () t') : Settled emission projectId t := by
  simp only [emitEvent, bind_ok, query_ok, write_ok, createdPayload_valid, require_ok] at h
  obtain ⟨_, _, ⟨⟨rfl⟩, rfl⟩, _, _, ⟨hid, rfl⟩, _, mid, hinsert, hloop⟩ := h
  obtain ⟨hdeliveries, hevent⟩ := insertEvent_ok hinsert
  refine ⟨hid, fun item hitem => ?_⟩
  exact (deliverable_congr hdeliveries).1
    (enqueueAll_deliverable (matching_nodup emission projectId "run.created") hevent hloop item hitem)

theorem emitEvent_refused {e : Failure}
    (h : emitEvent emission organizationId projectId "run.created" "run" subjectId
      (createdPayload run plan) t = .error e t') (hapi : isApi e = true) :
    ¬ Settled emission projectId t := by
  simp only [emitEvent, bind_error, query_error, query_ok, write_error, write_ok,
    createdPayload_valid, require_error, require_ok, reduceCtorEq, false_and, false_or] at h
  obtain ⟨_, _, ⟨⟨rfl⟩, rfl⟩, ⟨⟨hid, -⟩, -⟩ | ⟨_, _, ⟨-, rfl⟩, hrest⟩⟩ := h
  · exact fun hsettled => hid hsettled.requestId
  · rcases hrest with ⟨hinsert, -⟩ | ⟨_, mid, hinsert, hloop⟩
    · rw [insertEvent_error hinsert] at hapi
      cases hapi
    · obtain ⟨hdeliveries, hevent⟩ := insertEvent_ok hinsert
      obtain ⟨item, hitem, hrefused⟩ :=
        enqueueAll_refused (matching_nodup emission projectId "run.created") hevent hloop hapi
      exact fun hsettled =>
        hrefused ((deliverable_congr hdeliveries).2 (hsettled.destinations item hitem))

theorem emitEvent_error_plane {e : Failure} {eventType subjectType : String} {payload : Payload}
    (h : emitEvent emission organizationId projectId eventType subjectType subjectId payload t =
      .error e t') : t'.plane = t.plane := by
  simp only [emitEvent, bind_error, query_error, query_ok, write_error, write_ok] at h
  rcases h with ⟨-, rfl⟩ | ⟨valid, _, ⟨-, rfl⟩, ⟨-, rfl⟩ | ⟨_, _, ⟨-, rfl⟩, hrest⟩⟩
  · rfl
  · rfl
  · rcases hrest with ⟨-, rfl⟩ | ⟨_, mid, hinsert, hloop⟩
    · rfl
    · obtain ⟨item, rest, last, hlast, herror⟩ :=
        forM_error (fun t' _ => t'.plane = t.plane)
          (fun s s' item _ hs hstep => (enqueueFor_plane (write_ok.1 hstep)).trans hs)
          _ mid t' e (insertEvent_plane hinsert) hloop
      exact (write_error.1 herror).2 ▸ hlast

end Emission

section Creation
variable {d : Deployment} {caller : Caller} {versionId buildId runId commandId id : Uuid}
  {plan : Except Failure RunPlan} {emission : Emission} {t t' : Tables} {new : NewRun}

theorem insertSource_error {st : State} {ref : SourceRef} {source : OutboxSource} {e : Failure}
    (h : insertSource st ref source = .error e) : isApi e = false := by
  simp only [insertSource, FallibleSteps.bind_error, FallibleSteps.pure_error, require_error,
    demand_error, and_false, exists_false, or_false] at h
  rcases h with ⟨-, rfl⟩ | ⟨-, -, -, rfl⟩ <;> rfl

theorem writeRun_error {now : Time} {e : Failure}
    (h : writeRun versionId buildId runId commandId now new t = .error e) : isApi e = false := by
  simp only [writeRun, onPlane, insertRun, FallibleSteps.bind_error, FallibleSteps.pure_error,
    demand_error, and_false, exists_false, or_false] at h
  rcases h with ⟨-, rfl⟩ | ⟨runs, -, hrest⟩
  · rfl
  · split_ifs at hrest
    · exact (FallibleSteps.pure_error.1 hrest).elim
    · exact insertSource_error hrest

theorem writeRun_ok {now : Time}
    (h : writeRun versionId buildId runId commandId now new t = .ok t') :
    t.plane.runs.get? runId = none ∧ (t'.plane.runs.get? runId).isSome = true ∧
      t'.webhooks = t.webhooks := by
  simp only [writeRun, FallibleSteps.bind_ok, FallibleSteps.pure_ok, onPlane_ok] at h
  obtain ⟨_, ⟨plane, hinsert, rfl⟩, rfl⟩ := h
  obtain ⟨runs, hruns, hrest⟩ := insertRun_ok hinsert
  refine ⟨Table.insert_fresh hruns, ?_, rfl⟩
  have hplane : plane.runs = runs := by
    rcases hrest with ⟨-, rfl⟩ | ⟨-, source, -, -, -, hsource⟩
    · rfl
    · rw [(insertSource_ok hsource).2.2]
  change (plane.runs.get? runId).isSome = true
  rw [hplane, Table.get?_insert hruns, if_pos rfl]
  rfl

theorem remember_error {st : State} {key : IdempotencyKey} {fingerprint : String} {e : Failure}
    (h : remember st key fingerprint runId = .error e) : isApi e = false := by
  simp only [remember, FallibleSteps.bind_error, FallibleSteps.pure_error, demand_error, and_false,
    exists_false, or_false] at h
  obtain ⟨-, rfl⟩ := h
  rfl

theorem settled_congr {projectId : Uuid} (h : t'.webhooks = t.webhooks) :
    Settled emission projectId t' ↔ Settled emission projectId t := by
  have hdeliverable : ∀ item, Deliverable emission projectId "run.created" t' item ↔
      Deliverable emission projectId "run.created" t item := fun item =>
    deliverable_congr (by rw [h])
  constructor
  · exact fun hs => ⟨hs.requestId, fun item hitem => (hdeliverable item).1 (hs.destinations item hitem)⟩
  · exact fun hs => ⟨hs.requestId, fun item hitem => (hdeliverable item).2 (hs.destinations item hitem)⟩

/-- A run is written only if the emission of its event is not refused. -/
theorem createRun_settled (hadmission : admitRun d t.plane caller versionId buildId plan = .ok (.inr new))
    (h : RunCreation.createRun d caller versionId buildId plan runId commandId emission t = .ok id t') :
    Settled emission new.version.projectId t := by
  simp only [RunCreation.createRun, bind_ok, query_ok, hadmission] at h
  obtain ⟨_, _, ⟨⟨rfl⟩, rfl⟩, hrest⟩ := h
  simp only [bind_ok, write_ok] at hrest
  obtain ⟨_, mid, hwrite, _, emitted, hemit, -⟩ := hrest
  exact (settled_congr (writeRun_ok hwrite).2.2).1 (emitEvent_settled hemit)

/-- A creation that is refused has written nothing if it was not admitted, and has left the run
behind if it was. -/
theorem createRun_refused {e : Failure}
    (h : RunCreation.createRun d caller versionId buildId plan runId commandId emission t =
      .error e t') (hapi : isApi e = true) :
    (admitRun d t.plane caller versionId buildId plan = .error e ∧ t' = t) ∨
      ∃ new, admitRun d t.plane caller versionId buildId plan = .ok (.inr new) ∧
        ¬ Settled emission new.version.projectId t ∧ t' ≠ t := by
  simp only [RunCreation.createRun, bind_error, query_error, query_ok] at h
  rcases h with ⟨hadmission, rfl⟩ | ⟨admitted, _, ⟨hadmission, rfl⟩, hrest⟩
  · exact .inl ⟨hadmission, rfl⟩
  · cases admitted with
    | inl known => exact (SessionSteps.pure_error.1 hrest).elim
    | inr new =>
      refine .inr ⟨new, hadmission, ?_⟩
      simp only [bind_error, write_error, write_ok, SessionSteps.pure_error, and_false,
        exists_false, or_false] at hrest
      rcases hrest with ⟨hwrite, -⟩ | ⟨_, mid, hwrite, hrest⟩
      · rw [writeRun_error hwrite] at hapi
        cases hapi
      · obtain ⟨hfresh, hwritten, hwebhooks⟩ := writeRun_ok hwrite
        rcases hrest with hemit | ⟨_, emitted, -, hremember, -⟩
        · refine ⟨fun hs => emitEvent_refused hemit hapi ((settled_congr hwebhooks).2 hs), ?_⟩
          rintro rfl
          rw [← emitEvent_error_plane hemit, hfresh] at hwritten
          cases hwritten
        · simp only [onPlane, FallibleSteps.bind_error, FallibleSteps.pure_error, and_false,
            exists_false, or_false] at hremember
          rw [remember_error hremember] at hapi
          cases hapi

end Creation
end RoozDataCloud.RunCreationFailures
