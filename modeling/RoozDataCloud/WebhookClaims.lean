import RoozDataCloud.WebhookDisabling

set_option autoImplicit false

/-!
# Claims on deliveries of disabled destinations

The SQL function returns expired claims to the waiting deliveries first and then looks
at the destinations. `claim_webhook_delivery` selects an expired claim whatever its
destination, and hands it out again when it has attempts left.
-/
namespace RoozDataCloud.WebhookClaims
open KeyedTable ExecutionModels FallibleSteps WebhookModels WebhookLifecycle WebhookMoves
open WebhookDisabling

/-- The claims that a step hands out, with their tokens. -/
def handedBy (s : Site) (t : Tables) : Op → List ClaimedDelivery
  | .claimWebhookDeliveryCanary now batchSize call =>
    ((claimWebhookDeliveryCanary s t now batchSize call).toOption.map Prod.snd).getD []
  | .claimWebhookDelivery projectId call =>
    ((claimWebhookDelivery s t projectId call).toOption.bind Prod.snd).toList
  | _ => []

/-- No destination of a claim that is handed out is disabled when the step ends. -/
def HandsToEnabled (s : Site) (t : Tables) (op : Op) : Prop :=
  ∀ claim ∈ handedBy s t op, statusOf (step s t op) claim.destinationId ≠ some .disabled

/-- The rows that a call of `claim_webhook_delivery` may take. -/
structure Claimable (t : Tables) (projectId : Uuid) (call : ClaimCall) (id : Uuid)
    (delivery : WebhookDeliveryAttempt) : Prop where
  stored : t.webhooks.deliveries.get? id = some delivery
  project : delivery.projectId = projectId
  unlocked : call.locked id = false
  due : claimReady t call.serverNow delivery = true ∨
    claimExpired call.serverNow delivery = true ∧
      (t.destinations.get? delivery.destinationId).isSome = true

/-- Of the rows that a call may take, the first is an expired claim with attempts left on a delivery
of a disabled destination. -/
def LapsedFirst (t : Tables) (projectId : Uuid) (call : ClaimCall) : Prop :=
  ∃ id delivery, Claimable t projectId call id delivery ∧
    claimExpired call.serverNow delivery = true ∧ delivery.attemptCount < delivery.maxAttempts ∧
    statusOf t delivery.destinationId = some .disabled ∧
    ∀ id' other, Claimable t projectId call id' other →
      claimOrder (id, delivery) (id', other) = true

/-- The call has valid parameters and comes to such a claim. -/
def ReclaimsDisabled (t : Tables) : Op → Prop
  | .claimWebhookDelivery projectId call =>
    ((15 ≤ call.claimSeconds ∧ call.claimSeconds ≤ 120) ∧ workerIdValid call.workerId = true) ∧
      LapsedFirst t projectId call
  | _ => False

section Order
variable {a b c : Uuid × WebhookDeliveryAttempt}

theorem claimOrder_iff : claimOrder a b = true ↔ a.2.availableAt < b.2.availableAt ∨
    a.2.availableAt = b.2.availableAt ∧ (a.2.createdAt < b.2.createdAt ∨
      a.2.createdAt = b.2.createdAt ∧ a.1 ≤ b.1) := by
  unfold claimOrder
  split_ifs with havailable hcreated
  · simp [havailable, hcreated]
  · simp [havailable, hcreated, le_iff_lt_or_eq]
  · simp [havailable, le_iff_lt_or_eq]

theorem claimOrder_total (a b : Uuid × WebhookDeliveryAttempt) :
    claimOrder a b = true ∨ claimOrder b a = true := by
  rw [claimOrder_iff, claimOrder_iff]
  rcases lt_trichotomy a.2.availableAt b.2.availableAt with h | h | h
  · exact .inl (.inl h)
  · rcases lt_trichotomy a.2.createdAt b.2.createdAt with h' | h' | h'
    · exact .inl (.inr ⟨h, .inl h'⟩)
    · exact (le_total a.1 b.1).imp (fun hle => .inr ⟨h, .inr ⟨h', hle⟩⟩)
        (fun hle => .inr ⟨h.symm, .inr ⟨h'.symm, hle⟩⟩)
    · exact .inr (.inr ⟨h.symm, .inl h'⟩)
  · exact .inr (.inl h)

theorem claimOrder_trans (hab : claimOrder a b = true) (hbc : claimOrder b c = true) :
    claimOrder a c = true := by
  rw [claimOrder_iff] at *
  rcases hab with h | ⟨h, h' | ⟨h', hle⟩⟩
  · rcases hbc with k | ⟨k, -⟩
    · exact .inl (h.trans k)
    · exact .inl (k ▸ h)
  · rcases hbc with k | ⟨k, k' | ⟨k', -⟩⟩
    · exact .inl (h ▸ k)
    · exact .inr ⟨h.trans k, .inl (h'.trans k')⟩
    · exact .inr ⟨h.trans k, .inl (k' ▸ h')⟩
  · rcases hbc with k | ⟨k, k' | ⟨k', hle'⟩⟩
    · exact .inl (h ▸ k)
    · exact .inr ⟨h.trans k, .inl (h' ▸ k')⟩
    · exact .inr ⟨h.trans k, .inr ⟨h'.trans k', hle.trans hle'⟩⟩

theorem claimOrder_antisymm (hab : claimOrder a b = true) (hba : claimOrder b a = true) :
    a.1 = b.1 := by
  rw [claimOrder_iff] at *
  rcases hab with h | ⟨h, h' | ⟨h', hle⟩⟩
  · rcases hba with k | ⟨k, -⟩
    · exact absurd k h.asymm
    · exact absurd k h.ne'
  · rcases hba with k | ⟨-, k' | ⟨k', -⟩⟩
    · exact absurd h k.ne'
    · exact absurd k' h'.asymm
    · exact absurd k' h'.ne'
  · rcases hba with k | ⟨-, k' | ⟨-, hle'⟩⟩
    · exact absurd h k.ne'
    · exact absurd h' k'.ne'
    · exact le_antisymm hle hle'

end Order

section Candidates
variable {t : Tables} {call : ClaimCall} {projectId id : Uuid} {delivery : WebhookDeliveryAttempt}

theorem mem_claimable (id : Uuid) (delivery : WebhookDeliveryAttempt) :
    (id, delivery) ∈ t.webhooks.deliveries.select (fun id delivery =>
      delivery.projectId = projectId && (claimReady t call.serverNow delivery ||
        claimExpired call.serverNow delivery &&
          (t.destinations.get? delivery.destinationId).isSome) && !call.locked id) ↔
      Claimable t projectId call id delivery := by
  rw [Table.mem_select]
  simp only [Bool.and_eq_true, Bool.or_eq_true, Bool.not_eq_true', decide_eq_true_eq]
  constructor
  · rintro ⟨hget, ⟨hproject, hdue⟩, hunlocked⟩
    exact ⟨hget, hproject, hunlocked, hdue⟩
  · rintro ⟨hget, hproject, hunlocked, hdue⟩
    exact ⟨hget, ⟨hproject, hdue⟩, hunlocked⟩

theorem claimCandidate_iff : claimCandidate t call projectId = some (id, delivery) ↔
    Claimable t projectId call id delivery ∧ ∀ id' other, Claimable t projectId call id' other →
      claimOrder (id, delivery) (id', other) = true := by
  have htotal : Std.Total (fun a b : Uuid × WebhookDeliveryAttempt => claimOrder a b = true) :=
    ⟨claimOrder_total⟩
  have htrans : IsTrans (Uuid × WebhookDeliveryAttempt) (fun a b => claimOrder a b = true) :=
    ⟨fun _ _ _ => claimOrder_trans⟩
  unfold claimCandidate
  set rows := (t.webhooks.deliveries.select (fun id delivery =>
      delivery.projectId = projectId && (claimReady t call.serverNow delivery ||
        claimExpired call.serverNow delivery &&
          (t.destinations.get? delivery.destinationId).isSome) && !call.locked id)).insertionSort
    (fun a b => claimOrder a b) with hrows
  have hmem : ∀ id delivery, (id, delivery) ∈ rows ↔ Claimable t projectId call id delivery := by
    intro id delivery
    rw [hrows, List.mem_insertionSort, mem_claimable]
  have hsorted : rows.Pairwise (fun a b => claimOrder a b = true) := List.pairwise_insertionSort _ _
  have hleast : ∀ row, rows.head? = some row → ∀ other ∈ rows, claimOrder row other = true := by
    intro row hhead other hother
    obtain ⟨rest, hsplit⟩ := List.head?_eq_some_iff.1 hhead
    rw [hsplit, List.pairwise_cons] at hsorted
    rw [hsplit, List.mem_cons] at hother
    rcases hother with rfl | hother
    · exact or_self_iff.1 (claimOrder_total other other)
    · exact hsorted.1 other hother
  constructor
  · intro hhead
    exact ⟨(hmem id delivery).1 (List.mem_of_mem_head? hhead),
      fun id' other hother => hleast _ hhead _ ((hmem id' other).2 hother)⟩
  · rintro ⟨hclaimable, hfirst⟩
    cases hhead : rows.head? with
    | none =>
      have hnone := (hmem id delivery).2 hclaimable
      rw [List.head?_eq_none_iff.1 hhead] at hnone
      cases hnone
    | some row =>
      obtain ⟨id', other⟩ := row
      have hother := (hmem id' other).1 (List.mem_of_mem_head? hhead)
      obtain rfl : id = id' := claimOrder_antisymm (hfirst id' other hother)
        (hleast _ hhead _ ((hmem id delivery).2 hclaimable))
      rw [Option.some.inj (hother.stored.symm.trans hclaimable.stored)]

end Candidates

section Steps
variable {s : Site} {t t' : Tables} {call : ClaimCall}

theorem claimReady_enabled {now : Time} {delivery : WebhookDeliveryAttempt}
    (h : claimReady t now delivery = true) : statusOf t delivery.destinationId ≠ some .disabled := by
  simp only [claimReady, Bool.and_eq_true] at h
  obtain ⟨-, htakes⟩ := h
  intro hdisabled
  obtain ⟨destination, hget, hstatus⟩ := Option.map_eq_some_iff.1 hdisabled
  rw [hget, Option.any_some, takesDeliveries, hstatus] at htakes
  exact absurd htakes (by decide)

theorem claimReadyDeliveries_destinations (candidates : List (Uuid × WebhookDeliveryAttempt))
    (t : Tables) : (candidates.foldl (claimReadyDelivery s call) t).destinations = t.destinations := by
  induction candidates generalizing t with
  | nil => rfl
  | cons candidate candidates ih => exact ih (claimReadyDelivery s call t candidate)

theorem canary_enabled (now : Option Time) (batchSize : ℕ) (call : ClaimCall) :
    HandsToEnabled s t (.claimWebhookDeliveryCanary now batchSize call) := by
  intro claim hclaim
  cases hrun : claimWebhookDeliveryCanary s t now batchSize call with
  | error failure =>
    rw [handedBy, hrun] at hclaim
    cases hclaim
  | ok result =>
    obtain ⟨t', claims⟩ := result
    rw [handedBy, hrun] at hclaim
    rw [step, hrun, commit]
    simp only [claimWebhookDeliveryCanary, bind_ok, pure_ok, Prod.mk.injEq] at hrun
    obtain ⟨-, -, -, -, mid, -, rfl, rfl⟩ := hrun
    obtain ⟨candidate, hcandidate, rfl⟩ := List.mem_map.1 hclaim
    -- the candidates are read after the first loop, which may have disabled destinations
    obtain ⟨-, hready⟩ := Table.mem_take_sorted hcandidate
    rw [Bool.and_eq_true] at hready
    rw [statusOf, claimReadyDeliveries_destinations]
    exact claimReady_enabled hready.1

theorem expired_waits {now : Time} {delivery : WebhookDeliveryAttempt} :
    (expired now delivery).status = .deadLettered ↔
      ¬ delivery.attemptCount < delivery.maxAttempts := by
  simp only [expired, decide_eq_true_eq]
  split_ifs with hfinal
  · exact ⟨fun _ => by omega, fun _ => rfl⟩
  · exact ⟨by rintro ⟨⟩, fun h => absurd h (by omega)⟩

/-- What `claim_webhook_delivery` hands out, by what it selects. The destinations are left as they
are whenever it hands out a claim. -/
theorem claimWebhookDelivery_hands {projectId : Uuid} {claim : ClaimedDelivery}
    (h : claimWebhookDelivery s t projectId call = .ok (t', some claim)) :
    ∃ id delivery, claimCandidate t call projectId = some (id, delivery) ∧
      (delivery.status = .claimed → delivery.attemptCount < delivery.maxAttempts) ∧
      claim.destinationId = delivery.destinationId ∧ t'.destinations = t.destinations := by
  simp only [claimWebhookDelivery, bind_ok] at h
  obtain ⟨-, -, h⟩ := h
  split at h
  · cases h
  next id delivery hcandidate =>
    refine ⟨id, delivery, hcandidate, ?_⟩
    split_ifs at h with hclaimed hdead
    · simp only [bind_ok, pure_ok, Prod.mk.injEq, reduceCtorEq, and_false, exists_false] at h
    · obtain ⟨rfl, hclaim⟩ := Prod.mk.inj (pure_ok.1 h)
      obtain rfl := Option.some.inj hclaim
      rw [expired_waits, not_not] at hdead
      exact ⟨fun _ => hdead, rfl, rfl⟩
    · obtain ⟨rfl, hclaim⟩ := Prod.mk.inj (pure_ok.1 h)
      obtain rfl := Option.some.inj hclaim
      exact ⟨fun h => absurd h hclaimed, rfl, rfl⟩

theorem claim_enabled {projectId : Uuid}
    (h : ¬ ReclaimsDisabled t (.claimWebhookDelivery projectId call)) :
    HandsToEnabled s t (.claimWebhookDelivery projectId call) := by
  intro claim hclaim hdisabled
  cases hrun : claimWebhookDelivery s t projectId call with
  | error failure =>
    rw [handedBy, hrun] at hclaim
    cases hclaim
  | ok result =>
    obtain ⟨t', handed⟩ := result
    rw [handedBy, hrun] at hclaim
    obtain rfl : handed = some claim := Option.mem_toList.1 hclaim
    rw [step, hrun, commit] at hdisabled
    have hvalid : (15 ≤ call.claimSeconds ∧ call.claimSeconds ≤ 120) ∧
        workerIdValid call.workerId = true := by
      simp only [claimWebhookDelivery, bind_ok, require_ok] at hrun
      obtain ⟨-, hvalid, -⟩ := hrun
      exact hvalid
    obtain ⟨id, delivery, hcandidate, hattempts, hdestination, hsame⟩ :=
      claimWebhookDelivery_hands hrun
    rw [statusOf, hsame, hdestination] at hdisabled
    obtain ⟨hclaimable, hfirst⟩ := claimCandidate_iff.1 hcandidate
    rcases hclaimable.due with hready | ⟨hexpired, -⟩
    · exact claimReady_enabled hready hdisabled
    · exact h ⟨hvalid, id, delivery, hclaimable, hexpired,
        hattempts (claimExpired_claimed hexpired), hdisabled, hfirst⟩

theorem lapsed_handed {projectId : Uuid}
    (h : ReclaimsDisabled t (.claimWebhookDelivery projectId call)) :
    ¬ HandsToEnabled s t (.claimWebhookDelivery projectId call) := by
  obtain ⟨hvalid, id, delivery, hclaimable, hexpired, hattempts, hdisabled, hfirst⟩ := h
  have hcandidate := claimCandidate_iff.2 ⟨hclaimable, hfirst⟩
  have hwaits : (expired call.serverNow delivery).status ≠ .deadLettered := by
    rw [Ne, expired_waits, not_not]
    exact hattempts
  obtain ⟨t', hrun, hsame⟩ : ∃ t', claimWebhookDelivery s t projectId call =
      .ok (t', some (handedOut call (id, expired call.serverNow delivery))) ∧
      t'.destinations = t.destinations := by
    refine ⟨claimReadyDelivery s call (recordDelivery t id (expired call.serverNow delivery) .claimed
      "CLAIM_EXPIRED") (id, expired call.serverNow delivery), ?_, rfl⟩
    simp only [claimWebhookDelivery, bind_ok, require_ok, hcandidate]
    refine ⟨(), hvalid, ?_⟩
    rw [if_pos (claimExpired_claimed hexpired), if_neg hwaits]
    rfl
  intro hhands
  have hmem : handedOut call (id, expired call.serverNow delivery) ∈
      handedBy s t (.claimWebhookDelivery projectId call) := by
    rw [handedBy, hrun]
    exact List.mem_singleton_self _
  apply hhands _ hmem
  rw [step, hrun, commit, statusOf, hsame]
  exact hdisabled

theorem handsToEnabled_iff (op : Op) : HandsToEnabled s t op ↔ ¬ ReclaimsDisabled t op := by
  cases op with
  | claimWebhookDelivery projectId call =>
    exact ⟨fun hhands hlapsed => lapsed_handed hlapsed hhands, claim_enabled⟩
  | claimWebhookDeliveryCanary now batchSize call =>
    exact ⟨fun _ hnever => hnever, fun _ => canary_enabled now batchSize call⟩
  | _ => exact ⟨fun _ hnever => hnever, fun _ _ hclaim => (nomatch hclaim)⟩

end Steps

/-- Every claim of a run is handed out for a destination that is not disabled, exactly when no call
of `claim_webhook_delivery` comes to an expired claim, with attempts left, on a delivery of a
disabled destination. -/
theorem claims_enabled_iff (s : Site) (plane : State) (ops : List Op) :
    (∀ before op later, ops = before ++ op :: later →
        HandsToEnabled s (after s plane before) op) ↔
      Along (step s) (fun t op => ¬ ReclaimsDisabled t op) (opening plane) ops := by
  rw [along_iff]
  constructor
  · intro h before op later hops
    exact (handsToEnabled_iff op).1 (h before op later hops)
  · intro h before op later hops
    exact (handsToEnabled_iff op).2 (h before op later hops)

/-- A delivery is claimed, its destination is disabled by an operator, and the claim expires. -/
def lapsedRun : List Op :=
  [ .emitEvent WebhookActivation.sampleEmission WebhookActivation.sampleSubject,
    .createWebhookDestination { userId := 1, idempotencyKey := "destination", now := 0 } 1 7 8
      { name := "hook", endpointUrl := "endpoint", eventTypes := ["run.created"]
        signingSecret := "secret" },
    .verifyWebhookDestination { projectId := 1, destinationId := 7, expectedVersion := 1 } 10 20 0,
    .claimWebhookDelivery 1 (WebhookActivation.sampleClaim 1),
    .disableWebhookDestination { projectId := 1, destinationId := 7, expectedVersion := 1 } ]

def lapsedClaim : Op := .claimWebhookDelivery 1 (WebhookActivation.sampleClaim (seconds 60))

set_option maxRecDepth 8000 in
/-- The token is handed out, with the destination disabled before and after. -/
theorem disabled_destination_claimed :
    ((handedBy WebhookActivation.plainSite
        (after WebhookActivation.plainSite WebhookActivation.oneProject lapsedRun) lapsedClaim).map
      (fun claim => (claim.destinationId, claim.claimToken))) = [(7, WebhookActivation.sampleToken)] ∧
      statusOf (after WebhookActivation.plainSite WebhookActivation.oneProject lapsedRun) 7 =
        some .disabled ∧
      statusOf (after WebhookActivation.plainSite WebhookActivation.oneProject
        (lapsedRun ++ [lapsedClaim])) 7 = some .disabled := by
  decide +kernel

end RoozDataCloud.WebhookClaims
