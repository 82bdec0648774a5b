import RoozDataCloud.StatusChains
import RoozDataCloud.WebhookActivation

set_option autoImplicit false

/-!
# The lifecycle of a webhook delivery

What holds of every delivery in every run: its attempts are bounded, a delivery
that has succeeded is final, its transitions lead from nothing to its status, a
completion without the current claim changes nothing, and a replay request takes
effect once.
-/
namespace RoozDataCloud.WebhookDeliveries
open KeyedTable NumberedLog StatusChains ExecutionModels FallibleSteps WebhookModels
open WebhookLifecycle WebhookMoves WebhookActivation

def statusOf (t : Tables) (id : Uuid) : Option DeliveryStatus :=
  (t.webhooks.deliveries.get? id).map (·.status)

def transitionsOf (t : Tables) (id : Uuid) : List (ℕ × WebhookDeliveryTransition) :=
  entries t.webhooks.transitions id

def changesOf (t : Tables) (id : Uuid) : List (Option DeliveryStatus × DeliveryStatus) :=
  (transitionsOf t id).map (fun entry => (entry.2.fromStatus, entry.2.toStatus))

/-- The transitions of a delivery are numbered from one on and lead to the status it has. -/
structure Recorded (t : Tables) (id : Uuid) : Prop where
  consecutive : Consecutive t.webhooks.transitions id
  chain : Composes none (changesOf t id) (statusOf t id)

/-- A write leaves the status of a delivery and its transitions, or changes the status and adds
the one transition that says so. -/
def RecordsChange (t t' : Tables) (id : Uuid) : Prop :=
  (statusOf t' id = statusOf t id ∧ transitionsOf t' id = transitionsOf t id) ∨
    ∃ number row, transitionsOf t' id = transitionsOf t id ++ [(number, row)] ∧
      row.fromStatus = statusOf t id ∧ some row.toStatus = statusOf t' id ∧
      statusOf t' id ≠ statusOf t id

/-- The call names the digest of the claim that is held now and has not expired. -/
def HoldsClaim (t : Tables) (call : CompletionCall) : Prop :=
  ∃ delivery expiry, t.webhooks.deliveries.get? call.deliveryId = some delivery ∧
    delivery.status = .claimed ∧ delivery.claimTokenDigest = some call.claimTokenDigest ∧
    delivery.claimExpiresAt = some expiry ∧ call.serverNow < expiry

section Rows
variable {s : Site} {old new : WebhookDeliveryAttempt} {reasonCode : String}

structure Bounded (delivery : WebhookDeliveryAttempt) : Prop where
  attempts : delivery.attemptCount ≤ delivery.maxAttempts
  positive : 1 ≤ delivery.maxAttempts
  waiting : Waiting delivery → delivery.attemptCount < delivery.maxAttempts
  digest : delivery.status = .claimed → delivery.claimTokenDigest ≠ none

theorem Bounded.expired {now : Time} (h : Bounded old) : Bounded (expired now old) := by
  refine ⟨h.attempts, h.positive, fun hwaiting => ?_, fun hclaimed => ?_⟩
  · simp only [Waiting, WebhookLifecycle.expired, decide_eq_true_eq] at hwaiting ⊢
    split_ifs at hwaiting with hfinal
    · simp at hwaiting
    · omega
  · simp only [WebhookLifecycle.expired] at hclaimed
    split_ifs at hclaimed

theorem Bounded.completed {call : CompletionCall} {outcome : DeliveryOutcome} (h : Bounded old) :
    Bounded (completed outcome call old) := by
  refine ⟨h.attempts, h.positive, fun hwaiting => ?_, fun hclaimed => ?_⟩
  · simp only [Waiting, WebhookLifecycle.completed, nextStatus] at hwaiting ⊢
    split_ifs at hwaiting with hdelivered hretry
    · simp at hwaiting
    · exact hretry.2
    · simp at hwaiting
  · simp only [WebhookLifecycle.completed, nextStatus] at hclaimed
    split_ifs at hclaimed

theorem Bounded.change (h : Bounded old) (hchange : DeliveryChange s old new reasonCode) :
    Bounded new := by
  cases hchange with
  | expired now _ => exact h.expired
  | claimed tokenDigest workerId expiresAt hwaiting =>
    refine ⟨h.waiting hwaiting, h.positive, fun hnew => ?_, fun _ => nofun⟩
    rcases hnew with hnew | hnew <;> cases hnew
  | completed call outcome _ => exact h.completed
  | replayed caller _ => exact ⟨Nat.zero_le _, h.positive, fun _ => h.positive, nofun⟩

theorem status_changed (hchange : DeliveryChange s old new reasonCode) :
    new.status ≠ old.status ∧ new.version = old.version + 1 := by
  refine ⟨?_, by cases hchange <;> rfl⟩
  cases hchange with
  | expired now h =>
    rw [claimExpired_claimed h]
    simp only [expired]
    split_ifs <;> rintro ⟨⟩
  | claimed tokenDigest workerId expiresAt h =>
    rcases h with h | h <;> rw [h] <;> rintro ⟨⟩
  | completed call outcome h =>
    rw [claimHeld_claimed h]
    simp only [completed, nextStatus]
    split_ifs <;> rintro ⟨⟩
  | replayed caller h =>
    rw [h]
    rintro ⟨⟩

end Rows

section Moves
variable {s : Site} {op : Op} {t t' : Tables} {id : Uuid} {delivery : WebhookDeliveryAttempt}

/-- What a move does to one delivery and its transitions. -/
theorem delivery_move (hmove : Move s op t t') (id : Uuid) :
    (t'.webhooks.deliveries.get? id = t.webhooks.deliveries.get? id ∧
      entries t'.webhooks.transitions id = entries t.webhooks.transitions id) ∨
    (∃ delivery, t.webhooks.deliveries.get? id = none ∧
      t'.webhooks.deliveries.get? id = some delivery ∧ delivery.status = .pending ∧
      delivery.attemptCount = 0 ∧ 1 ≤ delivery.maxAttempts ∧
      t'.webhooks.transitions = append t.webhooks.transitions id
        ⟨none, delivery.status, "ENQUEUED", delivery.attemptCount⟩) ∨
    ∃ old new reasonCode, t.webhooks.deliveries.get? id = some old ∧
      DeliveryChange s old new reasonCode ∧ t'.webhooks.deliveries.get? id = some new ∧
      t'.webhooks.transitions = append t.webhooks.transitions id
        ⟨some old.status, new.status, reasonCode, new.attemptCount⟩ := by
  cases hmove with
  | frame plane events => exact .inl ⟨rfl, rfl⟩
  | create projectId destinationId secretId name valid hinsert =>
    simp only [insertDestination, bind_ok, pure_ok, demand_ok] at hinsert
    obtain ⟨-, -, secrets, -, written, -, destinations, -, rfl⟩ := hinsert
    exact .inl ⟨rfl, rfl⟩
  | @enqueue _ _ deliveryId _ _ _ _ delivery deliveries hdestination hbound hmax hinsert =>
    by_cases hid : id = deliveryId
    · subst hid
      obtain ⟨-, hstatus, hattempts, hmaxAttempts, -⟩ := boundDelivery_ok hbound
      refine .inr (.inl ⟨delivery, Table.insert_fresh hinsert, ?_, hstatus, hattempts, ?_, rfl⟩)
      · exact (Table.get?_insert hinsert _).trans (if_pos rfl)
      · rw [hmaxAttempts]
        exact hmax.1
    · refine .inl ⟨?_, entries_append_ne hid⟩
      exact (Table.get?_insert hinsert _).trans (if_neg hid)
  | @deliver deliveryId old new reasonCode hget hchange =>
    by_cases hid : id = deliveryId
    · subst hid
      refine .inr (.inr ⟨old, new, reasonCode, hget, hchange, ?_, rfl⟩)
      exact (Table.get?_modify_self _ _ _).trans (by rw [hget, Option.map_some])
    · exact .inl ⟨Table.get?_modify_ne _ _ hid, entries_append_ne hid⟩
  | update hget hchange hguard => exact .inl ⟨rfl, rfl⟩
  | rotate hop hget hcall hsecret hsecrets hguard => exact .inl ⟨rfl, rfl⟩

theorem deliveries_move {P : WebhookDeliveryAttempt → Prop}
    (hnew : ∀ delivery, delivery.status = .pending → delivery.attemptCount = 0 →
      1 ≤ delivery.maxAttempts → P delivery)
    (hchange : ∀ old new reasonCode, P old → DeliveryChange s old new reasonCode → P new)
    (h : ∀ id delivery, t.webhooks.deliveries.get? id = some delivery → P delivery)
    (hmove : Move s op t t') (id : Uuid) (delivery : WebhookDeliveryAttempt)
    (hget : t'.webhooks.deliveries.get? id = some delivery) : P delivery := by
  rcases delivery_move hmove id with ⟨hsame, -⟩ |
    ⟨enqueued, -, hget', hstatus, hattempts, hmax, -⟩ | ⟨old, new, reasonCode, hold, hrow, hget', -⟩
  · exact h id delivery (hsame ▸ hget)
  · obtain rfl := Option.some.inj (hget'.symm.trans hget)
    exact hnew _ hstatus hattempts hmax
  · obtain rfl := Option.some.inj (hget'.symm.trans hget)
    exact hchange old _ reasonCode (h id old hold) hrow

theorem records_move (hmove : Move s op t t') (id : Uuid) : RecordsChange t t' id := by
  unfold RecordsChange statusOf transitionsOf
  rcases delivery_move hmove id with ⟨hsame, hentries⟩ |
    ⟨delivery, hnone, hget, -, -, -, hlog⟩ | ⟨old, new, reasonCode, hold, hchange, hget, hlog⟩
  · exact .inl ⟨by rw [hsame], hentries⟩
  · rw [hnone, hget, hlog]
    exact .inr ⟨_, _, entries_append_self, rfl, rfl, nofun⟩
  · rw [hold, hget, hlog]
    refine .inr ⟨_, _, entries_append_self, rfl, rfl, fun hstatus => ?_⟩
    exact (status_changed hchange).1 (Option.some.inj hstatus)

theorem recorded_move (h : Recorded t id) (hmove : Move s op t t') : Recorded t' id := by
  have hnumbers : Consecutive t'.webhooks.transitions id := by
    rcases delivery_move hmove id with ⟨-, hentries⟩ | ⟨_, -, -, -, -, -, hlog⟩ | ⟨_, _, _, -, -, -, hlog⟩
    · rw [Consecutive, hentries]
      exact h.consecutive
    · rw [hlog]
      exact h.consecutive.append _
    · rw [hlog]
      exact h.consecutive.append _
  refine ⟨hnumbers, ?_⟩
  rcases records_move hmove id with ⟨hstatus, hrows⟩ | ⟨number, row, hrows, hfrom, hto, hne⟩
  · rw [changesOf, hstatus, hrows]
    exact h.chain
  · rw [changesOf, hrows, List.map_append, List.map_singleton, hfrom, ← hto]
    exact h.chain.snoc (fun heq => hne (hto ▸ heq.symm))

theorem version_move {n : ℕ} (h : ∃ delivery, t.webhooks.deliveries.get? id = some delivery ∧
      n ≤ delivery.version) (hmove : Move s op t t') :
    ∃ delivery, t'.webhooks.deliveries.get? id = some delivery ∧ n ≤ delivery.version := by
  obtain ⟨delivery, hget, hle⟩ := h
  rcases delivery_move hmove id with ⟨hsame, -⟩ | ⟨_, hnone, -⟩ | ⟨old, new, _, hold, hchange, hnew, -⟩
  · exact ⟨delivery, hsame.trans hget, hle⟩
  · rw [hget] at hnone
    cases hnone
  · obtain rfl := Option.some.inj (hget.symm.trans hold)
    refine ⟨new, hnew, ?_⟩
    have hversion := (status_changed hchange).2
    omega

end Moves

section Runs
variable (s : Site) (plane : State) (ops : List Op)

theorem bounded_after (id : Uuid) (delivery : WebhookDeliveryAttempt)
    (h : (after s plane ops).webhooks.deliveries.get? id = some delivery) : Bounded delivery := by
  refine after_invariant (P := fun t => ∀ id delivery,
      t.webhooks.deliveries.get? id = some delivery → Bounded delivery) s plane ops
    (fun _ _ hget => (nomatch hget)) (fun op t t' ht hmove => ?_) id delivery h
  refine deliveries_move (fun delivery hstatus hattempts hmax => ?_)
    (fun _ _ _ => Bounded.change) ht hmove
  exact ⟨hattempts ▸ Nat.zero_le _, hmax, fun _ => hattempts ▸ hmax, fun h => by simp [hstatus] at h⟩

theorem recorded_after (id : Uuid) : Recorded (after s plane ops) id :=
  after_invariant s plane ops ⟨rfl, rfl⟩ (fun _ _ _ => recorded_move)

theorem succeeded_stays {id : Uuid} (later : List Op)
    (h : statusOf (after s plane ops) id = some .succeeded) :
    statusOf (after s plane (ops ++ later)) id = some .succeeded := by
  obtain ⟨delivery, hget, hstatus⟩ := Option.map_eq_some_iff.1 h
  have hstays := later_invariant
    (P := fun t => t.webhooks.deliveries.get? id = some delivery) s plane ops later hget
    (fun _ _ _ ht hmove => keepsSucceeded_move hmove id delivery ht hstatus)
  rw [statusOf, hstays, Option.map_some, hstatus]

theorem step_records (op : Op) (t : Tables) :
    Relation.ReflTransGen (fun t t' => Move s op t t' ∧ ∀ id, RecordsChange t t' id) t
      (step s t op) :=
  Relation.ReflTransGen.mono (fun _ _ hmove => ⟨hmove, records_move hmove⟩) _ _ (step_moves s t op)

theorem completion_fenced (call : CompletionCall) (h : ¬ HoldsClaim (after s plane ops) call) :
    step s (after s plane ops) (.completeWebhookDeliveryCanary call) = after s plane ops := by
  refine commit_cases (P := fun t' => t' = after s plane ops) rfl (fun t' result hrun => ?_)
  have hnone : ((after s plane ops).webhooks.deliveries.get? call.deliveryId).filter
      (claimHeld call) = none := by
    by_contra hsome
    obtain ⟨delivery, hfound⟩ := Option.ne_none_iff_exists'.1 hsome
    obtain ⟨hget, hheld⟩ := Option.filter_eq_some_iff.1 hfound
    -- a claimed delivery has a digest, so the comparison is not with NULL
    obtain ⟨digest, hdigest⟩ := Option.ne_none_iff_exists'.1
      ((bounded_after s plane ops _ _ hget).digest (claimHeld_claimed hheld))
    simp only [claimHeld, hdigest, Bool.and_eq_true, Option.any_some, Bool.not_eq_true',
      decide_eq_false_iff_not, not_not, decide_eq_true_eq] at hheld
    obtain ⟨⟨hclaimed, rfl⟩, hexpiry⟩ := hheld
    obtain ⟨hsome, hlt⟩ := (Option.any_eq_true_iff_get _ _).1 hexpiry
    exact h ⟨delivery, _, hget, hclaimed, hdigest, (Option.some_get hsome).symm,
      of_decide_eq_true hlt⟩
  simp only [completeWebhookDeliveryCanary, bind_ok, hnone] at hrun
  obtain ⟨-, -, hrun⟩ := hrun
  split_ifs at hrun
  · simp only [bind_ok, pure_ok] at hrun
    obtain ⟨-, -, -, -, hpair⟩ := hrun
    exact (Prod.mk.inj hpair).1.symm
  · exact (Prod.mk.inj (pure_ok.1 hrun)).1.symm

theorem replay_effect (t : Tables) (call : ReplayCall) :
    step s t (.replayWebhookDelivery call) = t ∨
      ∃ old new, t.webhooks.deliveries.get? call.deliveryId = some old ∧
        old.version = call.expectedVersion ∧ new.version = old.version + 1 ∧
        (step s t (.replayWebhookDelivery call)).webhooks.deliveries.get? call.deliveryId =
          some new := by
  refine commit_cases (P := fun t' => t' = t ∨ ∃ old new,
    t.webhooks.deliveries.get? call.deliveryId = some old ∧ old.version = call.expectedVersion ∧
      new.version = old.version + 1 ∧
      t'.webhooks.deliveries.get? call.deliveryId = some new) (.inl rfl) (fun t' id hrun => ?_)
  rcases replayWebhookDelivery_ok hrun with
    rfl | ⟨old, mid, hget, -, hversion, -, -, hupdate, rfl⟩
  · exact .inl rfl
  · refine .inr ⟨old, replayed s call.caller old, hget, hversion, rfl, ?_⟩
    refine (Table.get?_modify_self _ _ _).trans ?_
    rw [updateDestination_webhooks hupdate, hget, Option.map_some]

theorem replay_once (call call' : ReplayCall) (middle : List Op)
    (hdelivery : call'.deliveryId = call.deliveryId)
    (hversion : call'.expectedVersion = call.expectedVersion)
    (heffect : step s (after s plane ops) (.replayWebhookDelivery call) ≠ after s plane ops) :
    step s (after s plane (ops ++ [.replayWebhookDelivery call] ++ middle))
      (.replayWebhookDelivery call') =
        after s plane (ops ++ [.replayWebhookDelivery call] ++ middle) := by
  obtain ⟨old, new, -, hold, hnew, hget⟩ :=
    (replay_effect s (after s plane ops) call).resolve_left heffect
  rw [← after_snoc] at hget
  -- from here on the version is greater than the one both calls expect
  obtain ⟨delivery, hlater, hle⟩ := later_invariant
    (P := fun t => ∃ delivery, t.webhooks.deliveries.get? call.deliveryId = some delivery ∧
      call.expectedVersion + 1 ≤ delivery.version) s plane (ops ++ [.replayWebhookDelivery call])
    middle ⟨new, hget, by omega⟩ (fun _ _ _ => version_move)
  rcases replay_effect s (after s plane (ops ++ [.replayWebhookDelivery call] ++ middle)) call' with
    hsame | ⟨old', _, hget', hexpected, -, -⟩
  · exact hsame
  · rw [hdelivery, hlater, Option.some.injEq] at hget'
    subst hget'
    omega

end Runs

/-- The lifecycle of a delivery, in every state of every run. -/
theorem delivery_lifecycle (s : Site) (plane : State) (ops : List Op) :
    (∀ id delivery, (after s plane ops).webhooks.deliveries.get? id = some delivery →
      delivery.attemptCount ≤ delivery.maxAttempts) ∧
    (∀ id later, statusOf (after s plane ops) id = some .succeeded →
      statusOf (after s plane (ops ++ later)) id = some .succeeded) ∧
    (∀ id, Recorded (after s plane ops) id) ∧
    (∀ op, Relation.ReflTransGen (fun t t' => Move s op t t' ∧ ∀ id, RecordsChange t t' id)
      (after s plane ops) (after s plane (ops ++ [op]))) ∧
    (∀ call, ¬ HoldsClaim (after s plane ops) call →
      after s plane (ops ++ [.completeWebhookDeliveryCanary call]) = after s plane ops) ∧
    (∀ call call' middle, call'.deliveryId = call.deliveryId →
      call'.caller.idempotencyKey = call.caller.idempotencyKey →
      call'.expectedVersion = call.expectedVersion →
      after s plane (ops ++ [.replayWebhookDelivery call]) ≠ after s plane ops →
      after s plane (ops ++ [.replayWebhookDelivery call] ++ middle ++
          [.replayWebhookDelivery call']) =
        after s plane (ops ++ [.replayWebhookDelivery call] ++ middle)) := by
  refine ⟨fun id delivery h => (bounded_after s plane ops id delivery h).attempts,
    fun id later => succeeded_stays s plane ops later, recorded_after s plane ops,
    fun op => ?_, fun call h => ?_, fun call call' middle hdelivery _ hversion heffect => ?_⟩
  · rw [after_snoc]
    exact step_records s op (after s plane ops)
  · rw [after_snoc]
    exact completion_fenced s plane ops call h
  · rw [after_snoc] at heffect
    rw [after_snoc]
    exact replay_once s plane ops call call' middle hdelivery hversion heffect

end RoozDataCloud.WebhookDeliveries
