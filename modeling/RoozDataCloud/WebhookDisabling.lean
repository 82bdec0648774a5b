import RoozDataCloud.WebhookActivation

set_option autoImplicit false

/-!
# Disabled webhook destinations

A destination that is disabled is left alone by every operation but two. A replay
enables a destination that was disabled automatically, as it should. A rotation
of the signing secret does not look at the status and returns every destination
to pending verification, also one that an operator has disabled.
-/
namespace RoozDataCloud.WebhookDisabling
open KeyedTable ExecutionModels FallibleSteps WebhookModels WebhookLifecycle WebhookMoves
open WebhookActivation

def statusOf (t : Tables) (id : Uuid) : Option DestinationStatus :=
  (t.destinations.get? id).map (·.status)

def reasonOf (t : Tables) (id : Uuid) : Option DisabledReason :=
  (t.destinations.get? id).bind (·.disabledReason)

/-- What holds of a whole run. -/
structure DisabledStays (s : Site) (plane : State) (ops : List Op) : Prop where
  operator : ∀ before middle later, ops = before ++ middle ++ later → ∀ id,
    reasonOf (after s plane before) id = some .operatorDisabled →
    statusOf (after s plane (before ++ middle)) id = some .disabled
  automatic : ∀ before op later, ops = before ++ op :: later → ∀ id,
    reasonOf (after s plane before) id = some .autoFailureThreshold →
    statusOf (after s plane (before ++ [op])) id = some .disabled ∨
      Replays (after s plane before) op id

/-- The rotation of a disabled destination, which its checks let pass. -/
def RotatesDisabled (t : Tables) : Op → Prop
  | .rotateWebhookSigningSecret call => ∃ destination,
    t.destinations.get? call.destinationId = some destination ∧ destination.status = .disabled ∧
    destination.projectId = call.projectId ∧ destination.version = call.expectedVersion ∧
    projectAlive t destination.projectId = true
  | _ => False

/-- A destination's secret is a secret of its project. -/
def Placed (s : Site) (t : Tables) : Prop :=
  ∀ id destination, t.destinations.get? id = some destination →
    ∃ secret, t.secrets.get? destination.signingSecretId = some secret ∧
      secret.organizationId = s.organizationOf destination.projectId ∧
      secret.projectId = destination.projectId

section Placement
variable {s : Site} {op : Op} {t t' : Tables} {id : Uuid} {destination new written : WebhookDestination}

theorem DestinationChange.project (h : DestinationChange op t id destination new) :
    new.projectId = destination.projectId ∧
      new.signingSecretId = destination.signingSecretId := by
  cases h <;> exact ⟨rfl, rfl⟩

theorem Placed.write (h : ∀ id' other, id' ≠ id → t.destinations.get? id' = some other →
      ∃ secret, t.secrets.get? other.signingSecretId = some secret ∧
        secret.organizationId = s.organizationOf other.projectId ∧
        secret.projectId = other.projectId)
    (hguard : tenancyGuard s t new = .ok written) :
    Placed s { t with destinations := t.destinations.modify id (fun _ => written) } := by
  intro id' row hrow
  rw [Table.get?_modify] at hrow
  split_ifs at hrow with hid
  · obtain ⟨old, -, rfl⟩ := Option.map_eq_some_iff.1 hrow
    obtain ⟨-, secret, hstored, horganization, hproject, rfl⟩ := tenancyGuard_ok hguard
    exact ⟨secret, hstored, horganization, hproject⟩
  · exact h id' row hid hrow

theorem placed_move (h : Placed s t) (hmove : Move s op t t') : Placed s t' := by
  cases hmove with
  | frame plane events => exact h
  | create projectId destinationId secretId name valid hinsert =>
    simp only [insertDestination, bind_ok, pure_ok, demand_ok] at hinsert
    obtain ⟨-, -, secrets, hsecrets, written, hguard, destinations, hrow, rfl⟩ := hinsert
    obtain ⟨-, secret, hstored, horganization, hproject, rfl⟩ := tenancyGuard_ok hguard
    intro id' destination' hget
    rw [Table.get?_insert hrow] at hget
    split_ifs at hget with hid
    · obtain rfl := Option.some.inj hget
      exact ⟨secret, hstored, horganization, hproject⟩
    · obtain ⟨secret', hget', hplaced⟩ := h id' destination' hget
      exact ⟨secret', Table.get?_insert_old hsecrets hget', hplaced⟩
  | enqueue hdestination hbound hmax hinsert => exact h
  | deliver hget hchange => exact h
  | update hget hchange hguard => exact Placed.write (fun id' other _ => h id' other) hguard
  | @rotate call old written secret secrets hop hget hcall hsecret hsecrets hguard =>
    refine Placed.write (t := { t with secrets := secrets }) (fun id' other _ hother => ?_) hguard
    obtain ⟨secret', hget', hplaced⟩ := h id' other hother
    -- the rotation of a secret leaves it in its project
    have hnew : secrets.get? other.signingSecretId =
        some (if other.signingSecretId = old.signingSecretId
          then { secret' with version := secret'.version + 1 } else secret') := by
      rw [hsecrets, Table.get?_modify, hget']
      split_ifs <;> rfl
    refine ⟨_, hnew, ?_⟩
    split_ifs <;> exact hplaced

theorem placed_after (s : Site) (plane : State) (ops : List Op) : Placed s (after s plane ops) :=
  after_invariant s plane ops (fun _ _ hget => (nomatch hget)) (fun _ _ _ => placed_move)

end Placement

section Steps
variable {s : Site} {op : Op} {t t' : Tables} {id : Uuid} {destination new : WebhookDestination}

theorem disabled_of_reason (h : Sound t) (hreason : reasonOf t id ≠ none) :
    statusOf t id = some .disabled := by
  unfold reasonOf at hreason
  cases hget : t.destinations.get? id with
  | none =>
    rw [hget] at hreason
    exact absurd rfl hreason
  | some destination =>
    rw [hget] at hreason
    rw [statusOf, hget, Option.map_some, (h.fit id destination hget).checks.disabledReason.2 hreason]

theorem reason_of_disabled (h : Sound t) (hstatus : statusOf t id = some .disabled) :
    reasonOf t id ≠ none := by
  obtain ⟨destination, hget, hdisabled⟩ := Option.map_eq_some_iff.1 hstatus
  rw [reasonOf, hget]
  exact (h.fit id destination hget).checks.disabledReason.1 hdisabled

/-- The reason stands, but an operator may take over a destination that was disabled automatically. -/
def Stands (before after : Option DisabledReason) : Prop :=
  (before = some .operatorDisabled → after = some .operatorDisabled) ∧ (before ≠ none → after ≠ none)

theorem Stands.refl (reason : Option DisabledReason) : Stands reason reason := ⟨id, id⟩

theorem Stands.trans {a b c : Option DisabledReason} (h : Stands a b) (h' : Stands b c) :
    Stands a c := ⟨h'.1 ∘ h.1, h'.2 ∘ h.2⟩

theorem stands_modify {secrets : Table Uuid SigningSecret} {written : WebhookDestination}
    (hget : t.destinations.get? id = some destination)
    (h : Stands destination.disabledReason written.disabledReason) (id' : Uuid) :
    Stands (reasonOf t id') (reasonOf
      { t with secrets := secrets, destinations := t.destinations.modify id (fun _ => written) } id') := by
  simp only [reasonOf, Table.get?_modify]
  split_ifs with hid
  · subst hid
    rw [hget]
    exact h
  · exact .refl _

theorem stands_change (h : Checks destination) (hchange : DestinationChange op t id destination new)
    (hop : ¬ Replays t op id) : Stands destination.disabledReason new.disabledReason := by
  have hopen : takesDeliveries destination = true → destination.disabledReason = none := by
    intro htakes
    by_contra hreason
    rw [takesDeliveries, h.disabledReason.2 hreason] at htakes
    exact absurd htakes (by decide)
  cases hchange with
  | failed reached htakes => exact ⟨fun hreason => (by simp [hopen htakes] at hreason),
      fun hreason => absurd (hopen htakes) hreason⟩
  | disabled => exact ⟨fun _ => rfl, fun _ => by rintro ⟨⟩⟩
  | activated now htakes => exact ⟨fun hreason => (by simp [hopen htakes] at hreason),
      fun hreason => absurd (hopen htakes) hreason⟩
  | enabled hreplays => exact absurd hreplays hop

theorem tenancyGuard_reason {written : WebhookDestination} (h : tenancyGuard s t new = .ok written) :
    written.disabledReason = new.disabledReason := by
  obtain ⟨-, secret, -, -, -, rfl⟩ := tenancyGuard_ok h
  rfl

theorem stands_move (h : Sound t) (hmove : Move s op t t')
    (hreplay : ∀ call, op ≠ .replayWebhookDelivery call)
    (hrotate : ∀ call, op ≠ .rotateWebhookSigningSecret call) (id : Uuid) :
    Stands (reasonOf t id) (reasonOf t' id) := by
  cases hmove with
  | frame plane events => exact .refl _
  | create projectId destinationId secretId name valid hinsert =>
    simp only [insertDestination, bind_ok, pure_ok, demand_ok] at hinsert
    obtain ⟨-, -, secrets, -, written, -, destinations, hrow, rfl⟩ := hinsert
    cases hget : t.destinations.get? id with
    | none => exact ⟨fun hreason => (by simp [reasonOf, hget] at hreason),
        fun hreason => (by simp [reasonOf, hget] at hreason)⟩
    | some destination =>
      rw [reasonOf, reasonOf, hget, Table.get?_insert_old hrow hget]
      exact .refl _
  | enqueue hdestination hbound hmax hinsert => exact .refl _
  | deliver hget hchange => exact .refl _
  | update hget hchange hguard =>
    refine stands_modify hget ?_ id
    rw [tenancyGuard_reason hguard]
    exact stands_change (h.fit _ _ hget).checks hchange
      (by rintro ⟨call, _, hop, _⟩; exact hreplay call hop)
  | rotate hop => exact absurd hop (hrotate _)

/-- A step keeps what is disabled, up to the replay that may enable it. -/
def Keeps (t : Tables) (op : Op) (t' : Tables) : Prop :=
  ∀ id, (reasonOf t id = some .operatorDisabled → reasonOf t' id = some .operatorDisabled) ∧
    (reasonOf t id = some .autoFailureThreshold → reasonOf t' id ≠ none ∨ Replays t op id)

theorem Keeps.of_stands (h : ∀ id, Stands (reasonOf t id) (reasonOf t' id)) : Keeps t op t' :=
  fun id => ⟨(h id).1, fun hreason => .inl ((h id).2 (hreason ▸ nofun))⟩

theorem replay_keeps {call : ReplayCall} (h : Sound t) :
    Keeps t (.replayWebhookDelivery call) (step s t (.replayWebhookDelivery call)) := by
  refine commit_cases (.of_stands (fun _ => .refl _)) (fun t' id hreplay => ?_)
  rcases replayWebhookDelivery_ok hreplay with
    rfl | ⟨delivery, mid, hget, -, -, -, hallowed, hupdate, rfl⟩
  · exact .of_stands (fun _ => .refl _)
  intro id
  show (_ → reasonOf mid id = _) ∧ (_ → reasonOf mid id ≠ none ∨ _)
  rcases updateDestination_ok hupdate with rfl | ⟨old, written, hold, -, hguard, rfl⟩
  · exact ⟨fun hreason => hreason, fun hreason => .inl (hreason ▸ nofun)⟩
  by_cases hid : id = delivery.destinationId
  · refine ⟨fun hreason => ?_, fun _ => .inr ⟨call, delivery, rfl, hget, hid.symm⟩⟩
    -- a replay looks at the reason first
    rw [hid, reasonOf, hold, Option.bind_some] at hreason
    rw [hold, Option.any_some, replayAllowed, hreason] at hallowed
    simp at hallowed
  · have hother : t.destinations.get? id = (t.destinations.modify delivery.destinationId
        (fun _ => written)).get? id := (Table.get?_modify_ne _ _ hid).symm
    rw [reasonOf, reasonOf, ← hother]
    exact ⟨fun hreason => hreason, fun hreason => .inl (hreason ▸ nofun)⟩

theorem rotate_keeps {call : DestinationCall} (h : Sound t)
    (hc : ¬ RotatesDisabled t (.rotateWebhookSigningSecret call)) :
    Keeps t (.rotateWebhookSigningSecret call) (step s t (.rotateWebhookSigningSecret call)) := by
  refine commit_cases (.of_stands (fun _ => .refl _)) (fun t' _ hrotate => ?_)
  obtain ⟨old, secret, written, secrets, hget, ⟨hproject, hversion⟩, hsecret, -, hguard, rfl⟩ :=
    rotateWebhookSigningSecret_ok hrotate
  have hopen : old.disabledReason = none := by
    by_contra hreason
    have halive : projectAlive t old.projectId = true := (tenancyGuard_ok hguard).1
    exact hc ⟨old, hget, (h.fit _ _ hget).checks.disabledReason.2 hreason, hproject, hversion, halive⟩
  refine .of_stands (stands_modify hget ?_)
  rw [hopen]
  exact ⟨nofun, fun hreason => absurd rfl hreason⟩

theorem step_keeps (h : Sound t) (hc : ¬ RotatesDisabled t op) : Keeps t op (step s t op) := by
  by_cases hreplay : ∃ call, op = .replayWebhookDelivery call
  · obtain ⟨call, rfl⟩ := hreplay
    exact replay_keeps h
  by_cases hrotate : ∃ call, op = .rotateWebhookSigningSecret call
  · obtain ⟨call, rfl⟩ := hrotate
    exact rotate_keeps h hc
  have hmoves := Moves.keeps (P := fun t' => Sound t' ∧ ∀ id, Stands (reasonOf t id) (reasonOf t' id))
    (step_moves s t op)
    (fun t₁ t₂ h₁ hmove => ⟨sound_move h₁.1 hmove, fun id => (h₁.2 id).trans
      (stands_move h₁.1 hmove (not_exists.1 hreplay) (not_exists.1 hrotate) id)⟩)
    ⟨h, fun id => .refl _⟩
  exact .of_stands hmoves.2

theorem rotate_enables {call : DestinationCall} (hplaced : Placed s t)
    (hc : RotatesDisabled t (.rotateWebhookSigningSecret call)) :
    reasonOf (step s t (.rotateWebhookSigningSecret call)) call.destinationId = none := by
  obtain ⟨old, hget, -, hproject, hversion, halive⟩ := hc
  obtain ⟨secret, hsecret, horganization, hsecretProject⟩ := hplaced _ _ hget
  have hlocked : lockedDestination t call = .ok old := by
    simp only [lockedDestination, bind_ok, demand_ok, require_ok, pure_ok,
      Option.filter_eq_some_iff, decide_eq_true_eq]
    exact ⟨old, ⟨hget, hproject⟩, (), hversion, rfl⟩
  obtain ⟨secrets, hsecrets⟩ : ∃ secrets, secrets = t.secrets.modify old.signingSecretId
      (fun secret => { secret with version := secret.version + 1 }) := ⟨_, rfl⟩
  have hbumped : secrets.get? old.signingSecretId =
      some { secret with version := secret.version + 1 } := by
    rw [hsecrets, Table.get?_modify_self, hsecret, Option.map_some]
  obtain ⟨written, hguard⟩ : ∃ written, tenancyGuard s { t with secrets := secrets }
      (rotated (secret.version + 1) old) = .ok written := by
    simp only [tenancyGuard, bind_ok, demand_ok, require_ok, pure_ok, Option.filter_eq_some_iff,
      Bool.and_eq_true, decide_eq_true_eq]
    exact ⟨_, (), halive, _, ⟨hbumped, horganization, hsecretProject⟩, rfl⟩
  have hrotate : rotateWebhookSigningSecret s t call = .ok ({ t with
      secrets := secrets
      destinations := t.destinations.modify call.destinationId (fun _ => written) }, ()) := by
    simp only [rotateWebhookSigningSecret, updateDestination, bind_ok, demand_ok, pure_ok,
      Option.filter_eq_some_iff, decide_eq_true_eq]
    refine ⟨old, hlocked, secret, ⟨hsecret, hsecretProject⟩, _, ?_, rfl⟩
    rw [← hsecrets, hget, Option.filter_some, if_pos rfl]
    exact bind_ok.2 ⟨written, hguard, rfl⟩
  rw [step, hrotate, commit, reasonOf, Table.get?_modify_self, hget, Option.map_some,
    Option.bind_some, tenancyGuard_reason hguard, rotated]

theorem step_exact (h : Sound t) (hplaced : Placed s t)
    (hkeeps : ∀ id, reasonOf t id ≠ none → reasonOf (step s t op) id ≠ none ∨ Replays t op id) :
    ¬ RotatesDisabled t op := by
  intro hc
  cases op with
  | rotateWebhookSigningSecret call =>
    have hafter := rotate_enables hplaced hc
    obtain ⟨old, hget, hdisabled, -⟩ := hc
    have hbefore : reasonOf t call.destinationId ≠ none :=
      reason_of_disabled h (by rw [statusOf, hget, Option.map_some, hdisabled])
    rcases hkeeps call.destinationId hbefore with hsome | ⟨_, _, hop, -⟩
    · exact hsome hafter
    · cases hop
  | _ => exact hc

end Steps

section Runs
variable (s : Site) (plane : State)

/-- In a run that rotates no disabled destination, a destination that an operator has disabled
stays so. -/
theorem operator_stays {id : Uuid} {before middle : List Op}
    (hc : Along (step s) (fun t op => ¬ RotatesDisabled t op) (after s plane before) middle)
    (hreason : reasonOf (after s plane before) id = some .operatorDisabled) :
    reasonOf (after s plane (before ++ middle)) id = some .operatorDisabled := by
  rw [after_append]
  have hrun := along_invariant (step s) (C := fun t op => ¬ RotatesDisabled t op)
    (P := fun t => Sound t ∧ reasonOf t id = some .operatorDisabled)
    (fun t op h hop => ⟨Moves.keeps (step_moves s t op) (fun _ _ => sound_move) h.1,
      (step_keeps h.1 hop id).1 h.2⟩) middle _ ⟨sound_after s plane before, hreason⟩ hc
  exact hrun.2

/-- What is disabled stays disabled, up to a replay of what was disabled automatically, exactly in
the runs that rotate the secret of no disabled destination. -/
theorem disabledStays_iff (ops : List Op) :
    DisabledStays s plane ops ↔
      Along (step s) (fun t op => ¬ RotatesDisabled t op) (opening plane) ops := by
  constructor
  · intro h
    rw [along_iff]
    intro before op later hops
    refine step_exact (sound_after s plane before) (placed_after s plane before)
      (fun id hbefore => ?_)
    show reasonOf (step s (after s plane before) op) id ≠ none ∨ Replays (after s plane before) op id
    rw [← after_snoc]
    cases hreason : reasonOf (after s plane before) id with
    | none => exact absurd hreason hbefore
    | some reason =>
      cases reason with
      | operatorDisabled =>
        have hstatus := h.operator before [op] later (by simp [hops]) id hreason
        exact .inl (reason_of_disabled (sound_after s plane _) hstatus)
      | autoFailureThreshold =>
        exact (h.automatic before op later hops id hreason).imp_left
          (reason_of_disabled (sound_after s plane _))
  · intro hc
    constructor
    · rintro before middle later rfl id hreason
      have hmiddle := ((along_append (step s) _ (before ++ middle) later).1 hc).1
      have hstays := operator_stays s plane
        ((along_append (step s) _ before middle).1 hmiddle).2 hreason
      exact disabled_of_reason (sound_after s plane _) (hstays ▸ nofun)
    · rintro before op later rfl id hreason
      have hop := ((along_append (step s) _ before (op :: later)).1 hc).2.1
      have hkeeps : Keeps (after s plane before) op (step s (after s plane before) op) :=
        step_keeps (sound_after s plane before) hop
      rw [← after_snoc] at hkeeps
      exact ((hkeeps id).2 hreason).imp_left (disabled_of_reason (sound_after s plane _))

end Runs

/-- An operator disables the destination; the rotation of its secret makes it pending again. -/
def rotatedRun : List Op :=
  [ .createWebhookDestination { userId := 1, idempotencyKey := "destination", now := 0 } 1 7 8
      { name := "hook", endpointUrl := "endpoint", eventTypes := ["run.created"]
        signingSecret := "secret" },
    .disableWebhookDestination { projectId := 1, destinationId := 7, expectedVersion := 1 },
    .rotateWebhookSigningSecret { projectId := 1, destinationId := 7, expectedVersion := 2 } ]

set_option maxRecDepth 8000 in
theorem rotated_destination_enabled :
    reasonOf (after plainSite oneProject (rotatedRun.take 2)) 7 = some .operatorDisabled ∧
      statusOf (after plainSite oneProject (rotatedRun.take 2)) 7 = some .disabled ∧
      statusOf (after plainSite oneProject rotatedRun) 7 = some .pendingVerification := by
  decide +kernel

theorem not_disabledStays : ¬ DisabledStays plainSite oneProject rotatedRun := by
  intro h
  obtain ⟨hreason, -, hpending⟩ := rotated_destination_enabled
  have hstatus := h.operator (rotatedRun.take 2) (rotatedRun.drop 2) [] rfl 7 hreason
  rw [List.take_append_drop, hpending] at hstatus
  cases hstatus

end RoozDataCloud.WebhookDisabling
