import RoozDataCloud.ExecutionSteps

set_option autoImplicit false

/-!
# The end of a lease

A lease that has ended stays ended, and whoever held it gets no access under it again. The
leases on a source are numbered by its attempts, so a lease that is claimed later has a
greater number than those that were there before.
-/
namespace RoozDataCloud.LeaseFinality
open KeyedTable ExecutionModels FallibleSteps CancellationConvergence LeaseRequests
open ExecutionSystem ExecutionMoves ExecutionSteps LeaseAccounting

/-- No lease is deleted, gets another holder or becomes active again, and a new lease has a greater
attempt number than the leases that its source has had. -/
structure Outlives (st st' : State) : Prop where
  kept : ∀ l lease, st.leases.get? l = some lease →
    ∃ lease', st'.leases.get? l = some lease' ∧ SameLease lease lease' ∧
      (lease'.status = .active → lease.status = .active)
  newer : ∀ l lease', st'.leases.get? l = some lease' → st.leases.get? l = none →
    ∀ l' lease, st.leases.get? l' = some lease → lease.source = lease'.source →
      lease.attempt < lease'.attempt

variable {d : Deployment} {st st' : State}

theorem Outlives.trans {mid : State} (h : Outlives st mid) (h' : Outlives mid st') :
    Outlives st st' := by
  refine ⟨fun l lease hlease => ?_, fun l lease' hlease' hnone l' lease hlease hsource => ?_⟩
  · obtain ⟨middle, hmiddle, hfirst, hactive⟩ := h.kept l lease hlease
    obtain ⟨lease', hlease', hsecond, hactive'⟩ := h'.kept l middle hmiddle
    exact ⟨lease', hlease', hfirst.trans hsecond, fun ha => hactive (hactive' ha)⟩
  · cases hmid : mid.leases.get? l with
    | none =>
      obtain ⟨middle, hmiddle, hsame, -⟩ := h.kept l' lease hlease
      rw [← hsame.attempt]
      exact h'.newer l lease' hlease' hmid l' middle hmiddle (hsame.source.trans hsource)
    | some middle =>
      obtain ⟨row, hrow, hsame, -⟩ := h'.kept l middle hmid
      obtain rfl : row = lease' := Option.some.inj (hrow.symm.trans hlease')
      rw [hsame.attempt]
      exact h.newer l middle hmid hnone l' lease hlease (hsource.trans hsame.source)

section Moves

theorem outlives_map {f : Uuid → ExecutionLease → ExecutionLease}
    (hleases : ∀ l, st'.leases.get? l = (st.leases.get? l).map (f l))
    (hf : ∀ l lease, st.leases.get? l = some lease → SameLease lease (f l lease) ∧
      ((f l lease).status = .active → lease.status = .active)) : Outlives st st' := by
  refine ⟨fun l lease hlease => ⟨f l lease, ?_, hf l lease hlease⟩, fun l lease' hlease' hnone => ?_⟩
  · rw [hleases, hlease, Option.map_some]
  · rw [hleases, hnone] at hlease'
    cases hlease'

theorem outlives_same (hleases : st'.leases = st.leases) : Outlives st st' :=
  outlives_map (fun l => by rw [hleases]; exact Option.map_id'.symm)
    (fun _ lease _ => ⟨.refl lease, id⟩)

theorem outlives_insert {new : Uuid} {lease' : ExecutionLease}
    (hleases : st.leases.insert? new lease' = some st'.leases)
    (hnewer : ∀ l lease, st.leases.get? l = some lease → lease.source = lease'.source →
      lease.attempt < lease'.attempt) : Outlives st st' := by
  refine ⟨fun l lease hlease => ⟨lease, Table.get?_insert_old hleases hlease, .refl lease, id⟩, ?_⟩
  intro l row hrow hnone
  rw [Table.get?_insert hleases] at hrow
  split_ifs at hrow
  · exact Option.some.inj hrow ▸ hnewer
  · rw [hnone] at hrow
    cases hrow

theorem attempt_le (ha : Accounted d st) {l : Uuid} {lease : ExecutionLease} {source : OutboxSource}
    (hlease : st.leases.get? l = some lease) (hsource : st.outbox.get? lease.source = some source) :
    lease.attempt ≤ source.attempts := by
  obtain ⟨p, n, hboard, -, hle⟩ := ha.sound.counted l _ (board_lease hlease)
  obtain ⟨-, rfl⟩ := Prod.mk.inj (Option.some.inj ((board_source hsource).symm.trans hboard))
  exact hle

theorem move_outlives (ha : Accounted d st) (h : Move d st st') : Outlives st st' := by
  cases h with
  | frame hruns houtbox hleases => exact outlives_same hleases
  | renew f hsame hruns houtbox hleases =>
    refine outlives_map hleases (fun l lease hlease => ?_)
    obtain ⟨hkept, hstatus, -⟩ := hsame l lease hlease
    exact ⟨hkept, fun hactive => hstatus.symm.trans hactive⟩
  | issue id grant lease hlease hactive hexpires hruns houtbox hleases => exact outlives_same hleases
  | submit ref source hpending hattempts hfresh hrun hruns houtbox hleases =>
    exact outlives_same hleases
  | withdraw ref source f hsource hpending htarget hclosed hattempts hruns houtbox hleases =>
    exact outlives_same hleases
  | take ref source f id lease hsource hpending htarget hclaimed hattempts hlsource hltarget hlstatus
      hlattempt hlexpires hruns houtbox hleases =>
    -- The new lease has the number that the attempts of its source come to with it.
    refine outlives_insert hleases (fun l row hrow hsame => ?_)
    rw [← hlsource, ← hsame] at hsource
    rw [hlattempt]
    exact Nat.lt_succ_of_le (attempt_le ha hrow hsource)
  | fence runId now preserveLease preserveSource hpreserved hruns houtbox hleases =>
    refine outlives_map (f := fenceLease runId now preserveLease)
      (fun l => by rw [hleases]; exact Table.get?_mapRows ..) (fun l lease _ => ?_)
    exact ⟨fenceLease_same runId now preserveLease l lease,
      fun hactive => ((fenceLease_active runId now preserveLease l lease).1 hactive).1⟩
  | settle ended lease f g status hlease honly hsource hsame hended hstatus hruns houtbox hleases =>
    refine outlives_map (f := fun l row => if l = ended then g row else row)
      (fun l => by rw [hleases]; exact Table.get?_mapRows ..) (fun l row hrow => ?_)
    split_ifs with hl
    · obtain rfl : row = lease := Option.some.inj (hrow.symm.trans (hl ▸ hlease))
      exact ⟨hsame, fun hactive => absurd hactive hended⟩
    · exact ⟨.refl row, id⟩

theorem moves_outlive (ha : Accounted d st) (h : Moves d st st') : Outlives st st' := by
  induction h with
  | refl => exact outlives_same rfl
  | tail hmoves hmove ih => exact ih.trans (move_outlives (moves_accounted hmoves ha) hmove)

theorem after_outlives (ha : Accounted d st) (ops : List Op) :
    Outlives st (after d st ops) :=
  (exec_invariant (P := fun mid => Accounted d mid ∧ Outlives st mid) (step d)
    (fun _ op h => ⟨moves_accounted (step_moves h.1 op) h.1,
      h.2.trans (moves_outlive h.1 (step_moves h.1 op))⟩) ops st ⟨ha, outlives_same rfl⟩).2

end Moves

/-- Whatever requests come after a moment of a run: the leases of that moment are kept, none that
has ended grants access again, and every lease that is claimed after it has a greater attempt number
than the leases on its source that were there. -/
theorem lease_ends_final (d : Deployment) (directory : Directory) (ops later : List Op) :
    Outlives (after d (initial directory) ops) (after d (initial directory) (ops ++ later)) ∧
    ∀ l lease, (after d (initial directory) ops).leases.get? l = some lease →
      lease.status ≠ .active → ∀ credential digest granted,
        requireLeaseAccess (after d (initial directory) (ops ++ later)) credential l digest ≠
          .ok granted := by
  have hafter : after d (initial directory) (ops ++ later) =
      after d (after d (initial directory) ops) later := exec_append ..
  have houtlives : Outlives (after d (initial directory) ops)
      (after d (initial directory) (ops ++ later)) := by
    rw [hafter]
    exact after_outlives (reachable_accounted ⟨directory, ops, rfl⟩) later
  refine ⟨houtlives, fun l lease hlease hended credential digest granted haccess => ?_⟩
  obtain ⟨hgranted, hactive, -⟩ := requireLeaseAccess_ok haccess
  obtain ⟨lease', hlease', -, hstays⟩ := houtlives.kept l lease hlease
  obtain rfl : granted = lease' := Option.some.inj (hgranted.symm.trans hlease')
  exact hended (hstays hactive)

end RoozDataCloud.LeaseFinality
