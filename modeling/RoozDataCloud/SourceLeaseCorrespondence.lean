import RoozDataCloud.ExecutionSteps

set_option autoImplicit false

namespace RoozDataCloud.SourceLeaseCorrespondence
open KeyedTable ExecutionModels FallibleSteps ExecutionSystem ExecutionMoves
open LeaseAccounting LeaseBoard ExecutionSteps

/-- Lease `l` is `ACTIVE` on the source. -/
def ActiveOn (st : State) (s : SourceRef) (l : Uuid) : Prop :=
  ∃ lease, st.leases.get? l = some lease ∧ lease.source = s ∧ lease.status = .active

/-- How the rows of the two outboxes and the leases on them belong together. -/
structure Corresponds (maxAttempts : ℕ) (st : State) : Prop where
  claimed_iff : ∀ s source, st.outbox.get? s = some source →
    (source.status = .claimed ↔ ∃! l, ActiveOn st s l)
  unclaimed_free : ∀ s source, st.outbox.get? s = some source → source.status ≠ .claimed →
    ∀ l, ¬ ActiveOn st s l
  attempts_distinct : ∀ l l' lease lease', st.leases.get? l = some lease →
    st.leases.get? l' = some lease' → lease.source = lease'.source → l ≠ l' →
    lease.attempt ≠ lease'.attempt
  leases_bounded : ∀ s, st.leases.count (fun _ lease => lease.source = s) ≤ maxAttempts

variable {d : Deployment} {st : State}

theorem activeOn_lease {s : SourceRef} {l : Uuid} (h : ActiveOn st s l) :
    ∃ lease, (board st).lease l = some (holding lease) ∧ lease.source = s ∧
      (holding lease).live = true := by
  obtain ⟨lease, hlease, hs, hactive⟩ := h
  exact ⟨lease, board_lease hlease, hs, by simp [holding, hactive]⟩

theorem activeOn_unique (ha : Accounted d st) {s : SourceRef} {l l' : Uuid}
    (h : ActiveOn st s l) (h' : ActiveOn st s l') : l = l' := by
  obtain ⟨lease, hlease, hs, hlive⟩ := activeOn_lease h
  obtain ⟨lease', hlease', hs', hlive'⟩ := activeOn_lease h'
  exact ha.sound.live_unique hlease hlease' (hs.trans hs'.symm) hlive hlive'

theorem claimed_of_activeOn (ha : Accounted d st) {s : SourceRef} {source : OutboxSource} {l : Uuid}
    (hs : st.outbox.get? s = some source) (h : ActiveOn st s l) : source.status = .claimed := by
  obtain ⟨lease, hlease, rfl, hlive⟩ := activeOn_lease h
  have hheld := ha.sound.live_held l _ hlease hlive
  rw [show (holding lease).source = lease.source from rfl, board_source hs] at hheld
  injection hheld with hpair
  exact phase_eq_held.1 (congrArg Prod.fst hpair)

theorem activeOn_of_claimed (ha : Accounted d st) {s : SourceRef} {source : OutboxSource}
    (hs : st.outbox.get? s = some source) (hclaimed : source.status = .claimed) :
    ∃ l, ActiveOn st s l := by
  have hheld := board_source hs
  rw [phase_eq_held.2 hclaimed] at hheld
  obtain ⟨l, h, hlease, hsource, hlive⟩ := ha.sound.held_live s _ hheld
  obtain ⟨lease, hget, rfl⟩ := Option.map_eq_some_iff.1 hlease
  exact ⟨l, lease, hget, hsource, by simpa [holding] using hlive⟩

theorem count_le_attempts (ha : Accounted d st) (s : SourceRef) :
    st.leases.count (fun _ lease => lease.source = s) ≤ d.settings.workerMaxAttempts := by
  have hle := ha.sound.leases_le s
    ((st.leases.select (fun _ lease => lease.source = s)).map Prod.fst)
    (st.leases.select_keys_nodup _) (fun l hl => ?_)
  · simpa [Table.count] using hle
  · obtain ⟨lease, hlease, hs⟩ := (st.leases.mem_select_keys _ l).1 hl
    exact ⟨holding lease, board_lease hlease, by simpa [holding] using hs⟩

theorem corresponds_of_accounted (ha : Accounted d st) :
    Corresponds d.settings.workerMaxAttempts st := by
  constructor
  · intro s source hs
    constructor
    · intro hclaimed
      obtain ⟨l, hl⟩ := activeOn_of_claimed ha hs hclaimed
      exact ⟨l, hl, fun l' hl' => activeOn_unique ha hl' hl⟩
    · rintro ⟨l, hl, -⟩
      exact claimed_of_activeOn ha hs hl
  · intro s source hs hfree l hl
    exact hfree (claimed_of_activeOn ha hs hl)
  · intro l l' lease lease' hlease hlease' hs hne hattempt
    exact hne (ha.sound.distinct l l' _ _ (board_lease hlease) (board_lease hlease') hs hattempt)
  · exact count_le_attempts ha

/-- In every run of the execution plane, from its empty tables on, each source is claimed
exactly while one lease is active on it, and is leased no more often than attempts are allowed. -/
theorem sources_and_leases_correspond (d : Deployment) (directory : Directory) (ops : List Op) :
    Corresponds d.settings.workerMaxAttempts (after d (initial directory) ops) :=
  corresponds_of_accounted (reachable_accounted ⟨directory, ops, rfl⟩)

end RoozDataCloud.SourceLeaseCorrespondence
