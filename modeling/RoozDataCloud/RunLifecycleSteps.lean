import RoozDataCloud.RunLifecycle

set_option autoImplicit false

/-!
# One request and the life of a run

Every request keeps the lifecycle, the reaper under the condition that it does
not come upon a start lease of a failed, cancelled run it would reset.
-/
namespace RoozDataCloud.RunLifecycleSteps
open KeyedTable ExecutionModels FallibleSteps ExecutionRecovery CancellationConvergence
open LeaseReaper WorkClaims LeaseRequests RunRequests ExecutionSystem ExecutionMoves
open LeaseAccounting ExecutionSteps RunLifecycle

variable {d : Deployment} {st st' : State}

theorem held_source (ha : Accounted d st) {l : Uuid} {lease : ExecutionLease}
    (hlease : st.leases.get? l = some lease) (hactive : lease.status = .active) :
    ∃ source, st.outbox.get? lease.source = some source ∧ source.target = lease.target ∧
      source.status = .claimed := by
  obtain ⟨source, hsource, htarget⟩ := source_of_lease ha.wired hlease
  have hheld := ha.sound.live_held l _ (board_lease hlease) (by simp [holding, hactive])
  rw [show (holding lease).source = lease.source from rfl, board_source hsource] at hheld
  injection hheld with hpair
  exact ⟨source, hsource, htarget, phase_eq_held.1 (congrArg Prod.fst hpair)⟩

theorem run_of_source (hw : Wired st) {s : SourceRef} {source : OutboxSource} {r : Uuid}
    (hsource : st.outbox.get? s = some source) (hmine : source.target.runId? = some r) :
    ∃ run, st.runs.get? r = some run :=
  Option.isSome_iff_exists.1
    (hw.source_run s source.target r (by rw [targetOf, hsource]; rfl) hmine)

theorem held_run (ha : Accounted d st) (hl : Lifecycle st) {l r : Uuid} {lease : ExecutionLease}
    (hlease : st.leases.get? l = some lease) (hactive : lease.status = .active)
    (hmine : lease.target.runId? = some r) :
    ∃ source run, st.outbox.get? lease.source = some source ∧ source.target = lease.target ∧
      st.runs.get? r = some run ∧ Admits run lease.target .claimed := by
  obtain ⟨source, hsource, htarget, hclaimed⟩ := held_source ha hlease hactive
  obtain ⟨run, hrun⟩ := run_of_source ha.wired hsource (htarget ▸ hmine)
  have hadmits := hl.admits lease.source source r run hsource (htarget ▸ hmine) hrun
  rw [htarget, hclaimed] at hadmits
  exact ⟨source, run, hsource, htarget, hrun, hadmits⟩

theorem cancelRequested_eq {r : Uuid} {run : Run} (hrun : st.runs.get? r = some run) :
    cancelRequested st r = true ↔ run.cancelRequestedAt ≠ none := by
  rw [cancelRequested, hrun, Option.any_some, Option.isSome_iff_ne_none]

theorem cancelRequested_false {r : Uuid} {run : Run} (hrun : st.runs.get? r = some run) :
    cancelRequested st r = false ↔ run.cancelRequestedAt = none := by
  rw [cancelRequested, hrun, Option.any_some, Option.isSome_eq_false_iff, Option.isNone_iff_eq_none]

section Fence
variable (runId : Uuid) (now : Time) (preserveLease : Option Uuid)
  (preserveSource : Option SourceRef)

theorem fenceSource_quieter (s : SourceRef) (source : OutboxSource) :
    Quieter source (fenceSource runId preserveSource s source) := by
  unfold fenceSource
  split_ifs
  · exact ⟨rfl, .inr (.inr rfl)⟩
  · exact ⟨rfl, .inr (.inl rfl)⟩

theorem fenceSource_closed {s : SourceRef} {source : OutboxSource}
    (hmine : source.target.runId? = some runId) (hs : preserveSource ≠ some s) :
    OutboxStatus.isOpen (fenceSource runId preserveSource s source).status = false := by
  unfold fenceSource
  cases hstatus : source.status <;> simp [hmine, hs, hstatus, convergedSource, OutboxStatus.isOpen]

theorem fence_quiets (st : State) :
    Quiets st (fenceCancelledRunLeases st runId now preserveLease preserveSource) := by
  intro s source' hget
  simp only [fenceCancelledRunLeases, Table.get?_mapRows] at hget
  obtain ⟨source, hsource, rfl⟩ := Option.map_eq_some_iff.1 hget
  exact ⟨source, hsource, fenceSource_quieter runId preserveSource s source⟩

theorem fence_closed (st : State) {s : SourceRef} {source : OutboxSource}
    (hget : (fenceCancelledRunLeases st runId now preserveLease preserveSource).outbox.get? s =
      some source)
    (hmine : source.target.runId? = some runId) (hs : preserveSource ≠ some s) :
    OutboxStatus.isOpen source.status = false := by
  simp only [fenceCancelledRunLeases, Table.get?_mapRows] at hget
  obtain ⟨before, -, rfl⟩ := Option.map_eq_some_iff.1 hget
  rw [(fenceSource_target runId preserveSource s before).1] at hmine
  exact fenceSource_closed runId preserveSource hmine hs

theorem fence_leasesFrom (st : State) :
    LeasesFrom st (fenceCancelledRunLeases st runId now preserveLease preserveSource) :=
  leasesFrom_mapRows rfl (fun l lease => (fenceLease_same runId now preserveLease l lease).target)

theorem fence_proceeds (hl : Lifecycle st) :
    Proceeds st (fenceCancelledRunLeases st runId now preserveLease preserveSource) :=
  proceeds_quiet hl rfl (fence_quiets runId now preserveLease preserveSource st)
    (fence_leasesFrom runId now preserveLease preserveSource st)

end Fence

theorem settling_aborted {run : Run} (h : run.status = .aborted) : Settling run := by
  simp [Settling, h]

theorem converge_proceeds (hl : Lifecycle st) (r : Uuid) (now : Time) :
    Proceeds st (convergeCancelledRun st r now).1 := by
  have hfence := fence_proceeds r now none none hl
  rcases convergeCancelledRun_cases st r now with ⟨h, -⟩ | ⟨h, -⟩ | ⟨h, run, hrun, hset, haborting⟩
  · rw [h]
    exact hfence
  · rw [h]
    exact hfence
  · rw [h]
    refine hfence.trans ⟨?_, ?_⟩
    · refine hfence.lifecycle.write (f := convergedRun now) hrun (fun _ => rfl)
        (settling_aborted rfl) (fun s source' hget => ⟨source', hget, rfl, ?_, ?_⟩)
      · exact fun hmine => admits_closed _ _ (fence_closed r now none none st hget hmine (by simp))
      · exact fun _ => ⟨rfl, .inr (.inl rfl)⟩
    · exact evolves_write (f := convergedRun now) hrun (fun _ => rfl)
        (fun hend => absurd hend (by rw [haborting]; decide)) id (leasesFrom_refl _)

/-- The reaper would reset the run of this start lease although its cancellation has ended it. -/
def resurrects (d : Deployment) (st : State) (now : Time) (l : Uuid) : Bool :=
  (st.leases.get? l).any (fun lease =>
    match lease.target with
    | .runStart r =>
      (st.runs.get? r).any (fun run => run.cancelRequestedAt.isSome && run.status = .failed) &&
        (decide (lease.deadlineAt ≤ now) || decide (lease.attempt < d.settings.workerMaxAttempts))
    | _ => false)

theorem not_resurrects {now : Time} {l r : Uuid} {lease : ExecutionLease} {run : Run}
    (h : resurrects d st now l = false) (hlease : st.leases.get? l = some lease)
    (htarget : lease.target = .runStart r) (hrun : st.runs.get? r = some run)
    (hset : run.cancelRequestedAt ≠ none) (hfailed : run.status = .failed) :
    ¬ lease.deadlineAt ≤ now ∧ ¬ lease.attempt < d.settings.workerMaxAttempts := by
  simpa [resurrects, hlease, htarget, hrun, Option.isSome_iff_ne_none, hset, hfailed] using h

/-- A lease of the reaper's batch: still `ACTIVE`, or fenced when its run was converged. -/
def Safe (st : State) (l : Uuid) : Prop :=
  ∃ lease, st.leases.get? l = some lease ∧ (lease.status = .active ∨
    ∃ r run, lease.target.runId? = some r ∧ st.runs.get? r = some run ∧
      run.cancelRequestedAt ≠ none ∧ run.status = .aborted)

theorem leasesFrom_modify {l : Uuid} {row : ExecutionLease} {g : ExecutionLease → ExecutionLease}
    (hrow : st.leases.get? l = some row) (hleases : st'.leases = st.leases.modify l g)
    (htarget : (g row).target = row.target) : LeasesFrom st st' := by
  intro l' lease hget
  rw [hleases, Table.get?_modify] at hget
  split_ifs at hget with hl
  · subst hl
    rw [hrow] at hget
    obtain rfl := Option.some.inj hget
    exact ⟨row, hrow, htarget.symm⟩
  · exact ⟨lease, hget, rfl⟩

section Expired
variable {base : State} {now : Time} {retry : Bool} {next : Option Time} {l r : Uuid}
  {lease row : ExecutionLease} {run : Run} {source : OutboxSource}

/-- A run reset or ended by the expiry of its start lease: either nobody has cancelled it, or the
cancellation has failed already and so does the start. -/
theorem settledStart_proceeds (hl : Lifecycle base) (hrow : base.leases.get? l = some row)
    (hsame : row.target = lease.target) (htarget : lease.target = .runStart r)
    (hrun : base.runs.get? r = some run) (hsource : base.outbox.get? lease.source = some source)
    (hstarget : source.target = lease.target)
    (hothers : ∀ s other, s ≠ lease.source → base.outbox.get? s = some other →
      other.target.runId? = some r → OutboxStatus.isOpen other.status = false)
    (hstate : (run.cancelRequestedAt = none ∧ run.status ∉ runTerminalStatuses) ∨
      (run.cancelRequestedAt ≠ none ∧ run.status = .failed ∧ retry = false ∧
        ¬ lease.deadlineAt ≤ now)) :
    Proceeds base (settledExpired now retry next base l lease) := by
  have htables := settledExpired_tables now retry next base l lease
  have hruns : (settledExpired now retry next base l lease).runs = base.runs.modify r
      (expiredStartRun retry (lease.deadlineAt ≤ now) now (expiryFailureCode now lease)) := by
    simp only [settledExpired, expiredTarget, htarget]
    rfl
  have hleases : LeasesFrom base (settledExpired now retry next base l lease) :=
    leasesFrom_modify hrow htables.2 hsame.symm
  have hshape : Settling (expiredStartRun retry (lease.deadlineAt ≤ now) now
        (expiryFailureCode now lease) run) ∧
      Admits (expiredStartRun retry (lease.deadlineAt ≤ now) now (expiryFailureCode now lease) run)
        (.runStart r) (if retry then .pending else .failed) ∧
      (run.status ∈ runTerminalStatuses → (expiredStartRun retry (lease.deadlineAt ≤ now) now
        (expiryFailureCode now lease) run).status = run.status) := by
    rcases hstate with ⟨hnone, hlive⟩ | ⟨hset, hfailed, rfl, hdeadline⟩
    · refine ⟨⟨fun hne => absurd hnone hne, ?_⟩, ?_, fun hend => absurd hend hlive⟩
      · simp only [expiredStartRun]
        split_ifs <;> simp
      · cases retry <;> simp [Admits, expiredStartRun, hnone]
    · refine ⟨⟨fun _ => .inr (.inr ?_), ?_⟩, ?_, fun _ => ?_⟩ <;>
        simp [Admits, expiredStartRun, hdeadline, hfailed]
  refine ⟨?_, ?_⟩
  · refine hl.settle hrun hsource (by rw [hstarget, htarget]; rfl) (fun r' => by rw [hruns])
      (fun s => by rw [htables.1]) hshape.1 rfl ?_
      (fun s other hne hget hmine => admits_closed _ _ (hothers s other hne hget hmine))
    rw [hstarget, htarget]
    exact hshape.2.1
  · exact evolves_write hrun (fun r' => by rw [hruns]) hshape.2.2 id hleases

theorem settledBuild_proceeds (hl : Lifecycle base) (hrow : base.leases.get? l = some row)
    (hsame : row.target = lease.target) {b : Uuid} (htarget : lease.target = .build b)
    (hsource : base.outbox.get? lease.source = some source)
    (hstarget : source.target = lease.target) :
    Proceeds base (settledExpired now retry next base l lease) := by
  have htables := settledExpired_tables now retry next base l lease
  refine proceeds_quiet hl ?_ ?_ (leasesFrom_modify hrow htables.2 hsame.symm)
  · simp only [settledExpired, expiredTarget, htarget]
    rfl
  · intro s source' hget
    rw [htables.1, Table.get?_modify] at hget
    split_ifs at hget with hs
    · subst hs
      rw [hsource] at hget
      obtain rfl := Option.some.inj hget
      refine ⟨source, hsource, rfl, .inl ?_⟩
      change source.target.runId? = none
      rw [hstarget, htarget]
      rfl
    · exact ⟨source', hget, rfl, .inr (.inl rfl)⟩

end Expired

/-- One iteration of the reaper, as the rest of its batch sees it. -/
structure Reaped (l : Uuid) (st st' : State) : Prop where
  proceeds : Proceeds st st'
  active : ∀ l' lease, l' ≠ l → st.leases.get? l' = some lease → lease.status = .active → Safe st' l'
  failed : ∀ r run', st'.runs.get? r = some run' → run'.cancelRequestedAt ≠ none →
    run'.status = .failed →
    ∃ run, st.runs.get? r = some run ∧ run.cancelRequestedAt ≠ none ∧ run.status = .failed

theorem failed_before {r : Uuid} {run : Run} {f : Run → Run} (hrun : st.runs.get? r = some run)
    (hruns : st'.runs = st.runs.modify r f)
    (hf : (f run).cancelRequestedAt ≠ none → (f run).status = .failed →
      run.cancelRequestedAt ≠ none ∧ run.status = .failed)
    (r' : Uuid) (run' : Run) (hrun' : st'.runs.get? r' = some run')
    (hset : run'.cancelRequestedAt ≠ none) (hfailed : run'.status = .failed) :
    ∃ run, st.runs.get? r' = some run ∧ run.cancelRequestedAt ≠ none ∧ run.status = .failed := by
  rw [hruns, Table.get?_modify] at hrun'
  split_ifs at hrun' with hr
  · subst hr
    rw [hrun] at hrun'
    obtain rfl := Option.some.inj hrun'
    exact ⟨run, hrun, hf hset hfailed⟩
  · exact ⟨run', hrun', hset, hfailed⟩

theorem fence_active {l' r : Uuid} {lease : ExecutionLease} (now : Time)
    (hlease : st.leases.get? l' = some lease) (hactive : lease.status = .active) :
    ∃ row, (fenceCancelledRunLeases st r now none none).leases.get? l' = some row ∧
      row.target = lease.target ∧ (row.status = .active ∨ lease.target.runId? = some r) := by
  refine ⟨fenceLease r now none l' lease, ?_, (fenceLease_same r now none l' lease).target, ?_⟩
  · simp only [fenceCancelledRunLeases, Table.get?_mapRows, hlease, Option.map_some]
  · by_cases hr : lease.target.runId? = some r
    · exact .inr hr
    · exact .inl ((fenceLease_active r now none l' lease).2 ⟨hactive, by simp [fences, hr]⟩)

theorem converge_reaped (hl : Lifecycle st) (l r : Uuid) (now : Time)
    (h : (convergeCancelledRun st r now).2 = true) :
    Reaped l st (convergeCancelledRun st r now).1 := by
  have hproceeds := converge_proceeds hl r now
  rcases convergeCancelledRun_cases st r now with
    ⟨hc, -⟩ | ⟨hc, run, hrun, hset, hstatus⟩ | ⟨hc, run, hrun, hset, hstatus⟩
  · rw [hc] at h
    cases h
  · rw [hc] at hproceeds ⊢
    refine ⟨hproceeds, fun l' lease _ hlease hactive => ?_, fun r' run' hrun' hset' hfailed =>
      ⟨run', hrun', hset', hfailed⟩⟩
    obtain ⟨row, hrow, htarget, hcase⟩ := fence_active (r := r) now hlease hactive
    exact ⟨row, hrow, hcase.imp id (fun hr => ⟨r, run, htarget ▸ hr, hrun, hset, hstatus⟩)⟩
  · rw [hc] at hproceeds ⊢
    refine ⟨hproceeds, fun l' lease _ hlease hactive => ?_, failed_before hrun rfl ?_⟩
    · obtain ⟨row, hrow, htarget, hcase⟩ := fence_active (r := r) now hlease hactive
      refine ⟨row, hrow, hcase.imp id (fun hr => ⟨r, convergedRun now run, htarget ▸ hr, ?_, hset,
        rfl⟩)⟩
      change ((st.runs.modify r (convergedRun now)).get? r) = some (convergedRun now run)
      rw [Table.get?_modify_self, hrun]
      rfl
    · intro _ hfailed
      cases hfailed

theorem settled_active {base : State} {now : Time} {retry : Bool} {next : Option Time} {l l' : Uuid}
    {lease other : ExecutionLease} (hne : l' ≠ l) (hother : base.leases.get? l' = some other)
    (hactive : other.status = .active) : Safe (settledExpired now retry next base l lease) l' := by
  refine ⟨other, ?_, .inl hactive⟩
  rw [(settledExpired_tables now retry next base l lease).2, Table.get?_modify_ne _ _ hne]
  exact hother

theorem settled_reaped (ha : Accounted d st) (hl : Lifecycle st) {l : Uuid} {lease : ExecutionLease}
    (hlease : st.leases.get? l = some lease) (hactive : lease.status = .active)
    (hcancel : ∀ r, lease.target.runId? = some r → cancelRequested st r = false) (now : Time)
    (retry : Bool) (next : Option Time) : Reaped l st (settledExpired now retry next st l lease) := by
  cases htarget : lease.target with
  | build b =>
    obtain ⟨source, hsource, hstarget, -⟩ := held_source ha hlease hactive
    refine ⟨settledBuild_proceeds hl hlease rfl htarget hsource hstarget,
      fun l' other hne hother hlive => settled_active hne hother hlive, ?_⟩
    intro r run' hrun' hset hfailed
    simp only [settledExpired, expiredTarget, htarget] at hrun'
    exact ⟨run', hrun', hset, hfailed⟩
  | runStart r =>
    have hmine : lease.target.runId? = some r := by rw [htarget]; rfl
    obtain ⟨source, run, hsource, hstarget, hrun, hadmits⟩ := held_run ha hl hlease hactive hmine
    have hnone := (cancelRequested_false hrun).1 (hcancel r hmine)
    rw [htarget] at hadmits
    have hlive : run.status = .starting ∨ run.status = .running := by
      simpa [Admits, hnone] using hadmits
    have hnot : run.status ∉ runTerminalStatuses := by
      rcases hlive with h | h <;> rw [h] <;> decide
    refine ⟨settledStart_proceeds hl hlease rfl htarget hrun hsource hstarget ?_ (.inl ⟨hnone, hnot⟩),
      fun l' other hne hother hlive => settled_active hne hother hlive, ?_⟩
    · exact others_closed hl ha.wired hrun hsource (hstarget.trans htarget) (by simp [hnone])
    · refine failed_before hrun (f := expiredStartRun retry (lease.deadlineAt ≤ now) now
        (expiryFailureCode now lease)) ?_ (fun hset => absurd hnone hset)
      simp only [settledExpired, expiredTarget, htarget]
      rfl
  | runCancel r =>
    have hmine : lease.target.runId? = some r := by rw [htarget]; rfl
    obtain ⟨source, run, -, -, hrun, hadmits⟩ := held_run ha hl hlease hactive hmine
    rw [htarget] at hadmits
    exact absurd ((cancelRequested_false hrun).1 (hcancel r hmine)) hadmits.1

theorem held_start (ha : Accounted d st) (hl : Lifecycle st) {l r : Uuid} {lease : ExecutionLease}
    {run : Run} (hlease : st.leases.get? l = some lease) (hactive : lease.status = .active)
    (hmine : lease.target.runId? = some r) (hrun : st.runs.get? r = some run)
    (hnot : run.status ≠ .aborting) : lease.target = .runStart r := by
  obtain ⟨-, run', -, -, hrun', hadmits⟩ := held_run ha hl hlease hactive hmine
  rw [hrun] at hrun'
  obtain rfl := Option.some.inj hrun'
  cases htarget : lease.target with
  | build b =>
    rw [htarget] at hmine
    cases hmine
  | runStart r' =>
    rw [htarget] at hmine
    rw [Option.some.inj hmine]
  | runCancel r' =>
    rw [htarget] at hadmits
    exact absurd hadmits.2 hnot

theorem refailed_reaped (ha : Accounted d st) (hl : Lifecycle st) {l r : Uuid}
    {lease : ExecutionLease} {run : Run} (hlease : st.leases.get? l = some lease)
    (hactive : lease.status = .active) (hmine : lease.target.runId? = some r)
    (hrun : st.runs.get? r = some run) (hset : run.cancelRequestedAt ≠ none)
    (hfailed : run.status = .failed) {now : Time} (hdeadline : ¬ lease.deadlineAt ≤ now)
    (next : Option Time) :
    Reaped l st (settledExpired now false next (fenceCancelledRunLeases st r now none none) l
      lease) := by
  have hfence := fence_proceeds r now none none hl
  have hnot : run.status ≠ .aborting := by
    rw [hfailed]
    decide
  have htarget := held_start ha hl hlease hactive hmine hrun hnot
  obtain ⟨source, hsource, hstarget⟩ := source_of_lease ha.wired hlease
  obtain ⟨row, hrow, hrowTarget, -⟩ := fence_active (r := r) now hlease hactive
  have hfenced : (fenceCancelledRunLeases st r now none none).outbox.get? lease.source =
      some (fenceSource r none lease.source source) := by
    simp only [fenceCancelledRunLeases, Table.get?_mapRows, hsource, Option.map_some]
  refine ⟨hfence.trans (settledStart_proceeds hfence.lifecycle hrow hrowTarget htarget hrun hfenced
    ?_ ?_ (.inr ⟨hset, hfailed, rfl, hdeadline⟩)), ?_, ?_⟩
  · rw [(fenceSource_target r none lease.source source).1, hstarget]
  · exact fun s other _ hget hr => fence_closed r now none none st hget hr (by simp)
  · intro l' other hne hother hlive
    obtain ⟨row', hrow', -, hcase⟩ := fence_active (r := r) now hother hlive
    rcases hcase with hactive' | hr
    · exact settled_active hne hrow' hactive'
    · have hsame := ha.wired.target_unique other.source lease.source (.runStart r)
        (by rw [lease_target ha.wired hother, held_start ha hl hother hlive hr hrun hnot])
        (by rw [lease_target ha.wired hlease, htarget])
      exact absurd (ha.sound.live_unique (board_lease hother) (board_lease hlease) hsame
        (by simp [holding, hlive]) (by simp [holding, hactive])) hne
  · refine failed_before hrun (f := expiredStartRun false (lease.deadlineAt ≤ now) now
      (expiryFailureCode now lease)) ?_ (fun _ _ => ⟨hset, hfailed⟩)
    simp only [settledExpired, expiredTarget, htarget]
    rfl

theorem reapLease_reaped (ha : Accounted d st) (hl : Lifecycle st) {now : Time} {l : Uuid}
    (hsafe : Safe st l) (hclean : resurrects d st now l = false)
    (h : reapLease d now st l = .ok st') : Reaped l st st' := by
  obtain ⟨lease, hlease, hcase⟩ := hsafe
  rcases convergeExpired_cases st now lease.target with
    ⟨hbase, hflag, hcancel⟩ | ⟨r, hmine, hcancel, hconverge⟩
  · rcases reapLease_cases hlease h with ⟨htrue, -⟩ | ⟨-, next, rfl⟩
    · rw [hflag] at htrue
      cases htrue
    · rw [hbase]
      rcases hcase with hactive | ⟨r, run, hmine, hrun, hset, -⟩
      · exact settled_reaped ha hl hlease hactive hcancel now _ next
      · exact absurd ((cancelRequested_false hrun).1 (hcancel r hmine)) hset
  · rcases reapLease_cases hlease h with ⟨htrue, rfl⟩ | ⟨hfalse, next, rfl⟩
    · rw [hconverge] at htrue ⊢
      exact converge_reaped hl l r now htrue
    · -- The fence is kept although nothing was converged: the run has failed before.
      rw [hconverge] at hfalse ⊢
      rcases convergeCancelledRun_cases st r now with ⟨hc, hother⟩ | ⟨hc, -⟩ | ⟨hc, -⟩
      · rw [hc]
        obtain ⟨source, hsource, hstarget⟩ := source_of_lease ha.wired hlease
        obtain ⟨run, hrun⟩ := run_of_source ha.wired hsource (hstarget ▸ hmine)
        have hset := (cancelRequested_eq hrun).1 hcancel
        obtain ⟨hnotAborted, hnotAborting⟩ := hother run hrun hset
        have hfailed : run.status = .failed := by
          simpa [hnotAborted, hnotAborting] using (hl.settling r run hrun).1 hset
        have hactive : lease.status = .active := by
          rcases hcase with hactive | ⟨r', run', hmine', hrun', -, haborted⟩
          · exact hactive
          · rw [hmine] at hmine'
            obtain rfl := Option.some.inj hmine'
            rw [hrun] at hrun'
            obtain rfl := Option.some.inj hrun'
            exact absurd haborted hnotAborted
        have hstart := held_start ha hl hlease hactive hmine hrun hnotAborting
        obtain ⟨hdeadline, hspent⟩ := not_resurrects hclean hlease hstart hrun hset hfailed
        have hretry : expiryRetry d now (fenceCancelledRunLeases st r now none none) lease =
            false := by
          rw [Bool.eq_false_iff]
          exact fun hretry => hspent (executionRetryAllowed_iff.1 hretry).2.2.2.2
        rw [hretry]
        exact refailed_reaped ha hl hlease hactive hmine hrun hset hfailed hdeadline next
      · rw [hc] at hfalse
        cases hfalse
      · rw [hc] at hfalse
        cases hfalse

/-- A lease the reaper has still to come to in its batch. -/
structure Awaiting (d : Deployment) (now : Time) (st : State) (l : Uuid) : Prop where
  due : Due st l
  safe : Safe st l
  clean : resurrects d st now l = false

theorem reaped_safe {l l' : Uuid} (hm : Moves d st st') (h : Reaped l st st') (hne : l' ≠ l)
    (hsafe : Safe st l') : Safe st' l' := by
  obtain ⟨lease, hlease, hactive | ⟨r, run, hmine, hrun, hset, haborted⟩⟩ := hsafe
  · exact h.active l' lease hne hlease hactive
  · obtain ⟨row, hrow, hsame⟩ := moves_lease hm hlease
    obtain ⟨run', hrun', hend, hcancel⟩ := h.proceeds.evolves.run r run hrun
    refine ⟨row, hrow, .inr ⟨r, run', hsame.target ▸ hmine, hrun', hcancel hset, ?_⟩⟩
    rw [hend (by rw [haborted]; decide), haborted]

theorem reaped_clean {l l' : Uuid} {now : Time} (hm : Moves d st st') (h : Reaped l st st')
    (hsafe : Safe st l') (hclean : resurrects d st now l' = false) :
    resurrects d st' now l' = false := by
  obtain ⟨lease, hlease, -⟩ := hsafe
  obtain ⟨row, hrow, hsame⟩ := moves_lease hm hlease
  rw [Bool.eq_false_iff]
  intro htrue
  simp only [resurrects, hrow, Option.any_some, hsame.target, hsame.deadlineAt,
    hsame.attempt] at htrue
  cases htarget : lease.target with
  | build b => simp [htarget] at htrue
  | runCancel r => simp [htarget] at htrue
  | runStart r =>
    simp only [htarget, Bool.and_eq_true, Bool.or_eq_true, decide_eq_true_eq, Option.any_eq_true,
      Option.isSome_iff_ne_none] at htrue
    obtain ⟨⟨run', hrun', hset', hfailed'⟩, hreset⟩ := htrue
    obtain ⟨run, hrun, hset, hfailed⟩ := h.failed r run' hrun' hset' hfailed'
    obtain ⟨hdeadline, hspent⟩ := not_resurrects hclean hlease htarget hrun hset hfailed
    exact hreset.elim hdeadline hspent

theorem reapLoop_proceeds (ha : Accounted d st) (hl : Lifecycle st) {now : Time}
    (records : List Uuid) (hn : records.Nodup) (hq : ∀ l ∈ records, Awaiting d now st l)
    (h : records.foldlM (reapLease d now) st = .ok st') : Proceeds st st' := by
  refine (foldlM_rule (fun mid rest => Moves d st mid ∧ Proceeds st mid ∧ rest.Nodup ∧
    ∀ l ∈ rest, Awaiting d now mid l) ?_ records st st' ⟨.refl, ⟨hl, evolves_refl st⟩, hn, hq⟩ h).2.1
  rintro mid mid' l rest ⟨hmoves, hproceeds, hnodup, hrest⟩ hreap
  obtain ⟨hl, hnodup⟩ := List.nodup_cons.1 hnodup
  have ha' := moves_accounted hmoves ha
  have hfirst := hrest l List.mem_cons_self
  obtain ⟨hmove, hdue⟩ := reapLease_moves ha' hfirst.due hreap
  have hreaped := reapLease_reaped ha' hproceeds.lifecycle hfirst.safe hfirst.clean hreap
  refine ⟨hmoves.trans hmove, hproceeds.trans hreaped.proceeds, hnodup, fun l' hl' => ?_⟩
  have hne : l' ≠ l := fun he => hl (he ▸ hl')
  have hq' := hrest l' (List.mem_cons_of_mem l hl')
  exact ⟨hdue l' hne hq'.due, reaped_safe hmove hreaped hne hq'.safe,
    reaped_clean hmove hreaped hq'.safe hq'.clean⟩

/-- No expired start lease in the reaper's batch would bring its run back. -/
def CleanPass (d : Deployment) (st : State) (now : Time) (batchSize : ℕ) : Prop :=
  ∀ l ∈ expiredLeases st now batchSize, resurrects d st now l = false

theorem expired_awaiting (ha : Accounted d st) {now : Time} {batchSize : ℕ}
    (hclean : CleanPass d st now batchSize) {l : Uuid} (h : l ∈ expiredLeases st now batchSize) :
    Awaiting d now st l := by
  obtain ⟨lease, hlease, hexpired⟩ := mem_expiredLeases h
  simp only [leaseExpired, Bool.and_eq_true, decide_eq_true_eq] at hexpired
  exact ⟨expired_due ha h, ⟨lease, hlease, .inl hexpired.1⟩, hclean l h⟩

theorem reapOverdue_proceeds (hl : Lifecycle st) {now : Time} {batchSize n : ℕ}
    (h : reapOverdueCancellations st now batchSize = .ok (st', n)) : Proceeds st st' :=
  reapOverdueCancellations_rule (P := fun mid => Proceeds st mid) h ⟨hl, evolves_refl st⟩
    (fun _ r hmid => hmid.trans (converge_proceeds hmid.lifecycle r now))

theorem reapExpired_proceeds (ha : Accounted d st) (hl : Lifecycle st) {now : Time}
    {batchSize n : ℕ} {flag : Bool} (hclean : CleanPass d st now batchSize)
    (h : reapExpiredLeases d st now batchSize flag = .ok (st', n)) : Proceeds st st' := by
  obtain ⟨mid, hloop, hrest⟩ := reapExpiredLeases_ok h
  have hmid := reapLoop_proceeds ha hl _ (expiredLeases_nodup st now batchSize)
    (fun l hmem => expired_awaiting ha hclean hmem) hloop
  rcases hrest with rfl | ⟨m, hover⟩
  · exact hmid
  · exact hmid.trans (reapOverdue_proceeds hmid.lifecycle hover)

section Claims
variable {ref : SourceRef} {source : OutboxSource} {ticket : ClaimTicket}

theorem pending_start (ha : Accounted d st) (hl : Lifecycle st) {r : Uuid}
    (hsource : st.outbox.get? ref = some source) (hpending : source.status = .pending)
    (htarget : source.target = .runStart r) :
    ∃ run, st.runs.get? r = some run ∧ run.cancelRequestedAt = none ∧ run.status = .queued := by
  have hmine : source.target.runId? = some r := by rw [htarget]; rfl
  obtain ⟨run, hrun⟩ := run_of_source ha.wired hsource hmine
  have hadmits := hl.admits ref source r run hsource hmine hrun
  rw [htarget, hpending] at hadmits
  exact ⟨run, hrun, hadmits⟩

theorem refuse_proceeds (ha : Accounted d st) (hl : Lifecycle st) {r : Uuid} (now : Time)
    (hsource : st.outbox.get? ref = some source) (hpending : source.status = .pending)
    (htarget : source.target = .runStart r) :
    Proceeds st ((st.setSource ref (refusedSource now)).setRun r (refusedRun now)) := by
  obtain ⟨run, hrun, hnone, hqueued⟩ := pending_start ha hl hsource hpending htarget
  refine ⟨hl.settle hrun hsource (by rw [htarget]; rfl) (fun _ => rfl) (fun _ => rfl)
    ⟨fun hset => absurd hnone hset, fun h => by cases h⟩ rfl (admits_closed _ _ rfl) ?_, ?_⟩
  · intro s other hne hother hmine
    exact admits_closed _ _ (others_closed hl ha.wired hrun hsource htarget (by simp [hnone]) s
      other hne hother hmine)
  · exact evolves_write hrun (fun _ => rfl) (fun hend => absurd hend (by rw [hqueued]; decide)) id
      (leasesFrom_refl _)

theorem dispatch_proceeds (ha : Accounted d st) (hl : Lifecycle st) {lease : ExecutionLease}
    (hsource : st.outbox.get? ref = some source) (hpending : source.status = .pending)
    (h : dispatchSource d st ticket ref source = .ok (st', lease)) : Proceeds st st' := by
  obtain ⟨expires, deadline, leases, rfl, -, hinsert, hstart⟩ := dispatchSource_ok h
  rcases startTarget_ok hstart with ⟨b, htarget, rfl⟩ | ⟨r, run, htarget, hrun, hqueued, rfl⟩ |
    ⟨r, run, htarget, hrun, haborting, rfl⟩
  · refine ⟨hl.quiet rfl ?_, ⟨fun r run hrun => ⟨run, hrun, fun _ => rfl, id⟩, ?_⟩⟩
    · intro s source' hget
      simp only [State.setBuild, State.setSource, Table.get?_modify] at hget
      split_ifs at hget with hs
      · subst hs
        rw [hsource] at hget
        obtain rfl := Option.some.inj hget
        exact ⟨source, hsource, rfl, .inl (by change source.target.runId? = none; rw [htarget]; rfl)⟩
      · exact ⟨source', hget, rfl, .inr (.inl rfl)⟩
    · intro l' lease' r run hget hltarget hrun hset
      change leases.get? l' = some lease' at hget
      rw [Table.get?_insert hinsert] at hget
      split_ifs at hget
      · obtain rfl := Option.some.inj hget
        change source.target = .runStart r at hltarget
        rw [htarget] at hltarget
        cases hltarget
      · exact ⟨lease', hget, hltarget⟩
  · have hmine : source.target.runId? = some r := by rw [htarget]; rfl
    obtain ⟨run', hrun', hnone, -⟩ := pending_start ha hl hsource hpending htarget
    change st.runs.get? r = some run at hrun
    rw [hrun] at hrun'
    obtain rfl := Option.some.inj hrun'
    refine ⟨hl.settle hrun hsource hmine (fun _ => rfl) (fun _ => rfl)
      ⟨fun hset => absurd hnone hset, fun h => by cases h⟩ rfl ?_ ?_, ?_⟩
    · rw [htarget]
      exact .inl ⟨hnone, .inl rfl⟩
    · intro s other hne hother hr
      exact admits_closed _ _ (others_closed hl ha.wired hrun hsource htarget (by simp [hnone]) s
        other hne hother hr)
    · exact evolves_lease hrun (fun _ => rfl) (fun hend => absurd hend (by rw [hqueued]; decide)) id
        hinsert hmine (fun _ => hnone)
  · have hmine : source.target.runId? = some r := by rw [htarget]; rfl
    change st.runs.get? r = some run at hrun
    have hsettling := hl.settling r run hrun
    refine ⟨hl.settle hrun hsource hmine (fun _ => (Table.get?_modify_id ..).symm) (fun _ => rfl) hsettling rfl ?_ ?_,
      ?_⟩
    · rw [htarget]
      exact ⟨hsettling.2 haborting, haborting⟩
    · exact fun s other _ hother hr => hl.admits s other r run hother hr hrun
    · refine evolves_lease hrun (fun _ => (Table.get?_modify_id ..).symm) (fun _ => rfl) id hinsert hmine (fun hs => ?_)
      change source.target = .runStart r at hs
      rw [htarget] at hs
      cases hs

theorem claimFirst_proceeds (ha : Accounted d st) (hl : Lifecycle st) {kinds : List WorkKind}
    {result : Option ExecutionLease} (h : claimFirst d st ticket kinds = .ok (st', result)) :
    Proceeds st st' := by
  rcases claimFirst_ok h with ⟨rfl, -⟩ | ⟨kind, ref, source, -, hselect, hclaim⟩
  · exact ⟨hl, evolves_refl _⟩
  · obtain ⟨hsource, hselectable⟩ := mem_of_selectSource hselect
    have hpending := (selectable_iff.1 hselectable).1
    rcases claimSource_ok hclaim with ⟨r, run, htarget, -, -, rfl⟩ | ⟨lease, -, hdispatch⟩
    · exact refuse_proceeds ha hl ticket.now hsource hpending htarget
    · exact dispatch_proceeds ha hl hsource hpending hdispatch

end Claims

section Leases
variable {l : Uuid} {lease : ExecutionLease}

theorem setLease_proceeds (hl : Lifecycle st) {f : ExecutionLease → ExecutionLease}
    (hlease : st.leases.get? l = some lease) (htarget : (f lease).target = lease.target) :
    Proceeds st (st.setLease l f) :=
  proceeds_frame hl rfl rfl (leasesFrom_modify hlease rfl htarget)

theorem started_run (ha : Accounted d st) (hl : Lifecycle st) {r : Uuid}
    (hlease : st.leases.get? l = some lease) (hactive : lease.status = .active)
    (htarget : lease.target = .runStart r) (hcancel : cancelRequested st r = false) :
    ∃ source run, st.outbox.get? lease.source = some source ∧ source.target = .runStart r ∧
      st.runs.get? r = some run ∧ run.cancelRequestedAt = none ∧
      run.status ∉ runTerminalStatuses := by
  have hmine : lease.target.runId? = some r := by rw [htarget]; rfl
  obtain ⟨source, run, hsource, hstarget, hrun, hadmits⟩ := held_run ha hl hlease hactive hmine
  have hnone := (cancelRequested_false hrun).1 hcancel
  rw [htarget] at hadmits
  have hlive : run.status = .starting ∨ run.status = .running := by
    simpa [Admits, hnone] using hadmits
  refine ⟨source, run, hsource, hstarget.trans htarget, hrun, hnone, ?_⟩
  rcases hlive with h | h <;> rw [h] <;> decide

/-- The holder of a start lease rewrites the run and its start, and nobody has cancelled the
run. -/
theorem start_proceeds (ha : Accounted d st) (hl : Lifecycle st) {r : Uuid} {g : Run → Run}
    {f : OutboxSource → OutboxSource} (hlease : st.leases.get? l = some lease)
    (hactive : lease.status = .active) (htarget : lease.target = .runStart r)
    (hcancel : cancelRequested st r = false)
    (hruns : ∀ r', st'.runs.get? r' = (st.runs.modify r g).get? r')
    (hout : ∀ s, st'.outbox.get? s = (st.outbox.modify lease.source f).get? s)
    (hleases : LeasesFrom st st')
    (hg : ∀ run : Run, (g run).cancelRequestedAt = run.cancelRequestedAt ∧
      (g run).status ≠ .aborting)
    (hf : ∀ source : OutboxSource, (f source).target = source.target)
    (hadmits : ∀ (run : Run) (source : OutboxSource), run.cancelRequestedAt = none →
      source.status = .claimed → Admits (g run) (.runStart r) (f source).status) :
    Proceeds st st' := by
  obtain ⟨source, run, hsource, hstarget, hrun, hnone, hlive⟩ :=
    started_run ha hl hlease hactive htarget hcancel
  obtain ⟨source', hsource', -, hclaimed⟩ := held_source ha hlease hactive
  rw [hsource] at hsource'
  obtain rfl := Option.some.inj hsource'
  refine ⟨hl.settle hrun hsource (by rw [hstarget]; rfl) hruns hout ?_ (hf source) ?_ ?_, ?_⟩
  · exact ⟨fun hset => absurd ((hg run).1.trans hnone) hset, fun h => absurd h (hg run).2⟩
  · rw [hstarget]
    exact hadmits run source hnone hclaimed
  · intro s other hne hother hmine
    exact admits_closed _ _ (others_closed hl ha.wired hrun hsource hstarget (by simp [hnone]) s
      other hne hother hmine)
  · exact evolves_write hrun hruns (fun hend => absurd hend hlive)
      (fun hset => by rw [(hg run).1]; exact hset) hleases

theorem cancel_proceeds (ha : Accounted d st) (hl : Lifecycle st) {r : Uuid} {g : Run → Run}
    {f : OutboxSource → OutboxSource} (hlease : st.leases.get? l = some lease)
    (hactive : lease.status = .active) (htarget : lease.target = .runCancel r)
    (hruns : ∀ r', st'.runs.get? r' = (st.runs.modify r g).get? r')
    (hout : ∀ s, st'.outbox.get? s = (st.outbox.modify lease.source f).get? s)
    (hleases : LeasesFrom st st')
    (hf : ∀ source : OutboxSource, (f source).target = source.target)
    (hg : ∀ (run : Run) (source : OutboxSource), run.cancelRequestedAt ≠ none →
      run.status = .aborting → source.status = .claimed →
      (g run).cancelRequestedAt = run.cancelRequestedAt ∧
      ((g run).status = .aborting ∨
        (g run).status = .failed ∧ OutboxStatus.isOpen (f source).status = false)) :
    Proceeds st st' := by
  have hmine : lease.target.runId? = some r := by rw [htarget]; rfl
  obtain ⟨source, run, hsource, hstarget, hrun, hheld⟩ := held_run ha hl hlease hactive hmine
  obtain ⟨source', hsource', -, hclaimed⟩ := held_source ha hlease hactive
  rw [hsource] at hsource'
  obtain rfl := Option.some.inj hsource'
  rw [htarget] at hheld hstarget
  obtain ⟨hset, haborting⟩ := hheld
  obtain ⟨hsame, hcase⟩ := hg run source hset haborting hclaimed
  have hset' : (g run).cancelRequestedAt ≠ none := by rw [hsame]; exact hset
  refine ⟨hl.settle hrun hsource (by rw [hstarget]; rfl) hruns hout ?_ (hf source) ?_ ?_, ?_⟩
  · exact ⟨fun _ => hcase.elim .inl (fun h => .inr (.inr h.1)), fun _ => hset'⟩
  · rw [hstarget]
    rcases hcase with hstay | ⟨-, hclosed⟩
    · cases (f source).status <;> simp [Admits, hset', hstay]
    · exact admits_closed _ _ hclosed
  · intro s other hne hother hr
    have hstart := (other_command ha.wired hsource hother hne hr).2 hstarget
    have hold := hl.admits s other r run hother hr hrun
    rw [hstart] at hold ⊢
    cases hstatus : other.status with
    | pending =>
      rw [hstatus] at hold
      exact absurd hold.1 hset
    | claimed => exact .inr ⟨hset', hcase.imp id And.left⟩
    | delivered | failed | cancelled => trivial
  · exact evolves_write hrun hruns (fun hend => absurd hend (by rw [haborting]; decide))
      (fun _ => hset') hleases

theorem updateLeaseStatus_proceeds (ha : Accounted d st) (hl : Lifecycle st)
    {report : StatusReport} {now : Time} (hlease : st.leases.get? l = some lease)
    (hactive : lease.status = .active)
    (hcancel : ∀ r, lease.target = .runStart r → cancelRequested st r = false)
    (h : updateLeaseStatus st l lease report now = .ok st') : Proceeds st st' := by
  simp only [updateLeaseStatus, bind_ok, pure_ok] at h
  obtain ⟨mid, htarget, rfl⟩ := h
  rcases updateTargetStatus_ok htarget with
    ⟨b, f, -, rfl⟩ | ⟨r, run, status, hstart, -, -, hstatus, rfl⟩ | ⟨r, run, hstop, -, rfl⟩
  · exact proceeds_frame hl rfl rfl (leasesFrom_modify hlease rfl rfl)
  · refine start_proceeds ha hl hlease hactive hstart (hcancel r hstart) (fun _ => rfl)
      (fun _ => (Table.get?_modify_id ..).symm) (leasesFrom_modify hlease rfl rfl)
      (fun run => ⟨rfl, ?_⟩) (fun _ => rfl) (fun run source hnone hclaimed => ?_)
    · rcases hstatus with rfl | rfl <;> simp [reportedRun]
    · rw [id, hclaimed]
      exact .inl ⟨hnone, hstatus⟩
  · exact cancel_proceeds ha hl hlease hactive hstop (fun _ => rfl)
      (fun _ => (Table.get?_modify_id ..).symm) (leasesFrom_modify hlease rfl rfl) (fun _ => rfl)
      (fun _ _ _ _ _ => ⟨rfl, .inl rfl⟩)

theorem build_proceeds (ha : Accounted d st) (hl : Lifecycle st) {b : Uuid}
    {f : OutboxSource → OutboxSource} (hlease : st.leases.get? l = some lease)
    (htarget : lease.target = .build b) (hruns : st'.runs = st.runs)
    (hout : st'.outbox = st.outbox.modify lease.source f) (hleases : LeasesFrom st st')
    (hf : ∀ source : OutboxSource, (f source).target = source.target) : Proceeds st st' := by
  obtain ⟨source, hsource, hstarget⟩ := source_of_lease ha.wired hlease
  refine proceeds_quiet hl hruns (fun s source' hget => ?_) hleases
  rw [hout, Table.get?_modify] at hget
  split_ifs at hget with hs
  · subst hs
    rw [hsource] at hget
    obtain rfl := Option.some.inj hget
    refine ⟨source, hsource, hf source, .inl ?_⟩
    rw [hf, hstarget, htarget]
    rfl
  · exact ⟨source', hget, rfl, .inr (.inl rfl)⟩

theorem retryLease_proceeds (ha : Accounted d st) (hl : Lifecycle st)
    (artifacts : Table Uuid ExecutionArtifact) (payload : CompleteLeaseRequest)
    (available now : Time) (hlease : st.leases.get? l = some lease)
    (hactive : lease.status = .active)
    (hcancel : ∀ r, lease.target = .runStart r → cancelRequested st r = false) :
    Proceeds st (retryLease { st with artifacts := artifacts } l lease payload available now) := by
  cases htarget : lease.target with
  | build b =>
    simp only [retryLease, resetRetryTarget, htarget]
    exact build_proceeds ha hl hlease htarget rfl rfl (leasesFrom_modify hlease rfl rfl)
      (fun _ => rfl)
  | runStart r =>
    simp only [retryLease, resetRetryTarget, htarget]
    exact start_proceeds ha hl hlease hactive htarget (hcancel r htarget) (fun _ => rfl)
      (fun _ => rfl) (leasesFrom_modify hlease rfl rfl) (fun _ => ⟨rfl, by simp [resetRun]⟩)
      (fun _ => rfl) (fun _ _ hnone _ => ⟨hnone, rfl⟩)
  | runCancel r =>
    simp only [retryLease, resetRetryTarget, htarget]
    exact cancel_proceeds ha hl hlease hactive htarget
      (fun _ => (Table.get?_modify_id ..).symm) (fun _ => rfl) (leasesFrom_modify hlease rfl rfl)
      (fun _ => rfl) (fun _ _ _ haborting _ => ⟨rfl, .inl haborting⟩)

theorem completedSource_closed (delivered : Bool) (code : Option String) (now : Time)
    (source : OutboxSource) :
    OutboxStatus.isOpen (completedSource delivered code now source).status = false := by
  cases delivered <;> rfl

/-- The outcomes that confirm a cancellation. -/
def confirms (payload : CompleteLeaseRequest) : Prop :=
  payload.outcome = .aborted ∨ payload.outcome = .succeeded

theorem completedRun_start (payload : CompleteLeaseRequest) (now : Time) (run : Run) :
    (completedRun payload false now run).cancelRequestedAt = run.cancelRequestedAt ∧
      (completedRun payload false now run).status ≠ .aborting := by
  cases h : payload.outcome <;> simp [completedRun, h]

theorem completedRun_cancel (payload : CompleteLeaseRequest) (now : Time) (run : Run) :
    (completedRun payload true now run).cancelRequestedAt = run.cancelRequestedAt ∧
      (confirms payload → (completedRun payload true now run).status = .aborted) ∧
      (¬ confirms payload → (completedRun payload true now run).status = .failed) := by
  cases h : payload.outcome <;> simp [completedRun, confirms, h]

theorem confirmed_proceeds (ha : Accounted d st) (hl : Lifecycle st) {r : Uuid} {run : Run}
    {payload : CompleteLeaseRequest} {now : Time} (hlease : st.leases.get? l = some lease)
    (hactive : lease.status = .active) (htarget : lease.target = .runCancel r)
    (hrun : st.runs.get? r = some run) (hconfirms : confirms payload) (delivered : Bool)
    (code summary : Option String) :
    Proceeds st (closeLease ((confirmFence st l lease r true payload now).setRun r
      (fun _ => completedRun payload true now run)) l lease delivered code summary now) := by
  have hmine : lease.target.runId? = some r := by rw [htarget]; rfl
  obtain ⟨source, run', hsource, hstarget, hrun', hheld⟩ := held_run ha hl hlease hactive hmine
  rw [hrun] at hrun'
  obtain rfl := Option.some.inj hrun'
  rw [htarget] at hheld
  obtain ⟨-, hrow⟩ := confirmFence_moves ha hlease hactive r true payload now
  have hfence : confirmFence st l lease r true payload now =
      fenceCancelledRunLeases st r now (some l) (some lease.source) := by
    rw [confirmFence, if_pos ⟨rfl, hconfirms⟩, hsource]
    rfl
  rw [hfence] at hrow ⊢
  have hmid := fence_proceeds r now (some l) (some lease.source) hl
  have hsource' : (fenceCancelledRunLeases st r now (some l) (some lease.source)).outbox.get?
      lease.source = some (fenceSource r (some lease.source) lease.source source) := by
    simp only [fenceCancelledRunLeases, Table.get?_mapRows, hsource, Option.map_some]
  have hended := (completedRun_cancel payload now run).2.1 hconfirms
  refine hmid.trans ⟨hmid.lifecycle.settle hrun hsource' ?_ (fun _ => rfl) (fun _ => rfl)
    (settling_aborted hended) rfl (admits_closed _ _ (completedSource_closed ..)) ?_, ?_⟩
  · rw [(fenceSource_target r _ lease.source source).1, hstarget, hmine]
  · intro s other hne hother hr
    exact admits_closed _ _ (fence_closed r now (some l) (some lease.source) st hother hr
      (fun he => hne (Option.some.inj he).symm))
  · refine evolves_write hrun (fun _ => rfl) (fun hend => absurd hend (by rw [hheld.2]; decide))
      (fun hset => ?_) (leasesFrom_modify hrow rfl rfl)
    rw [(completedRun_cancel payload now run).1]
    exact hset

theorem settleLease_proceeds (ha : Accounted d st) (hl : Lifecycle st)
    {payload : CompleteLeaseRequest} {now : Time} (hlease : st.leases.get? l = some lease)
    (hactive : lease.status = .active)
    (hcancel : ∀ r, lease.target = .runStart r → cancelRequested st r = false)
    (h : settleLease d st l lease payload now = .ok st') : Proceeds st st' := by
  obtain ⟨artifacts, hcases⟩ := settleLease_ok h
  rcases hcases with ⟨available, -, rfl⟩ | ⟨b, build, delivered, htarget, rfl⟩ |
    ⟨r, run, cancel, htarget, hrun, rfl⟩
  · exact retryLease_proceeds ha hl artifacts payload available now hlease hactive hcancel
  · exact build_proceeds ha hl hlease htarget rfl rfl (leasesFrom_modify hlease rfl rfl)
      (fun _ => rfl)
  · have hmid : Proceeds st { st with artifacts := artifacts } :=
      proceeds_frame hl rfl rfl (leasesFrom_refl _)
    have ha' : Accounted d { st with artifacts := artifacts } :=
      moves_accounted (moves_frame (keepsRuns_refl st) rfl rfl rfl) ha
    have hwrite : ∀ r', (st.runs.modify r (fun _ => completedRun payload cancel now run)).get? r' =
        (st.runs.modify r (completedRun payload cancel now)).get? r' := by
      intro r'
      rw [Table.get?_modify, Table.get?_modify]
      split_ifs with hr
      · rw [hr, hrun]
        rfl
      · rfl
    cases cancel with
    | false =>
      refine start_proceeds ha hl hlease hactive htarget (hcancel r htarget) hwrite (fun _ => rfl)
        (leasesFrom_modify hlease rfl rfl) (completedRun_start payload now) (fun _ => rfl)
        (fun _ _ _ _ => admits_closed _ _ (completedSource_closed ..))
    | true =>
      by_cases hconfirms : confirms payload
      · exact hmid.trans (confirmed_proceeds ha' hmid.lifecycle hlease hactive htarget hrun
          hconfirms _ _ _)
      · have hsame : confirmFence { st with artifacts := artifacts } l lease r true payload now =
            { st with artifacts := artifacts } := by
          rw [confirmFence, if_neg (fun hc => hconfirms hc.2)]
        rw [hsame]
        refine cancel_proceeds ha hl hlease hactive htarget hwrite (fun _ => rfl)
          (leasesFrom_modify hlease rfl rfl) (fun _ => rfl) (fun run' _ _ _ _ => ?_)
        have hfailed := completedRun_cancel payload now run'
        exact ⟨hfailed.1, .inr ⟨hfailed.2.2 hconfirms, completedSource_closed ..⟩⟩

end Leases

theorem settling_fresh {run : Run} (hnone : run.cancelRequestedAt = none)
    (hstatus : run.status ≠ .aborting) : Settling run :=
  ⟨fun hset => absurd hnone hset, fun h => absurd h hstatus⟩

theorem insertSource_proceeds {base mid : State} {ref : SourceRef}
    {source : OutboxSource} (hbase : Proceeds st base) (h : insertSource base ref source = .ok mid)
    (hadmits : ∀ r run, source.target.runId? = some r → base.runs.get? r = some run →
      Admits run source.target source.status) : Proceeds st mid := by
  obtain ⟨-, hinsert, hmid⟩ := insertSource_ok h
  refine hbase.trans ⟨hbase.lifecycle.submit hinsert ?_ hadmits, evolves_same ?_ ?_⟩
  · rw [hmid]
  · rw [hmid]
  · rw [hmid]
    exact leasesFrom_refl _

theorem createBuild_proceeds (hl : Lifecycle st) {caller : Caller} {versionId buildId jobId id : Uuid}
    (h : createBuild d st caller versionId buildId jobId = .ok (st', id)) : Proceeds st st' := by
  rcases createBuild_ok h with rfl | ⟨builds, source, mid, idempotency, htarget, hpending,
    -, hinsert, rfl⟩
  · exact ⟨hl, evolves_refl _⟩
  · have hbase : Proceeds st { st with builds := builds } :=
      proceeds_frame hl rfl rfl (leasesFrom_refl _)
    have hmid := insertSource_proceeds hbase hinsert (by
      rw [htarget]
      rintro r run ⟨⟩)
    exact hmid.trans (proceeds_frame hmid.lifecycle rfl rfl (leasesFrom_refl _))

theorem createRun_proceeds (ha : Accounted d st) (hl : Lifecycle st) {caller : Caller}
    {versionId buildId runId commandId id : Uuid} {plan : Except Failure RunPlan}
    (h : createRun d st caller versionId buildId plan runId commandId = .ok (st', id)) :
    Proceeds st st' := by
  rcases createRun_ok h with rfl | ⟨version, chosen, mid, idempotency, -, hrun, rfl⟩
  · exact ⟨hl, evolves_refl _⟩
  · obtain ⟨runs, hruns, hrest⟩ := insertRun_ok hrun
    have hbase : Proceeds st { st with runs := runs } := by
      refine ⟨hl.create ha.wired hruns rfl (settling_fresh rfl ?_), ⟨fun r run hget => ?_, ?_⟩⟩
      · simp only [requestedRun]
        split_ifs <;> simp
      · exact ⟨run, Table.get?_insert_old hruns hget, fun _ => rfl, fun hset => hset⟩
      · exact fun l lease r run hget htarget _ _ => ⟨lease, hget, htarget⟩
    have hmid : Proceeds st mid := by
      rcases hrest with ⟨-, rfl⟩ | ⟨hqueued, source, htarget, hpending, -, hinsert⟩
      · exact hbase
      · refine insertSource_proceeds hbase hinsert (fun r run hr hget => ?_)
        rw [htarget] at hr
        obtain rfl := Option.some.inj hr
        change runs.get? runId = some run at hget
        rw [Table.get?_insert hruns, if_pos rfl] at hget
        obtain rfl := Option.some.inj hget
        rw [htarget, hpending]
        exact ⟨rfl, by simp [requestedRun, hqueued]⟩
    exact hmid.trans (proceeds_frame hmid.lifecycle rfl rfl (leasesFrom_refl _))

theorem withdrawStart_spec (hw : Wired st) (r : Uuid) :
    (withdrawStart st r).runs = st.runs ∧ (withdrawStart st r).leases = st.leases ∧
      Quiets st (withdrawStart st r) ∧
      ∀ s source, (withdrawStart st r).outbox.get? s = some source →
        source.target = .runStart r → source.status ≠ .pending := by
  have hunique : ∀ s s' source source', st.outbox.get? s = some source →
      st.outbox.get? s' = some source' → source.target = .runStart r →
      source'.target = .runStart r → s = s' := by
    intro s s' source source' hs hs' ht ht'
    exact hw.target_unique s s' (.runStart r) (by rw [targetOf, hs, ← ht]; rfl)
      (by rw [targetOf, hs', ← ht']; rfl)
  unfold withdrawStart
  split
  · rename_i ref source hfind
    obtain ⟨hget, htarget⟩ := Table.find?_some hfind
    rw [decide_eq_true_eq] at htarget
    split_ifs with hpending
    · refine ⟨rfl, rfl, fun s source' hs => ?_, fun s source' hs ht => ?_⟩ <;>
        simp only [State.setSource, Table.get?_modify] at hs <;> split_ifs at hs with he
      · subst he
        rw [hget] at hs
        obtain rfl := Option.some.inj hs
        exact ⟨source, hget, rfl, .inr (.inr rfl)⟩
      · exact ⟨source', hs, rfl, .inr (.inl rfl)⟩
      · subst he
        rw [hget] at hs
        obtain rfl := Option.some.inj hs
        simp [withdrawnSource]
      · exact absurd (hunique s ref source' source hs hget ht htarget) he
    · refine ⟨rfl, rfl, quiets_refl st, fun s source' hs ht => ?_⟩
      obtain rfl := hunique s ref source' source hs hget ht htarget
      rw [hget] at hs
      obtain rfl := Option.some.inj hs
      exact hpending
  · rename_i hnone
    refine ⟨rfl, rfl, quiets_refl st, fun s source hs ht => ?_⟩
    have hfalse := Table.find?_none hnone hs
    rw [decide_eq_false_iff_not] at hfalse
    exact absurd ht hfalse

theorem waiting_not_terminal (status : RunStatus)
    (h : status ∈ [RunStatus.draft, .ready, .queued]) : status ∉ runTerminalStatuses := by
  revert h
  cases status <;> decide

theorem active_not_terminal (status : RunStatus) (h : status ∈ runCancellableActiveStatuses) :
    status ∉ runTerminalStatuses := by
  revert h
  cases status <;> decide

/-- Before a run starts, its start is the only command that can be open, and nobody has claimed
it. -/
theorem waiting_command (hl : Lifecycle st) {r : Uuid} {run : Run} {s : SourceRef}
    {source : OutboxSource} (hrun : st.runs.get? r = some run)
    (hwaiting : run.status ∈ [RunStatus.draft, .ready, .queued])
    (hsource : st.outbox.get? s = some source) (hmine : source.target.runId? = some r) :
    OutboxStatus.isOpen source.status = false ∨
      (source.target = .runStart r ∧ source.status = .pending) := by
  have hadmits := hl.admits s source r run hsource hmine hrun
  have hnot : ¬ (run.cancelRequestedAt ≠ none ∧ run.status = .aborting) := by
    rintro ⟨-, h⟩
    rw [h] at hwaiting
    exact absurd hwaiting (by decide)
  cases htarget : source.target with
  | build b =>
    rw [htarget] at hmine
    cases hmine
  | runCancel r' =>
    rw [htarget] at hadmits
    exact .inl (cancel_closed hadmits hnot)
  | runStart r' =>
    rw [htarget] at hmine hadmits
    obtain rfl := Option.some.inj hmine
    cases hstatus : source.status with
    | pending => exact .inr ⟨rfl, rfl⟩
    | claimed =>
      rw [hstatus] at hadmits
      rcases hadmits with ⟨-, h | h⟩ | ⟨-, h | h⟩ <;> rw [h] at hwaiting <;>
        exact absurd hwaiting (by decide)
    | delivered | failed | cancelled => exact .inl rfl

theorem abort_proceeds (ha : Accounted d st) (hl : Lifecycle st) {r : Uuid} {run : Run}
    (hrun : st.runs.get? r = some run)
    (hwaiting : run.status ∈ [RunStatus.draft, .ready, .queued]) (now : Time) :
    Proceeds st (withdrawStart (st.setRun r (fun _ => abortedRun d now run)) r) := by
  have ha' : Accounted d (st.setRun r (fun _ => abortedRun d now run)) :=
    moves_accounted (moves_frame (keepsRuns_setRun st r _) rfl rfl rfl) ha
  obtain ⟨hruns, hleases, hquiets, hwithdrawn⟩ := withdrawStart_spec ha'.wired r
  refine ⟨hl.write hrun (fun r' => by rw [hruns]; rfl) (settling_aborted rfl) ?_, ?_⟩
  · intro s source' hget
    obtain ⟨source, hsource, hsame, hcase⟩ := hquiets s source' hget
    refine ⟨source, hsource, hsame, fun hmine => admits_closed _ _ ?_, fun _ => ⟨hsame, hcase⟩⟩
    rcases hcase with hbuild | hstatus | hclosed
    · rw [hbuild] at hmine
      cases hmine
    · rcases waiting_command hl hrun hwaiting hsource (hsame ▸ hmine) with h | ⟨hstart, hpending⟩
      · rw [hstatus]
        exact h
      · exact absurd (hstatus.trans hpending) (hwithdrawn s source' hget (hsame.trans hstart))
    · exact hclosed
  · exact evolves_write hrun (fun r' => by rw [hruns]; rfl)
      (fun hend => absurd hend (waiting_not_terminal run.status hwaiting))
      (fun _ => by simp [abortedRun, cancelledRun])
      (fun l lease hget => ⟨lease, hleases ▸ hget, rfl⟩)

theorem aborting_proceeds (hl : Lifecycle st) {r : Uuid} {run : Run}
    (hrun : st.runs.get? r = some run) (hactive : run.status ∈ runCancellableActiveStatuses)
    (now : Time) : Proceeds st (st.setRun r (fun _ => abortingRun d now run)) := by
  have hset : (abortingRun d now run).cancelRequestedAt ≠ none := by
    simp [abortingRun, cancelledRun]
  refine ⟨hl.write hrun (fun _ => rfl) ⟨fun _ => .inl rfl, fun _ => hset⟩ ?_, ?_⟩
  · intro s source hget
    refine ⟨source, hget, rfl, fun hmine => ?_, fun _ => ⟨rfl, .inr (.inl rfl)⟩⟩
    have hadmits := hl.admits s source r run hget hmine hrun
    cases htarget : source.target with
    | build b => exact trivial
    | runCancel r' =>
      cases source.status with
      | pending | claimed => exact ⟨hset, rfl⟩
      | delivered | failed | cancelled => trivial
    | runStart r' =>
      rw [htarget] at hadmits
      cases hstatus : source.status with
      | pending =>
        rw [hstatus] at hadmits
        rw [hadmits.2] at hactive
        exact absurd hactive (by decide)
      | claimed => exact .inr ⟨hset, .inl rfl⟩
      | delivered | failed | cancelled => trivial
  · exact evolves_write hrun (fun _ => rfl)
      (fun hend => absurd hend (active_not_terminal run.status hactive)) (fun _ => hset)
      (leasesFrom_refl _)

theorem ensureCancelCommand_proceeds {base mid : State} {r commandId : Uuid} {run : Run}
    {now : Time} (hbase : Proceeds st base) (hrun : base.runs.get? r = some run)
    (haborting : run.status = .aborting)
    (h : ensureCancelCommand base r commandId run now = .ok mid) : Proceeds st mid := by
  rcases ensureCancelCommand_ok h with rfl | ⟨source, htarget, hpending, -, hinsert⟩
  · exact hbase
  · refine insertSource_proceeds hbase hinsert (fun r' run' hr hget => ?_)
    rw [htarget] at hr
    obtain rfl := Option.some.inj hr
    rw [hrun] at hget
    obtain rfl := Option.some.inj hget
    rw [htarget, hpending]
    exact ⟨(hbase.lifecycle.settling _ _ hrun).2 haborting, haborting⟩

theorem cancelRun_proceeds (ha : Accounted d st) (hl : Lifecycle st) {caller : Caller}
    {runId commandId id : Uuid} (h : cancelRun d st caller runId commandId = .ok (st', id)) :
    Proceeds st st' := by
  rcases cancelRun_ok h with rfl | ⟨run, mid, idempotency, hrun, hrequest, rfl⟩
  · exact ⟨hl, evolves_refl _⟩
  · have hmid : Proceeds st mid := by
      rcases requestCancellation_ok hrequest with
        ⟨-, rfl⟩ | ⟨hwaiting, rfl⟩ | ⟨hactive, hensure⟩ | ⟨haborting, hensure⟩
      · exact ⟨hl, evolves_refl _⟩
      · exact abort_proceeds ha hl hrun hwaiting caller.now
      · refine ensureCancelCommand_proceeds (aborting_proceeds hl hrun hactive caller.now) ?_ rfl
          hensure
        simp only [State.setRun, Table.get?_modify_self, hrun, Option.map_some]
      · exact ensureCancelCommand_proceeds ⟨hl, evolves_refl _⟩ hrun haborting hensure
    exact hmid.trans (proceeds_frame hmid.lifecycle rfl rfl (leasesFrom_refl _))

theorem detectLostWorkers_proceeds (hl : Lifecycle st) {now : Time} {batchSize : ℕ}
    (h : detectLostWorkers d st now batchSize = .ok st') : Proceeds st st' := by
  simp only [detectLostWorkers, bind_ok] at h
  obtain ⟨-, -, hloop⟩ := h
  refine foldlM_rule (fun mid _ => Proceeds st mid) (fun mid mid' w rest hmid hlose => ?_) _ st st'
    ⟨hl, evolves_refl st⟩ hloop
  simp only [loseWorker, bind_ok, pure_ok] at hlose
  obtain ⟨-, -, rfl⟩ := hlose
  refine hmid.trans (proceeds_frame hmid.lifecycle rfl rfl
    (leasesFrom_mapRows (f := fun _ lease => loseLease now w lease) rfl (fun l lease => ?_)))
  simp only [loseLease]
  split_ifs <;> rfl

/-- The condition on a request: a pass of the reaper that goes through, alone or at the start of a
claim, brings no run back. -/
def Clean (d : Deployment) (st : State) : Op → Prop
  | .reapExpiredLeases now batchSize reapCancellations =>
    (reapExpiredLeases d st now batchSize reapCancellations).isOk = true →
      CleanPass d st now batchSize
  | .claimWork credential kinds leaseId leaseTokenDigest now =>
    (claimRequest d st credential kinds leaseId leaseTokenDigest now).isOk = true →
      CleanPass d st now 100
  | _ => True

instance decidableCleanPass (d : Deployment) (st : State) (now : Time) (batchSize : ℕ) :
    Decidable (CleanPass d st now batchSize) :=
  inferInstanceAs (Decidable (∀ l ∈ expiredLeases st now batchSize, resurrects d st now l = false))

instance decidableClean (d : Deployment) (st : State) : (op : Op) → Decidable (Clean d st op)
  | .reapExpiredLeases now batchSize reapCancellations =>
    inferInstanceAs (Decidable ((reapExpiredLeases d st now batchSize reapCancellations).isOk = true →
      CleanPass d st now batchSize))
  | .claimWork credential kinds leaseId leaseTokenDigest now =>
    inferInstanceAs (Decidable
      ((claimRequest d st credential kinds leaseId leaseTokenDigest now).isOk = true →
        CleanPass d st now 100))
  | .createRun .. | .createBuild .. | .cancelRun .. | .renewLease .. | .updateLeaseStatus ..
  | .completeLease .. | .issueSecretEnvelope .. | .reapOverdueCancellations ..
  | .detectLostWorkers .. | .directoryChange .. => inferInstanceAs (Decidable True)

theorem claimRequest_proceeds (ha : Accounted d st) (hl : Lifecycle st)
    {credential : WorkerCredential} {kinds : List WorkKind} {leaseId : Uuid} {digest : String}
    {now : Time} {result : Option ExecutionLease} (hclean : CleanPass d st now 100)
    (h : claimRequest d st credential kinds leaseId digest now = .ok (st', result)) :
    Proceeds st st' := by
  obtain ⟨directory, hclaim⟩ := claimRequest_ok h
  obtain ⟨mid, n, hreap, hfirst⟩ := claimWork_ok hclaim
  have ha' := moves_accounted (directory_moves d st directory) ha
  have hbase : Proceeds st { st with directory := directory } :=
    proceeds_frame hl rfl rfl (leasesFrom_refl _)
  have hmid := reapExpired_proceeds ha' hbase.lifecycle hclean hreap
  have hlast := claimFirst_proceeds (moves_accounted (reapExpired_moves ha' hreap) ha')
    hmid.lifecycle hfirst
  exact (hbase.trans hmid).trans hlast

theorem underLease_proceeds (ha : Accounted d st) (hl : Lifecycle st) {α : Type} {call : LeaseCall}
    {result : α} {body : State → WorkerIdentity → ExecutionLease → Except Failure (State × α)}
    (h : underLease st call body = .ok (st', result))
    (hbody : ∀ base worker lease, Accounted d base → Lifecycle base →
      base.leases.get? call.leaseId = some lease → lease.status = .active →
      (∀ r, lease.target = .runStart r → cancelRequested base r = false) →
      body base worker lease = .ok (st', result) → Proceeds base st') : Proceeds st st' := by
  obtain ⟨directory, worker, lease, hlease, hactive, hcancel, hrun⟩ := underLease_ok h
  have hbase : Proceeds st { st with directory := directory } :=
    proceeds_frame hl rfl rfl (leasesFrom_refl _)
  exact hbase.trans (hbody _ worker lease (moves_accounted (directory_moves d st directory) ha)
    hbase.lifecycle hlease hactive hcancel hrun)

theorem step_proceeds (ha : Accounted d st) (hl : Lifecycle st) (op : Op) (hclean : Clean d st op) :
    Proceeds st (step d st op) := by
  have hsame : Proceeds st st := ⟨hl, evolves_refl st⟩
  cases op with
  | createRun caller versionId buildId plan runId commandId =>
    exact commit_cases hsame (fun _ _ h => createRun_proceeds ha hl h)
  | createBuild caller versionId buildId jobId =>
    exact commit_cases hsame (fun _ _ h => createBuild_proceeds hl h)
  | cancelRun caller runId commandId =>
    exact commit_cases hsame (fun _ _ h => cancelRun_proceeds ha hl h)
  | claimWork credential kinds leaseId digest now =>
    exact commit_cases hsame (fun _ _ h => claimRequest_proceeds ha hl (hclean (by rw [h]; rfl)) h)
  | renewLease call extendSeconds =>
    refine commit_cases hsame (fun _ _ h => underLease_proceeds ha hl h
      (fun base _ _ _ hl' hlease _ _ hbody => ?_))
    obtain ⟨extended, -, rfl⟩ := renewLease_ok (withoutResult_ok hbody)
    exact setLease_proceeds hl' hlease rfl
  | updateLeaseStatus call report =>
    exact commit_cases hsame (fun _ _ h => underLease_proceeds ha hl h
      (fun _ _ _ ha' hl' hlease hactive hcancel hbody =>
        updateLeaseStatus_proceeds ha' hl' hlease hactive hcancel (withoutResult_ok hbody)))
  | completeLease call payload =>
    refine commit_cases hsame (fun _ _ h => underLease_proceeds ha hl h
      (fun base _ _ ha' hl' hlease hactive hcancel hbody => ?_))
    obtain ⟨mid, hsettle, rfl⟩ := completeLease_ok hcancel (withoutResult_ok hbody)
    have hmid := settleLease_proceeds ha' hl' hlease hactive hcancel hsettle
    exact hmid.trans (proceeds_frame hmid.lifecycle rfl rfl (leasesFrom_refl _))
  | issueSecretEnvelope call payload grantId =>
    refine commit_cases hsame (fun _ _ h => underLease_proceeds ha hl h
      (fun base _ _ _ hl' hlease hactive _ hbody => ?_))
    rcases issueSecretEnvelope_ok hbody with rfl | ⟨runId, fingerprint, -, hst⟩
    · exact ⟨hl', evolves_refl _⟩
    · rw [hst]
      exact proceeds_frame hl' rfl rfl (leasesFrom_refl _)
  | reapExpiredLeases now batchSize reapCancellations =>
    exact commit_cases hsame (fun _ _ h => reapExpired_proceeds ha hl (hclean (by rw [h]; rfl)) h)
  | reapOverdueCancellations now batchSize =>
    exact commit_cases hsame (fun _ _ h => reapOverdue_proceeds hl h)
  | detectLostWorkers now batchSize =>
    exact commit_cases hsame (fun _ _ h => detectLostWorkers_proceeds hl (withoutResult_ok h))
  | directoryChange directory => exact proceeds_frame hl rfl rfl (leasesFrom_refl _)

theorem initial_lifecycle (directory : Directory) : Lifecycle (initial directory) := by
  constructor <;> simp [initial]

/-- Over a whole run whose reaper passes are clean. -/
theorem after_proceeds (ha : Accounted d st) (hl : Lifecycle st) (ops : List Op)
    (hclean : Along (step d) (Clean d) st ops) :
    Accounted d (after d st ops) ∧ Proceeds st (after d st ops) :=
  along_invariant (step d) (P := fun mid => Accounted d mid ∧ Proceeds st mid)
    (fun _ op hmid hop => ⟨moves_accounted (step_moves hmid.1 op) hmid.1,
      hmid.2.trans (step_proceeds hmid.1 hmid.2.lifecycle op hop)⟩)
    ops st ⟨ha, hl, evolves_refl st⟩ hclean

end RoozDataCloud.RunLifecycleSteps
