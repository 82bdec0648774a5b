import RoozDataCloud.ExecutionMoves
import RoozDataCloud.LeaseBoard

set_option autoImplicit false

/-!
# Sources and leases as a board

The outbox and the lease table, seen as a lease board, stay sound under every
move; the references between the tables stay wired.
-/
namespace RoozDataCloud.LeaseAccounting
open KeyedTable ExecutionModels FallibleSteps CancellationConvergence ExecutionMoves LeaseBoard

def phase : OutboxStatus → Phase
  | .pending => .waiting
  | .claimed => .held
  | _ => .closed

def holding (lease : ExecutionLease) : Holding SourceRef where
  source := lease.source
  attempt := lease.attempt
  live := lease.status = .active

def board (st : State) : Board SourceRef Uuid where
  source := fun s => (st.outbox.get? s).map (fun source => (phase source.status, source.attempts))
  lease := fun l => (st.leases.get? l).map holding

def targetOf (st : State) (s : SourceRef) : Option Target := (st.outbox.get? s).map (·.target)

def linkOf (st : State) (l : Uuid) : Option (SourceRef × Target) :=
  (st.leases.get? l).map (fun lease => (lease.source, lease.target))

structure Wired (st : State) : Prop where
  source_run : ∀ s t r, targetOf st s = some t → t.runId? = some r → (st.runs.get? r).isSome
  target_unique : ∀ s s' t, targetOf st s = some t → targetOf st s' = some t → s = s'
  lease_source : ∀ l s t, linkOf st l = some (s, t) → targetOf st s = some t

structure Accounted (d : Deployment) (st : State) : Prop where
  wired : Wired st
  sound : (board st).Sound d.settings.workerMaxAttempts

theorem phase_eq_held {s : OutboxStatus} : phase s = .held ↔ s = .claimed := by
  cases s <;> simp [phase]

theorem phase_eq_waiting {s : OutboxStatus} : phase s = .waiting ↔ s = .pending := by
  cases s <;> simp [phase]

theorem phase_open {s : OutboxStatus} (h : OutboxStatus.isOpen s = false) : phase s = .closed := by
  cases s <;> simp_all [phase, OutboxStatus.isOpen]

theorem Wired.congr {st st' : State} (hw : Wired st) (hruns : KeepsRuns st st')
    (ht : ∀ s, targetOf st' s = targetOf st s) (hl : ∀ l, linkOf st' l = linkOf st l) :
    Wired st' := by
  constructor
  · intro s t r hs hr
    exact hruns r (hw.source_run s t r (ht s ▸ hs) hr)
  · intro s s' t hs hs'
    exact hw.target_unique s s' t (ht s ▸ hs) (ht s' ▸ hs')
  · intro l s t hs
    rw [ht]
    exact hw.lease_source l s t (hl l ▸ hs)

section Fence
variable (st : State) (runId : Uuid) (now : Time) (preserveLease : Option Uuid)
  (preserveSource : Option SourceRef)

theorem fenceLease_same (id : Uuid) (lease : ExecutionLease) :
    SameLease lease (fenceLease runId now preserveLease id lease) := by
  unfold fenceLease
  split_ifs <;> exact ⟨rfl, rfl, rfl, rfl, rfl⟩

theorem fenceLease_active (id : Uuid) (lease : ExecutionLease) :
    (fenceLease runId now preserveLease id lease).status = .active ↔
      lease.status = .active ∧ fences runId preserveLease id lease = false := by
  unfold fenceLease
  split_ifs with h
  · simp [h, cancelledLease]
  · simp [h]

theorem fenceSource_target (ref : SourceRef) (source : OutboxSource) :
    (fenceSource runId preserveSource ref source).target = source.target ∧
      (fenceSource runId preserveSource ref source).attempts = source.attempts := by
  unfold fenceSource
  split_ifs <;> exact ⟨rfl, rfl⟩

theorem fenceSource_phase (ref : SourceRef) (source : OutboxSource) :
    phase (fenceSource runId preserveSource ref source).status =
      if source.target.runId? = some runId ∧ preserveSource ≠ some ref then .closed
      else phase source.status := by
  unfold fenceSource
  cases hs : source.status <;> split_ifs <;> simp_all [phase, convergedSource]

end Fence

theorem targetOf_fence (st : State) (runId : Uuid) (now : Time) (preserveLease : Option Uuid)
    (preserveSource : Option SourceRef) (s : SourceRef) :
    targetOf (fenceCancelledRunLeases st runId now preserveLease preserveSource) s =
      targetOf st s :=
  Table.map_get?_mapRows _ _ _ _ (fun source _ => (fenceSource_target runId preserveSource s source).1)

theorem linkOf_fence (st : State) (runId : Uuid) (now : Time) (preserveLease : Option Uuid)
    (preserveSource : Option SourceRef) (l : Uuid) :
    linkOf (fenceCancelledRunLeases st runId now preserveLease preserveSource) l = linkOf st l :=
  Table.map_get?_mapRows _ _ _ _ (fun lease _ => by
    have h := fenceLease_same runId now preserveLease l lease
    simp only [h.source, h.target])

theorem move_wired {d : Deployment} {st st' : State} (hm : Move d st st') (hw : Wired st) :
    Wired st' := by
  cases hm with
  | frame hruns houtbox hleases hgrants =>
    exact hw.congr hruns (fun s => by simp only [targetOf, houtbox])
      (fun l => by simp only [linkOf, hleases])
  | renew f hsame hruns houtbox hleases hgrants =>
    refine hw.congr hruns (fun s => by simp only [targetOf, houtbox]) (fun l => ?_)
    simp only [linkOf, hleases l]
    cases hl : st.leases.get? l with
    | none => rfl
    | some lease =>
      have h := (hsame l lease hl).1
      simp only [Option.map_some, h.source, h.target]
  | issue id grant lease hlease hactive hexpires hruns houtbox hleases hgrants =>
    exact hw.congr hruns (fun s => by simp only [targetOf, houtbox])
      (fun l => by simp only [linkOf, hleases])
  | submit ref source hpending hattempts hfresh hrun hruns houtbox hleases hgrants =>
    have ht : ∀ s, targetOf st' s = if s = ref then some source.target else targetOf st s := by
      intro s
      rw [targetOf, Table.get?_insert houtbox]
      split_ifs <;> rfl
    have hnew : ∀ s t, targetOf st s = some t → t ≠ source.target := by
      intro s t hs
      obtain ⟨source', hsource', rfl⟩ := Option.map_eq_some_iff.1 hs
      exact hfresh s source' hsource'
    have hne : ∀ s t, targetOf st s = some t → s ≠ ref := by
      rintro s t hs rfl
      rw [targetOf, Table.insert_fresh houtbox] at hs
      cases hs
    constructor
    · intro s t r hs hr
      rw [ht] at hs
      split_ifs at hs
      · obtain rfl := Option.some.inj hs
        exact hrun r hr
      · exact hruns r (hw.source_run s t r hs hr)
    · intro s s' t hs hs'
      rw [ht] at hs hs'
      split_ifs at hs hs' with h h' h'
      · exact h.trans h'.symm
      · exact absurd (Option.some.inj hs).symm (hnew s' t hs')
      · exact absurd (Option.some.inj hs').symm (hnew s t hs)
      · exact hw.target_unique s s' t hs hs'
    · intro l s t hl
      have hold := hw.lease_source l s t (by simpa only [linkOf, hleases] using hl)
      rw [ht, if_neg (hne s t hold)]
      exact hold
  | withdraw ref source f hsource hpending htarget hclosed hattempts hruns houtbox hleases hgrants =>
    refine hw.congr hruns (fun s => ?_) (fun l => by simp only [linkOf, hleases])
    simp only [targetOf, houtbox]
    refine Table.map_get?_modify _ _ _ _ _ (fun source' hsource' => ?_)
    rw [hsource] at hsource'
    obtain rfl := Option.some.inj hsource'
    exact htarget
  | take ref source f id lease hsource hpending htarget hclaimed hattempts hlsource hltarget
      hlstatus hlattempt hlexpires hruns houtbox hleases hgrants =>
    have ht : ∀ s, targetOf st' s = targetOf st s := by
      intro s
      simp only [targetOf, houtbox]
      refine Table.map_get?_modify _ _ _ _ _ (fun source' hsource' => ?_)
      rw [hsource] at hsource'
      obtain rfl := Option.some.inj hsource'
      exact htarget
    constructor
    · intro s t r hs hr
      exact hruns r (hw.source_run s t r (ht s ▸ hs) hr)
    · intro s s' t hs hs'
      exact hw.target_unique s s' t (ht s ▸ hs) (ht s' ▸ hs')
    · intro l s t hl
      rw [linkOf, Table.get?_insert hleases] at hl
      rw [ht]
      split_ifs at hl with he
      · simp only [Option.map_some, Option.some.injEq, Prod.mk.injEq, hlsource, hltarget] at hl
        obtain ⟨rfl, rfl⟩ := hl
        rw [targetOf, hsource]
        rfl
      · exact hw.lease_source l s t hl
  | fence runId now preserveLease preserveSource hpreserved hruns houtbox hleases hgrants =>
    refine hw.congr hruns (fun s => ?_) (fun l => ?_)
    · rw [targetOf, houtbox]
      exact targetOf_fence ..
    · rw [linkOf, hleases]
      exact linkOf_fence ..
  | settle id lease f g status hlease honly hsource hsame hended hstatus hruns houtbox hleases
      hgrants =>
    refine hw.congr hruns (fun s => ?_) (fun l => ?_)
    · simp only [targetOf, houtbox]
      exact Table.map_get?_modify _ _ _ _ _ (fun source' hsource' => (hsource source' hsource').1)
    · simp only [linkOf, hleases]
      refine Table.map_get?_modify _ _ _ _ _ (fun lease' hlease' => ?_)
      rw [hlease] at hlease'
      obtain rfl := Option.some.inj hlease'
      rw [hsame.source, hsame.target]

theorem board_source {st : State} {s : SourceRef} {source : OutboxSource}
    (h : st.outbox.get? s = some source) :
    (board st).source s = some (phase source.status, source.attempts) := by
  simp only [board, h, Option.map_some]

theorem board_lease {st : State} {l : Uuid} {lease : ExecutionLease}
    (h : st.leases.get? l = some lease) : (board st).lease l = some (holding lease) := by
  simp only [board, h, Option.map_some]

theorem board_congr {st st' : State} (houtbox : st'.outbox = st.outbox)
    (hleases : ∀ l, (st'.leases.get? l).map holding = (st.leases.get? l).map holding) :
    board st' = board st :=
  Board.ext (by simp only [board, houtbox]) (funext hleases)

theorem board_modify (st : State) (ref : SourceRef) (f : OutboxSource → OutboxSource)
    (g : Phase × ℕ → Phase × ℕ) (leases : Table Uuid ExecutionLease) (s : SourceRef)
    (hf : ∀ source, st.outbox.get? ref = some source →
      (phase (f source).status, (f source).attempts) = g (phase source.status, source.attempts)) :
    (board { st with outbox := st.outbox.modify ref f, leases := leases }).source s =
      if s = ref then ((board st).source s).map g else (board st).source s := by
  simp only [board, Table.get?_modify]
  split_ifs with hs
  · subst hs
    cases hg : st.outbox.get? s with
    | none => rfl
    | some source => exact congrArg some (hf source hg)
  · rfl

theorem lease_target {st : State} (hw : Wired st) {l : Uuid} {lease : ExecutionLease}
    (h : st.leases.get? l = some lease) : targetOf st lease.source = some lease.target :=
  hw.lease_source l lease.source lease.target (by simp only [linkOf, h, Option.map_some])

/-- The sources a fence closes. -/
def fenced (st : State) (runId : Uuid) (preserved : Option SourceRef) (s : SourceRef) : Bool :=
  (targetOf st s).any (fun t => t.runId? = some runId) && preserved ≠ some s

theorem board_fence {st : State} (hw : Wired st) (runId : Uuid) (now : Time)
    (preserveLease : Option Uuid) (preserveSource : Option SourceRef)
    (hpreserved : ∀ id lease, st.leases.get? id = some lease → lease.status = .active →
      (preserveLease = some id ↔ preserveSource = some lease.source)) :
    board (fenceCancelledRunLeases st runId now preserveLease preserveSource) =
      (board st).reset (fenced st runId preserveSource) (fun x => (.closed, x.2)) := by
  refine Board.ext (funext fun s => ?_) (funext fun l => ?_)
  · simp only [board, fenceCancelledRunLeases, Table.get?_mapRows, Board.reset, fenced, targetOf]
    rcases Option.eq_none_or_eq_some (st.outbox.get? s) with hs | ⟨source, hs⟩
    · simp [hs]
    · have ht := fenceSource_target runId preserveSource s source
      have hp := fenceSource_phase runId preserveSource s source
      simp only [hs, Option.map_some, ht.2, hp, Option.any_some, Bool.and_eq_true,
        decide_eq_true_eq, ne_eq]
      split_ifs <;> rfl
  · simp only [board, fenceCancelledRunLeases, Table.get?_mapRows, Board.reset]
    cases hl : st.leases.get? l with
    | none => rfl
    | some lease =>
      have hsame := fenceLease_same runId now preserveLease l lease
      have hactive := fenceLease_active runId now preserveLease l lease
      have hF : fenced st runId preserveSource lease.source =
          (decide (lease.target.runId? = some runId) && decide (preserveSource ≠ some lease.source)) := by
        rw [fenced, lease_target hw hl, Option.any_some]
      simp only [Option.map_some, Option.some.injEq, holding, hsame.source, hsame.attempt, hF,
        Holding.mk.injEq, true_and]
      have hdecide : decide ((fenceLease runId now preserveLease l lease).status = .active) =
          decide (lease.status = .active ∧ fences runId preserveLease l lease = false) :=
        decide_eq_decide.2 hactive
      rw [hdecide]
      simp only [fences]
      by_cases hlive : lease.status = .active
      · have hp := hpreserved l lease hl hlive
        by_cases hpl : preserveLease = some l
        · simp [hlive, hpl, hp.1 hpl]
        · have hps : ¬ preserveSource = some lease.source := fun h => hpl (hp.2 h)
          simp [hlive, hpl, hps]
      · simp [hlive]

theorem board_settle {st st' : State} {id : Uuid} {lease : ExecutionLease} {source : OutboxSource}
    {f : OutboxSource → OutboxSource} {g : ExecutionLease → ExecutionLease}
    (hlease : st.leases.get? id = some lease) (honly : OnlyHolder st id lease.source)
    (hsource : st.outbox.get? lease.source = some source)
    (hattempts : (f source).attempts = source.attempts) (hsame : SameLease lease (g lease))
    (hended : (g lease).status ≠ .active) (houtbox : st'.outbox = st.outbox.modify lease.source f)
    (hleases : st'.leases = st.leases.modify id g) :
    board st' = (board st).reset (fun s => decide (s = lease.source))
      (fun x => (phase (f source).status, x.2)) := by
  refine Board.ext (funext fun s => ?_) (funext fun l => ?_)
  · simp only [Board.reset, decide_eq_true_eq]
    rw [← board_modify st lease.source f _ st.leases s]
    · simp only [board, houtbox]
    · intro source' hsource'
      rw [hsource] at hsource'
      obtain rfl := Option.some.inj hsource'
      rw [hattempts]
  · simp only [board, hleases, Table.get?_modify, Board.reset]
    by_cases hl : l = id
    · subst hl
      simp only [↓reduceIte, hlease, Option.map_some, holding, hsame.source, hsame.attempt, hended,
        decide_true, decide_false, Bool.not_true, Bool.and_false]
    · simp only [hl, ↓reduceIte]
      cases hg : st.leases.get? l with
      | none => rfl
      | some other =>
        simp only [Option.map_some, Option.some.injEq, holding, Holding.mk.injEq, true_and]
        by_cases hs : other.source = lease.source
        · have hlive : ¬ other.status = .active := fun h => hl (honly l other hg hs h)
          simp [hlive]
        · simp [hs]

theorem move_sound {d : Deployment} {st st' : State} (hm : Move d st st')
    (ha : Accounted d st) : (board st').Sound d.settings.workerMaxAttempts := by
  have hb := ha.sound
  cases hm with
  | frame hruns houtbox hleases hgrants =>
    rw [board_congr houtbox (fun l => by rw [hleases])]
    exact hb
  | renew f hsame hruns houtbox hleases hgrants =>
    rw [board_congr houtbox (fun l => ?_)]
    · exact hb
    · rw [hleases l]
      cases hl : st.leases.get? l with
      | none => rfl
      | some lease =>
        obtain ⟨h, hstatus, -⟩ := hsame l lease hl
        simp only [Option.map_some, holding, h.source, h.attempt, hstatus]
  | issue id grant lease hlease hactive hexpires hruns houtbox hleases hgrants =>
    rw [board_congr houtbox (fun l => by rw [hleases])]
    exact hb
  | submit ref source hpending hattempts hfresh hrun hruns houtbox hleases hgrants =>
    have hnone : (board st).source ref = none := by
      simp only [board, Table.insert_fresh houtbox, Option.map_none]
    have heq : board st' = (board st).submit ref := by
      refine Board.ext (funext fun s => ?_) ?_
      · rw [Board.submit_source]
        simp only [board, Table.get?_insert houtbox]
        split_ifs
        · simp only [Option.map_some, hpending, hattempts, phase]
        · rfl
      · simp only [board, Board.submit, hleases]
    rw [heq]
    exact hb.submit hnone d.settings.attempt_bounds.1
  | withdraw ref source f hsource hpending htarget hclosed hattempts hruns houtbox hleases hgrants =>
    have hwait := board_source hsource
    rw [phase_eq_waiting.2 hpending] at hwait
    have hspare := hb.spare ref _ hwait
    have heq : board st' =
        (board st).reset (fun s => decide (s = ref)) (fun _ => (.closed, (f source).attempts)) := by
      refine Board.ext (funext fun s => ?_) (funext fun l => ?_)
      · simp only [Board.reset, decide_eq_true_eq]
        rw [← board_modify st ref f _ st.leases s]
        · simp only [board, houtbox]
        · intro source' hsource'
          rw [hsource] at hsource'
          obtain rfl := Option.some.inj hsource'
          rw [phase_open hclosed]
      · simp only [Board.reset, board, hleases]
        cases hl : st.leases.get? l with
        | none => rfl
        | some lease =>
          simp only [Option.map_some, Option.some.injEq]
          by_cases hs : lease.source = ref
          · have hlive := hb.not_live (board_lease hl) (hs ▸ hwait) (by decide)
            simp only [holding] at hlive ⊢
            simp [hlive]
          · simp [holding, hs]
    rw [heq]
    refine hb.reset (fun s x hs hx => ?_)
    rw [decide_eq_true_eq] at hs
    subst hs
    rw [hwait] at hx
    obtain rfl := Option.some.inj hx
    refine ⟨by simp, ?_, ?_, by simp⟩
    · rcases hattempts with h | h <;> simp only [h] <;> omega
    · rcases hattempts with h | h <;> simp only [h] <;> omega
  | take ref source f id lease hsource hpending htarget hclaimed hattempts hlsource hltarget
      hlstatus hlattempt hlexpires hruns houtbox hleases hgrants =>
    have hwait := board_source hsource
    rw [phase_eq_waiting.2 hpending] at hwait
    have hnone : (board st).lease id = none := by
      simp only [board, Table.insert_fresh hleases, Option.map_none]
    have heq : board st' = (board st).take ref id source.attempts := by
      refine Board.ext (funext fun s => ?_) (funext fun l => ?_)
      · rw [Board.take_source]
        simp only [board, houtbox, Table.get?_modify]
        split_ifs with hs
        · subst hs
          simp only [hsource, Option.map_some, hclaimed, hattempts, phase]
        · rfl
      · rw [Board.take_lease]
        simp only [board, Table.get?_insert hleases]
        split_ifs
        · simp only [Option.map_some, holding, hlsource, hlattempt, hlstatus, decide_true]
        · rfl
    rw [heq]
    exact hb.take hwait hnone
  | fence runId now preserveLease preserveSource hpreserved hruns houtbox hleases hgrants =>
    have heq := board_fence ha.wired runId now preserveLease preserveSource hpreserved
    rw [show board st' = board (fenceCancelledRunLeases st runId now preserveLease preserveSource) by
      simp only [board, houtbox, hleases], heq]
    refine hb.reset (fun s x _ hx => ?_)
    exact ⟨by simp, le_refl _, hb.bounded s x.1 x.2 hx, by simp⟩
  | settle id lease f g status hlease honly hsource hsame hended hstatus hruns houtbox hleases
      hgrants =>
    obtain ⟨source, hget, -⟩ := Option.map_eq_some_iff.1 (lease_target ha.wired hlease)
    obtain ⟨-, hattempts, hclaimed, hspare⟩ := hsource source hget
    rw [board_settle hlease honly hget hattempts hsame hended houtbox hleases]
    refine hb.reset (fun s x hs hx => ?_)
    rw [decide_eq_true_eq] at hs
    subst hs
    have hbound := hb.bounded _ x.1 x.2 hx
    rw [board_source hget] at hx
    obtain rfl := Option.some.inj hx
    exact ⟨fun h => hclaimed (phase_eq_held.1 h), le_refl _, hbound,
      fun h => hspare (phase_eq_waiting.1 h)⟩

theorem move_accounted {d : Deployment} {st st' : State} (hm : Move d st st')
    (ha : Accounted d st) : Accounted d st' :=
  ⟨move_wired hm ha.wired, move_sound hm ha⟩

theorem moves_accounted {d : Deployment} {st st' : State} (hm : Moves d st st')
    (ha : Accounted d st) : Accounted d st' := by
  induction hm with
  | refl => exact ha
  | tail _ hstep ih => exact move_accounted hstep ih

end RoozDataCloud.LeaseAccounting
