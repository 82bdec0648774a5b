import RoozDataCloud.ExecutionSteps

set_option autoImplicit false

/-!
# The life of a run

What a run's row may say while its start and cancel commands are open, and what
one request may change in it.
-/
namespace RoozDataCloud.RunLifecycle
open KeyedTable ExecutionModels FallibleSteps CancellationConvergence LeaseReaper
open ExecutionMoves LeaseAccounting ExecutionSteps

/-- The run's row allows a command for it to stand in this status. -/
def Admits (run : Run) : Target → OutboxStatus → Prop
  | .runStart _, .pending => run.cancelRequestedAt = none ∧ run.status = .queued
  | .runStart _, .claimed =>
    (run.cancelRequestedAt = none ∧ (run.status = .starting ∨ run.status = .running)) ∨
      (run.cancelRequestedAt ≠ none ∧ (run.status = .aborting ∨ run.status = .failed))
  | .runCancel _, .pending => run.cancelRequestedAt ≠ none ∧ run.status = .aborting
  | .runCancel _, .claimed => run.cancelRequestedAt ≠ none ∧ run.status = .aborting
  | _, _ => True

/-- A cancelled run is being aborted or has ended without succeeding, and only a cancelled run
is being aborted. -/
def Settling (run : Run) : Prop :=
  (run.cancelRequestedAt ≠ none →
    run.status = .aborting ∨ run.status = .aborted ∨ run.status = .failed) ∧
  (run.status = .aborting → run.cancelRequestedAt ≠ none)

structure Lifecycle (st : State) : Prop where
  settling : ∀ r run, st.runs.get? r = some run → Settling run
  admits : ∀ s source r run, st.outbox.get? s = some source → source.target.runId? = some r →
    st.runs.get? r = some run → Admits run source.target source.status

/-- One request on: an ended run keeps its status, a recorded cancellation stays recorded, and
the start leases of a cancelled run are those it had. -/
structure Evolves (st st' : State) : Prop where
  run : ∀ r run, st.runs.get? r = some run → ∃ run', st'.runs.get? r = some run' ∧
    (run.status ∈ runTerminalStatuses → run'.status = run.status) ∧
    (run.cancelRequestedAt ≠ none → run'.cancelRequestedAt ≠ none)
  start : ∀ l lease r run, st'.leases.get? l = some lease → lease.target = .runStart r →
    st.runs.get? r = some run → run.cancelRequestedAt ≠ none →
    ∃ row, st.leases.get? l = some row ∧ row.target = .runStart r

/-- Every lease of `st'` is one of `st`, on the same target. -/
def LeasesFrom (st st' : State) : Prop :=
  ∀ l lease, st'.leases.get? l = some lease →
    ∃ row, st.leases.get? l = some row ∧ row.target = lease.target

variable {st st' : State}

theorem leasesFrom_refl (st : State) : LeasesFrom st st := fun _ lease h => ⟨lease, h, rfl⟩

theorem leasesFrom_mapRows {f : Uuid → ExecutionLease → ExecutionLease}
    (hleases : st'.leases = st.leases.mapRows f) (hf : ∀ l lease, (f l lease).target = lease.target) :
    LeasesFrom st st' := by
  intro l lease hget
  rw [hleases, Table.get?_mapRows] at hget
  obtain ⟨row, hrow, rfl⟩ := Option.map_eq_some_iff.1 hget
  exact ⟨row, hrow, (hf l row).symm⟩

theorem Evolves.trans {a b c : State} (h : Evolves a b) (h' : Evolves b c) : Evolves a c := by
  constructor
  · intro r run hrun
    obtain ⟨run', hrun', hterminal, hcancel⟩ := h.run r run hrun
    obtain ⟨run'', hrun'', hterminal', hcancel'⟩ := h'.run r run' hrun'
    refine ⟨run'', hrun'', fun hend => ?_, fun hset => hcancel' (hcancel hset)⟩
    have hkeep := hterminal hend
    rw [hterminal' (hkeep ▸ hend), hkeep]
  · intro l lease r run hlease htarget hrun hset
    obtain ⟨run', hrun', -, hcancel⟩ := h.run r run hrun
    obtain ⟨row, hrow, hrowTarget⟩ := h'.start l lease r run' hlease htarget hrun' (hcancel hset)
    exact h.start l row r run hrow hrowTarget hrun hset

theorem evolves_start (hleases : LeasesFrom st st') {l : Uuid} {lease : ExecutionLease} {r : Uuid}
    (hget : st'.leases.get? l = some lease) (htarget : lease.target = .runStart r) :
    ∃ row, st.leases.get? l = some row ∧ row.target = .runStart r := by
  obtain ⟨row, hrow, hsame⟩ := hleases l lease hget
  exact ⟨row, hrow, hsame.trans htarget⟩

theorem evolves_same (hruns : st'.runs = st.runs) (hleases : LeasesFrom st st') :
    Evolves st st' where
  run := fun _ run hrun => ⟨run, by rw [hruns]; exact hrun, fun _ => rfl, id⟩
  start := fun _ _ _ _ hget htarget _ _ => evolves_start hleases hget htarget

theorem evolves_refl (st : State) : Evolves st st := evolves_same rfl (leasesFrom_refl st)

theorem written_run {r : Uuid} {run : Run} {f : Run → Run} (hrun : st.runs.get? r = some run)
    (hruns : ∀ r', st'.runs.get? r' = (st.runs.modify r f).get? r')
    (hterminal : run.status ∈ runTerminalStatuses → (f run).status = run.status)
    (hcancel : run.cancelRequestedAt ≠ none → (f run).cancelRequestedAt ≠ none)
    (r' : Uuid) (run' : Run) (hrun' : st.runs.get? r' = some run') :
    ∃ run'', st'.runs.get? r' = some run'' ∧
      (run'.status ∈ runTerminalStatuses → run''.status = run'.status) ∧
      (run'.cancelRequestedAt ≠ none → run''.cancelRequestedAt ≠ none) := by
  rw [hruns, Table.get?_modify]
  split_ifs with hr
  · subst hr
    rw [hrun] at hrun'
    obtain rfl := Option.some.inj hrun'
    exact ⟨f run, by rw [hrun]; rfl, hterminal, hcancel⟩
  · exact ⟨run', hrun', fun _ => rfl, id⟩

/-- One run is rewritten. -/
theorem evolves_write {r : Uuid} {run : Run} {f : Run → Run} (hrun : st.runs.get? r = some run)
    (hruns : ∀ r', st'.runs.get? r' = (st.runs.modify r f).get? r')
    (hterminal : run.status ∈ runTerminalStatuses → (f run).status = run.status)
    (hcancel : run.cancelRequestedAt ≠ none → (f run).cancelRequestedAt ≠ none)
    (hleases : LeasesFrom st st') : Evolves st st' where
  run := written_run hrun hruns hterminal hcancel
  start := fun _ _ _ _ hget htarget _ _ => evolves_start hleases hget htarget

/-- One run is rewritten and leased. -/
theorem evolves_lease {r l : Uuid} {run : Run} {f : Run → Run} {lease : ExecutionLease}
    (hrun : st.runs.get? r = some run)
    (hruns : ∀ r', st'.runs.get? r' = (st.runs.modify r f).get? r')
    (hterminal : run.status ∈ runTerminalStatuses → (f run).status = run.status)
    (hcancel : run.cancelRequestedAt ≠ none → (f run).cancelRequestedAt ≠ none)
    (hleases : st.leases.insert? l lease = some st'.leases)
    (hmine : lease.target.runId? = some r)
    (hstart : lease.target = .runStart r → run.cancelRequestedAt = none) : Evolves st st' where
  run := written_run hrun hruns hterminal hcancel
  start := by
    intro l' lease' r' run' hget htarget hrun' hset
    rw [Table.get?_insert hleases] at hget
    split_ifs at hget
    · obtain rfl := Option.some.inj hget
      rw [htarget] at hmine
      obtain rfl := Option.some.inj hmine
      rw [hrun] at hrun'
      obtain rfl := Option.some.inj hrun'
      exact absurd (hstart htarget) hset
    · exact ⟨lease', hget, htarget⟩

theorem admits_closed (run : Run) (target : Target) {status : OutboxStatus}
    (h : OutboxStatus.isOpen status = false) : Admits run target status := by
  cases target <;> cases status <;> simp_all [Admits, OutboxStatus.isOpen]

/-- A row of the outbox after a request: it kept its status, or closed, or is a build's. -/
def Quieter (source source' : OutboxSource) : Prop :=
  source'.target = source.target ∧
    (source'.target.runId? = none ∨ source'.status = source.status ∨
      OutboxStatus.isOpen source'.status = false)

/-- Every source of `st'` is one of `st`, grown quieter. -/
def Quiets (st st' : State) : Prop :=
  ∀ s source', st'.outbox.get? s = some source' →
    ∃ source, st.outbox.get? s = some source ∧ Quieter source source'

theorem quiets_refl (st : State) : Quiets st st :=
  fun _ source h => ⟨source, h, rfl, .inr (.inl rfl)⟩

theorem Lifecycle.quiet (hl : Lifecycle st) (hruns : st'.runs = st.runs) (hout : Quiets st st') :
    Lifecycle st' := by
  constructor
  · intro r run hrun
    exact hl.settling r run (hruns ▸ hrun)
  · intro s source' r run hsource' htarget hrun
    obtain ⟨source, hsource, hsame, hcases⟩ := hout s source' hsource'
    have hold := hl.admits s source r run hsource (hsame ▸ htarget) (hruns ▸ hrun)
    rcases hcases with hbuild | hstatus | hclosed
    · rw [hbuild] at htarget
      cases htarget
    · rw [hsame, hstatus]
      exact hold
    · exact admits_closed run source'.target hclosed

/-- One run is rewritten; its commands are checked against the new row, all others grow
quieter. -/
theorem Lifecycle.write (hl : Lifecycle st) {r : Uuid} {run : Run} {f : Run → Run}
    (hrun : st.runs.get? r = some run)
    (hruns : ∀ r', st'.runs.get? r' = (st.runs.modify r f).get? r')
    (hsettling : Settling (f run))
    (hout : ∀ s source', st'.outbox.get? s = some source' →
      ∃ source, st.outbox.get? s = some source ∧ source'.target = source.target ∧
        (source'.target.runId? = some r → Admits (f run) source'.target source'.status) ∧
        (source'.target.runId? ≠ some r → Quieter source source')) : Lifecycle st' := by
  have hget : ∀ r' run', st'.runs.get? r' = some run' →
      (r' = r ∧ run' = f run) ∨ (r' ≠ r ∧ st.runs.get? r' = some run') := by
    intro r' run' hrun'
    rw [hruns, Table.get?_modify] at hrun'
    split_ifs at hrun' with hr
    · subst hr
      rw [hrun] at hrun'
      exact .inl ⟨rfl, (Option.some.inj hrun').symm⟩
    · exact .inr ⟨hr, hrun'⟩
  constructor
  · intro r' run' hrun'
    rcases hget r' run' hrun' with ⟨-, rfl⟩ | ⟨-, hold⟩
    · exact hsettling
    · exact hl.settling r' run' hold
  · intro s source' r' run' hsource' htarget hrun'
    obtain ⟨source, hsource, hsame, hmine, hothers⟩ := hout s source' hsource'
    rcases hget r' run' hrun' with ⟨rfl, rfl⟩ | ⟨hne, hold⟩
    · exact hmine htarget
    · have hother : source'.target.runId? ≠ some r := by
        rw [htarget]
        exact fun he => hne (Option.some.inj he)
      have hadmits := hl.admits s source r' run' hsource (hsame ▸ htarget) hold
      rcases (hothers hother).2 with hbuild | hstatus | hclosed
      · rw [hbuild] at htarget
        cases htarget
      · rw [hsame, hstatus]
        exact hadmits
      · exact admits_closed run' source'.target hclosed

/-- A command is added for a run that admits it. -/
theorem Lifecycle.submit (hl : Lifecycle st) {ref : SourceRef} {source : OutboxSource}
    (houtbox : st.outbox.insert? ref source = some st'.outbox) (hruns : st'.runs = st.runs)
    (hadmits : ∀ r run, source.target.runId? = some r → st.runs.get? r = some run →
      Admits run source.target source.status) : Lifecycle st' := by
  constructor
  · intro r run hrun
    exact hl.settling r run (hruns ▸ hrun)
  · intro s source' r run hsource' htarget hrun
    rw [hruns] at hrun
    rw [Table.get?_insert houtbox] at hsource'
    split_ifs at hsource'
    · obtain rfl := Option.some.inj hsource'
      exact hadmits r run htarget hrun
    · exact hl.admits s source' r run hsource' htarget hrun

/-- A run no command refers to yet is added. -/
theorem Lifecycle.create (hl : Lifecycle st) (hw : Wired st) {r : Uuid} {run : Run}
    (hruns : st.runs.insert? r run = some st'.runs) (houtbox : st'.outbox = st.outbox)
    (hsettling : Settling run) : Lifecycle st' := by
  constructor
  · intro r' run' hrun'
    rw [Table.get?_insert hruns] at hrun'
    split_ifs at hrun'
    · obtain rfl := Option.some.inj hrun'
      exact hsettling
    · exact hl.settling r' run' hrun'
  · intro s source r' run' hsource htarget hrun'
    rw [houtbox] at hsource
    have hsome := hw.source_run s source.target r' (by rw [targetOf, hsource]; rfl) htarget
    rw [Table.get?_insert hruns] at hrun'
    split_ifs at hrun' with hr
    · subst hr
      rw [Table.insert_fresh hruns] at hsome
      cases hsome
    · exact hl.admits s source r' run' hsource htarget hrun'

/-- The lifecycle holds again, and the runs have evolved towards it. -/
structure Proceeds (st st' : State) : Prop where
  lifecycle : Lifecycle st'
  evolves : Evolves st st'

theorem Proceeds.trans {a b c : State} (h : Proceeds a b) (h' : Proceeds b c) : Proceeds a c :=
  ⟨h'.lifecycle, h.evolves.trans h'.evolves⟩

theorem proceeds_quiet (hl : Lifecycle st) (hruns : st'.runs = st.runs) (hout : Quiets st st')
    (hleases : LeasesFrom st st') : Proceeds st st' :=
  ⟨hl.quiet hruns hout, evolves_same hruns hleases⟩

theorem proceeds_frame (hl : Lifecycle st) (hruns : st'.runs = st.runs)
    (hout : st'.outbox = st.outbox) (hleases : LeasesFrom st st') : Proceeds st st' :=
  proceeds_quiet hl hruns (fun s source h => quiets_refl st s source (hout ▸ h)) hleases

/-- One command and its run are rewritten together. -/
theorem Lifecycle.settle (hl : Lifecycle st) {r : Uuid} {run : Run} {g : Run → Run}
    {ref : SourceRef} {source : OutboxSource} {f : OutboxSource → OutboxSource}
    (hrun : st.runs.get? r = some run) (hsource : st.outbox.get? ref = some source)
    (hmine : source.target.runId? = some r)
    (hruns : ∀ r', st'.runs.get? r' = (st.runs.modify r g).get? r')
    (hout : ∀ s, st'.outbox.get? s = (st.outbox.modify ref f).get? s)
    (hsettling : Settling (g run)) (htarget : (f source).target = source.target)
    (hadmits : Admits (g run) source.target (f source).status)
    (hothers : ∀ s other, s ≠ ref → st.outbox.get? s = some other →
      other.target.runId? = some r → Admits (g run) other.target other.status) :
    Lifecycle st' := by
  refine hl.write hrun hruns hsettling (fun s source' hget => ?_)
  rw [hout, Table.get?_modify] at hget
  split_ifs at hget with hs
  · subst hs
    rw [hsource] at hget
    obtain rfl := Option.some.inj hget
    refine ⟨source, hsource, htarget, fun _ => htarget ▸ hadmits, fun hne => ?_⟩
    exact absurd (htarget ▸ hmine) hne
  · exact ⟨source', hget, rfl, hothers s source' hs hget, fun _ => ⟨rfl, .inr (.inl rfl)⟩⟩

/-- The other command of a run: only one of each kind exists. -/
theorem other_command (hw : Wired st) {r : Uuid} {s s' : SourceRef} {source other : OutboxSource}
    (hsource : st.outbox.get? s = some source) (hother : st.outbox.get? s' = some other)
    (hne : s' ≠ s) (hmine : other.target.runId? = some r) :
    (source.target = .runStart r → other.target = .runCancel r) ∧
      (source.target = .runCancel r → other.target = .runStart r) := by
  have hdiffer : other.target ≠ source.target := fun he =>
    hne (hw.target_unique s' s source.target (by rw [targetOf, hother, ← he]; rfl)
      (by rw [targetOf, hsource]; rfl))
  cases htarget : other.target with
  | build b =>
    rw [htarget] at hmine
    cases hmine
  | runStart r' =>
    rw [htarget] at hmine hdiffer
    obtain rfl := Option.some.inj hmine
    exact ⟨fun he => absurd he.symm hdiffer, fun _ => rfl⟩
  | runCancel r' =>
    rw [htarget] at hmine hdiffer
    obtain rfl := Option.some.inj hmine
    exact ⟨fun _ => rfl, fun he => absurd he.symm hdiffer⟩

theorem cancel_closed {run : Run} {r : Uuid} {status : OutboxStatus}
    (h : Admits run (.runCancel r) status)
    (hnot : ¬ (run.cancelRequestedAt ≠ none ∧ run.status = .aborting)) :
    OutboxStatus.isOpen status = false := by
  cases status <;> simp_all [Admits, OutboxStatus.isOpen]

/-- Without a cancellation, a run's start is its only command that can be open. -/
theorem others_closed (hl : Lifecycle st) (hw : Wired st) {r : Uuid} {run : Run} {s : SourceRef}
    {source : OutboxSource} (hrun : st.runs.get? r = some run)
    (hsource : st.outbox.get? s = some source) (htarget : source.target = .runStart r)
    (hnot : ¬ (run.cancelRequestedAt ≠ none ∧ run.status = .aborting))
    (s' : SourceRef) (other : OutboxSource) (hne : s' ≠ s) (hother : st.outbox.get? s' = some other)
    (hmine : other.target.runId? = some r) : OutboxStatus.isOpen other.status = false := by
  have hcancel := (other_command hw hsource hother hne hmine).1 htarget
  have hadmits := hl.admits s' other r run hother hmine hrun
  rw [hcancel] at hadmits
  exact cancel_closed hadmits hnot

end RoozDataCloud.RunLifecycle
