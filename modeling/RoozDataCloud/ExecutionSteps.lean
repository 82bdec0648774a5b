import RoozDataCloud.LeaseAccounting

set_option autoImplicit false

/-!
# Every request is a sequence of moves
-/
namespace RoozDataCloud.ExecutionSteps
open KeyedTable ExecutionModels FallibleSteps ExecutionRecovery CancellationConvergence
open LeaseReaper WorkClaims LeaseRequests RunRequests ExecutionSystem ExecutionMoves
open LeaseAccounting LeaseBoard

variable {d : Deployment} {st st' : State}

theorem keepsRuns_refl (st : State) : KeepsRuns st st := fun _ h => h

theorem keepsRuns_setRun (st : State) (r : Uuid) (f : Run → Run) :
    KeepsRuns st (st.setRun r f) := by
  intro r' h
  simp only [State.setRun, Table.get?_modify]
  split_ifs
  · rwa [Option.isSome_map]
  · exact h

theorem keepsRuns_insert {runs : Table Uuid Run} {r : Uuid} {run : Run}
    (h : st.runs.insert? r run = some runs) : KeepsRuns st { st with runs := runs } := by
  intro r' hr'
  simp only [Table.get?_insert h]
  split_ifs
  · rfl
  · exact hr'

theorem moves_frame (hruns : KeepsRuns st st') (houtbox : st'.outbox = st.outbox)
    (hleases : st'.leases = st.leases) (hgrants : st'.grants = st.grants) : Moves d st st' :=
  .single (.frame hruns houtbox hleases hgrants)

theorem fence_move (d : Deployment) (st : State) (runId : Uuid) (now : Time) :
    Move d st (fenceCancelledRunLeases st runId now none none) :=
  .fence runId now none none (by simp) (keepsRuns_refl st) rfl rfl rfl

theorem converge_moves (d : Deployment) (st : State) (runId : Uuid) (now : Time) :
    Moves d st (convergeCancelledRun st runId now).1 := by
  have hfence : Moves d st _ := .single (fence_move d st runId now)
  rcases convergeCancelledRun_cases st runId now with ⟨h, -⟩ | ⟨h, -⟩ | ⟨h, -⟩
  · rw [h]
    exact hfence
  · rw [h]
    exact hfence
  · rw [h]
    exact hfence.tail (.frame (keepsRuns_setRun _ _ _) rfl rfl rfl)

/-- A lease whose source has not been claimed again since. -/
def Due (st : State) (l : Uuid) : Prop :=
  ∃ lease source, st.leases.get? l = some lease ∧ st.outbox.get? lease.source = some source ∧
    source.target = lease.target ∧ source.attempts = lease.attempt ∧
    (lease.status = .active ∨ source.status ≠ .claimed)

theorem source_of_lease (hw : Wired st) {l : Uuid} {lease : ExecutionLease}
    (hlease : st.leases.get? l = some lease) :
    ∃ source, st.outbox.get? lease.source = some source ∧ source.target = lease.target :=
  Option.map_eq_some_iff.1 (lease_target hw hlease)

theorem due_of_active (ha : Accounted d st) {l : Uuid} {lease : ExecutionLease}
    (hlease : st.leases.get? l = some lease) (hactive : lease.status = .active) : Due st l := by
  obtain ⟨source, hsource, htarget⟩ := source_of_lease ha.wired hlease
  have hheld := ha.sound.live_held l _ (board_lease hlease) (by simp [holding, hactive])
  rw [show (holding lease).source = lease.source from rfl, board_source hsource] at hheld
  injection hheld with hpair
  exact ⟨lease, source, hlease, hsource, htarget, congrArg Prod.snd hpair, .inl hactive⟩

theorem onlyHolder_of_due (ha : Accounted d st) {l : Uuid} {lease : ExecutionLease}
    {source : OutboxSource} (hlease : st.leases.get? l = some lease)
    (hsource : st.outbox.get? lease.source = some source)
    (hheld : lease.status = .active ∨ source.status ≠ .claimed) :
    OnlyHolder st l lease.source := by
  intro l' lease' hlease' hs hactive'
  rcases hheld with hactive | hfree
  · exact ha.sound.live_unique (board_lease hlease') (board_lease hlease) hs
      (by simp [holding, hactive']) (by simp [holding, hactive])
  · have hnot := ha.sound.not_live (board_lease hlease')
      (by rw [show (holding lease').source = lease.source from hs]; exact board_source hsource)
      (fun h => hfree (phase_eq_held.1 h))
    simp [holding, hactive'] at hnot

theorem due_unique (ha : Accounted d st) {l l' : Uuid} {lease lease' : ExecutionLease}
    {source : OutboxSource} (hlease : st.leases.get? l = some lease)
    (hlease' : st.leases.get? l' = some lease') (hs : lease'.source = lease.source)
    (hattempt : source.attempts = lease.attempt) (hattempt' : source.attempts = lease'.attempt) :
    l' = l :=
  ha.sound.distinct l' l _ _ (board_lease hlease') (board_lease hlease) hs
    (hattempt'.symm.trans hattempt)

theorem due_fence {l : Uuid} (hdue : Due st l) (runId : Uuid) (now : Time) :
    Due (fenceCancelledRunLeases st runId now none none) l := by
  obtain ⟨lease, source, hlease, hsource, htarget, hattempt, hheld⟩ := hdue
  have hsame := fenceLease_same runId now none l lease
  have hcols := fenceSource_target runId none lease.source source
  refine ⟨fenceLease runId now none l lease, fenceSource runId none lease.source source, ?_, ?_,
    ?_, ?_, ?_⟩
  · simp only [fenceCancelledRunLeases, Table.get?_mapRows, hlease, Option.map_some]
  · simp only [fenceCancelledRunLeases, Table.get?_mapRows, hsame.source, hsource,
      Option.map_some]
  · rw [hcols.1, hsame.target, htarget]
  · rw [hcols.2, hsame.attempt, hattempt]
  · have hphase := fenceSource_phase runId none lease.source source
    by_cases hrun : source.target.runId? = some runId
    · right
      intro hclaimed
      rw [hclaimed] at hphase
      simp [hrun, phase] at hphase
    · have hfences : fences runId none l lease = false := by
        simp [fences, ← htarget, hrun]
      have hkeep : fenceSource runId none lease.source source = source := by
        simp [fenceSource, hrun]
      rw [hkeep, fenceLease_active]
      exact hheld.imp (fun hactive => ⟨hactive, hfences⟩) id

theorem due_settle (ha : Accounted d st) {l l' : Uuid} {lease : ExecutionLease}
    {source : OutboxSource} {f : OutboxSource → OutboxSource}
    {g : ExecutionLease → ExecutionLease} (hlease : st.leases.get? l = some lease)
    (hsource : st.outbox.get? lease.source = some source)
    (hattempt : source.attempts = lease.attempt) (hne : l' ≠ l) (hdue : Due st l')
    (houtbox : st'.outbox = st.outbox.modify lease.source f)
    (hleases : st'.leases = st.leases.modify l g) : Due st' l' := by
  obtain ⟨lease', source', hlease', hsource', htarget', hattempt', hheld'⟩ := hdue
  have hother : lease'.source ≠ lease.source := by
    intro hs
    rw [hs, hsource] at hsource'
    obtain rfl := Option.some.inj hsource'
    exact hne (due_unique ha hlease hlease' hs hattempt hattempt')
  refine ⟨lease', source', ?_, ?_, htarget', hattempt', hheld'⟩
  · rw [hleases, Table.get?_modify_ne _ _ hne]
    exact hlease'
  · rw [houtbox, Table.get?_modify_ne _ _ hother]
    exact hsource'

theorem settledExpired_move (ha : Accounted d st) {l : Uuid} {lease row : ExecutionLease}
    {source : OutboxSource} (hrow : st.leases.get? l = some row) (hsame : SameLease lease row)
    (hsource : st.outbox.get? row.source = some source)
    (hattempt : source.attempts = row.attempt)
    (hheld : row.status = .active ∨ source.status ≠ .claimed) (now : Time) (next : Option Time) :
    Move d st (settledExpired now (expiryRetry d now st lease) next st l lease) := by
  refine .settle l row (expiredSource (expiryRetry d now st lease) next now
    (expiryFailureCode now lease)) (fun _ => expiredLease now lease) .expired hrow
    (onlyHolder_of_due ha hrow hsource hheld) ?_ ?_ ?_ (by decide) ?_ ?_ ?_ ?_
  · intro source' hsource'
    rw [hsource] at hsource'
    obtain rfl := Option.some.inj hsource'
    refine ⟨rfl, rfl, ?_, fun hpending => ?_⟩
    · cases hretry : expiryRetry d now st lease <;> simp [expiredSource]
    · cases hretry : expiryRetry d now st lease with
      | false => simp [expiredSource, hretry] at hpending
      | true =>
        rw [hattempt, hsame.attempt]
        exact (executionRetryAllowed_iff.1 hretry).2.2.2.2
  · exact ⟨hsame.workerId.symm, hsame.source.symm, hsame.target.symm, hsame.attempt.symm,
      hsame.deadlineAt.symm⟩
  · by_cases hdeadline : lease.deadlineAt ≤ now <;> simp [expiredLease, hdeadline]
  · cases htarget : lease.target <;>
      simp only [settledExpired, expiredTarget, htarget] <;>
      first
        | exact keepsRuns_refl st
        | exact keepsRuns_setRun st _ _
  · rw [hsame.source]
    cases htarget : lease.target <;> simp only [settledExpired, expiredTarget, htarget] <;> rfl
  · cases htarget : lease.target <;> simp only [settledExpired, expiredTarget, htarget] <;> rfl
  · cases htarget : lease.target <;> simp only [settledExpired, expiredTarget, htarget] <;> rfl

theorem settledExpired_tables (now : Time) (retry : Bool) (next : Option Time) (base : State)
    (l : Uuid) (lease : ExecutionLease) :
    (settledExpired now retry next base l lease).outbox = base.outbox.modify lease.source
        (expiredSource retry next now (expiryFailureCode now lease)) ∧
      (settledExpired now retry next base l lease).leases =
        base.leases.modify l (fun _ => expiredLease now lease) := by
  cases htarget : lease.target <;> simp only [settledExpired, expiredTarget, htarget] <;>
    exact ⟨rfl, rfl⟩

theorem convergeExpired_moves (d : Deployment) (st : State) (now : Time) (target : Target) :
    Moves d st (convergeExpired st now target).1 := by
  rcases convergeExpired_cases st now target with ⟨hbase, -, -⟩ | ⟨r, -, -, hconverge⟩
  · rw [hbase]
  · rw [hconverge]
    exact converge_moves d st r now

theorem due_converge {l : Uuid} (hdue : Due st l) (r : Uuid) (now : Time) :
    Due (convergeCancelledRun st r now).1 l := by
  have hfence := due_fence hdue r now
  rcases convergeCancelledRun_cases st r now with ⟨h, -⟩ | ⟨h, -⟩ | ⟨h, -⟩ <;> rw [h] <;>
    exact hfence

theorem due_convergeExpired {l : Uuid} (hdue : Due st l) (now : Time) (target : Target) :
    Due (convergeExpired st now target).1 l := by
  rcases convergeExpired_cases st now target with ⟨hbase, -, -⟩ | ⟨r, -, -, hconverge⟩
  · rw [hbase]
    exact hdue
  · rw [hconverge]
    exact due_converge hdue r now

theorem move_lease (hm : Move d st st') {l : Uuid} {lease : ExecutionLease}
    (hlease : st.leases.get? l = some lease) :
    ∃ row, st'.leases.get? l = some row ∧ SameLease lease row := by
  cases hm with
  | frame _ _ hleases _ => exact ⟨lease, hleases ▸ hlease, .refl lease⟩
  | renew f hsame _ _ hleases _ =>
    exact ⟨f l lease, by rw [hleases, hlease]; rfl, (hsame l lease hlease).1⟩
  | issue _ _ _ _ _ _ _ _ hleases _ => exact ⟨lease, hleases ▸ hlease, .refl lease⟩
  | submit _ _ _ _ _ _ _ _ hleases _ => exact ⟨lease, hleases ▸ hlease, .refl lease⟩
  | withdraw _ _ _ _ _ _ _ _ _ _ hleases _ => exact ⟨lease, hleases ▸ hlease, .refl lease⟩
  | take _ _ _ id _ _ _ _ _ _ _ _ _ _ _ _ _ hleases _ =>
    exact ⟨lease, Table.get?_insert_old hleases hlease, .refl lease⟩
  | fence runId now preserveLease preserveSource _ _ _ hleases _ =>
    refine ⟨fenceLease runId now preserveLease l lease, ?_, fenceLease_same ..⟩
    simp only [hleases, fenceCancelledRunLeases, Table.get?_mapRows, hlease, Option.map_some]
  | settle id row _ g _ hrow _ _ hsame _ _ _ _ hleases _ =>
    by_cases hl : l = id
    · subst hl
      rw [hrow] at hlease
      obtain rfl := Option.some.inj hlease
      exact ⟨g row, by rw [hleases, Table.get?_modify_self, hrow]; rfl, hsame⟩
    · exact ⟨lease, by rw [hleases, Table.get?_modify_ne _ _ hl]; exact hlease, .refl lease⟩

theorem moves_lease (hm : Moves d st st') {l : Uuid} {lease : ExecutionLease}
    (hlease : st.leases.get? l = some lease) :
    ∃ row, st'.leases.get? l = some row ∧ SameLease lease row := by
  induction hm with
  | refl => exact ⟨lease, hlease, .refl lease⟩
  | tail _ hstep ih =>
    obtain ⟨row, hrow, hsame⟩ := ih
    obtain ⟨row', hrow', hsame'⟩ := move_lease hstep hrow
    exact ⟨row', hrow', hsame.trans hsame'⟩

/-- One expired lease: the leases still to be reaped stay due. -/
theorem reapLease_moves {now : Time} {l : Uuid} (ha : Accounted d st) (hdue : Due st l)
    (h : reapLease d now st l = .ok st') :
    Moves d st st' ∧ ∀ l', l' ≠ l → Due st l' → Due st' l' := by
  obtain ⟨lease, -, hlease, -, -, -, -⟩ := id hdue
  have hconverge := convergeExpired_moves d st now lease.target
  rcases reapLease_cases hlease h with ⟨-, rfl⟩ | ⟨-, next, rfl⟩
  · exact ⟨hconverge, fun l' _ hdue' => due_convergeExpired hdue' now lease.target⟩
  · have ha' := moves_accounted hconverge ha
    obtain ⟨row, source, hrow, hsource, -, hattempt, hheld⟩ :=
      due_convergeExpired hdue now lease.target
    obtain ⟨row', hrow', hsame⟩ := moves_lease hconverge hlease
    rw [hrow] at hrow'
    obtain rfl := Option.some.inj hrow'
    refine ⟨hconverge.tail (settledExpired_move ha' hrow hsame hsource hattempt hheld now next),
      fun l' hne hdue' => ?_⟩
    have htables := settledExpired_tables now (expiryRetry d now
      (convergeExpired st now lease.target).1 lease) next (convergeExpired st now lease.target).1
      l lease
    rw [← hsame.source] at htables
    exact due_settle ha' hrow hsource hattempt hne (due_convergeExpired hdue' now lease.target)
      htables.1 htables.2

theorem reapLoop_moves {now : Time} (ha : Accounted d st) (records : List Uuid)
    (hn : records.Nodup) (hdue : ∀ l ∈ records, Due st l)
    (h : records.foldlM (reapLease d now) st = .ok st') : Moves d st st' := by
  refine (foldlM_rule (fun mid rest => Moves d st mid ∧ rest.Nodup ∧ ∀ l ∈ rest, Due mid l) ?_
    records st st' ⟨.refl, hn, hdue⟩ h).1
  rintro mid mid' l rest ⟨hmoves, hnodup, hrest⟩ hreap
  obtain ⟨hl, hnodup⟩ := List.nodup_cons.1 hnodup
  obtain ⟨hmove, hkeep⟩ := reapLease_moves (moves_accounted hmoves ha)
    (hrest l List.mem_cons_self) hreap
  refine ⟨hmoves.trans hmove, hnodup, fun l' hl' => ?_⟩
  exact hkeep l' (fun he => hl (he ▸ hl')) (hrest l' (List.mem_cons_of_mem l hl'))

theorem expired_due (ha : Accounted d st) {now : Time} {batchSize : ℕ} {l : Uuid}
    (h : l ∈ expiredLeases st now batchSize) : Due st l := by
  obtain ⟨lease, hlease, hexpired⟩ := mem_expiredLeases h
  simp only [leaseExpired, Bool.and_eq_true, decide_eq_true_eq] at hexpired
  exact due_of_active ha hlease hexpired.1

theorem reapOverdue_moves {now : Time} {batchSize n : ℕ}
    (h : reapOverdueCancellations st now batchSize = .ok (st', n)) : Moves d st st' :=
  reapOverdueCancellations_rule (P := fun mid => Moves d st mid) h .refl
    (fun mid r hmid => hmid.trans (converge_moves d mid r now))

theorem reapExpired_moves (ha : Accounted d st) {now : Time} {batchSize n : ℕ} {flag : Bool}
    (h : reapExpiredLeases d st now batchSize flag = .ok (st', n)) : Moves d st st' := by
  obtain ⟨mid, hloop, hrest⟩ := reapExpiredLeases_ok h
  have hmid := reapLoop_moves ha _ (expiredLeases_nodup st now batchSize)
    (fun l hl => expired_due ha hl) hloop
  rcases hrest with rfl | ⟨m, hover⟩
  · exact hmid
  · exact hmid.trans (reapOverdue_moves hover)

theorem loseWorker_moves {now : Time} {workerId : Uuid} (h : loseWorker now st workerId = .ok st') :
    Moves d st st' := by
  simp only [loseWorker, bind_ok, pure_ok] at h
  obtain ⟨-, -, rfl⟩ := h
  refine .single (.renew (fun _ lease => loseLease now workerId lease) ?_ (keepsRuns_refl st) rfl
    (fun l => Table.get?_mapRows ..) rfl)
  intro l lease _
  unfold loseLease
  split_ifs
  · exact ⟨⟨rfl, rfl, rfl, rfl, rfl⟩, rfl, fun hle => (min_le_left _ _).trans hle⟩
  · exact ⟨.refl lease, rfl, id⟩

theorem detectLostWorkers_moves {now : Time} {batchSize : ℕ}
    (h : detectLostWorkers d st now batchSize = .ok st') : Moves d st st' := by
  simp only [detectLostWorkers, bind_ok] at h
  obtain ⟨-, -, hloop⟩ := h
  exact foldlM_rule (fun mid _ => Moves d st mid)
    (fun mid mid' w rest hmid hlose => hmid.trans (loseWorker_moves hlose)) _ st st' .refl hloop

theorem claimSource_moves {ticket : ClaimTicket} {ref : SourceRef} {source : OutboxSource}
    {result : Option ExecutionLease} (hsource : st.outbox.get? ref = some source)
    (hpending : source.status = .pending)
    (h : claimSource d st ticket ref source = .ok (st', result)) : Moves d st st' := by
  rcases claimSource_ok h with ⟨r, run, -, -, -, rfl⟩ | ⟨lease, -, hdispatch⟩
  · exact .single (.withdraw ref source (refusedSource ticket.now) hsource hpending rfl rfl
      (.inr rfl) (keepsRuns_setRun _ _ _) rfl rfl rfl)
  · obtain ⟨expires, deadline, leases, rfl, hle, hinsert, hstart⟩ := dispatchSource_ok hdispatch
    have htake : ∀ last : State, KeepsRuns st last →
        last.outbox = st.outbox.modify ref (claimedSource ticket.now) →
        last.leases = leases → last.grants = st.grants → Move d st last := by
      intro last hruns houtbox hleases hgrants
      exact .take ref source (claimedSource ticket.now) ticket.leaseId _ hsource hpending rfl rfl
        rfl rfl rfl rfl rfl hle hruns houtbox (hleases ▸ hinsert) hgrants
    rcases startTarget_ok hstart with ⟨b, -, rfl⟩ | ⟨r, run, -, -, -, rfl⟩ | ⟨r, run, -, -, -, rfl⟩
    · exact .single (htake _ (keepsRuns_refl st) rfl rfl rfl)
    · exact .single (htake _ (keepsRuns_setRun st r _) rfl rfl rfl)
    · exact .single (htake _ (keepsRuns_refl st) rfl rfl rfl)

theorem claimFirst_moves {ticket : ClaimTicket} {kinds : List WorkKind}
    {result : Option ExecutionLease}
    (h : claimFirst d st ticket kinds = .ok (st', result)) : Moves d st st' := by
  rcases claimFirst_ok h with ⟨rfl, -⟩ | ⟨kind, ref, source, -, hselect, hclaim⟩
  · exact .refl
  · obtain ⟨hsource, hselectable⟩ := mem_of_selectSource hselect
    exact claimSource_moves hsource (selectable_iff.1 hselectable).1 hclaim

/-- A claim reaps first; what it then claims, it claims from the reaped tables. -/
theorem claimWork_ok {ticket : ClaimTicket} {kinds : List WorkKind}
    {result : Option ExecutionLease} (h : claimWork d st ticket kinds = .ok (st', result)) :
    ∃ mid n, reapExpiredLeases d st ticket.now 100 true = .ok (mid, n) ∧
      claimFirst d mid ticket kinds = .ok (st', result) := by
  simp only [claimWork, bind_ok] at h
  obtain ⟨⟨mid, n⟩, hreap, -, -, hclaim⟩ := h
  exact ⟨mid, n, hreap, hclaim⟩

theorem claimRequest_ok {credential : WorkerCredential} {kinds : List WorkKind} {leaseId : Uuid}
    {digest : String} {now : Time} {result : Option ExecutionLease}
    (h : claimRequest d st credential kinds leaseId digest now = .ok (st', result)) :
    ∃ directory, claimWork d { st with directory := directory }
      ⟨credential.workerId, leaseId, digest, now⟩ kinds = .ok (st', result) := by
  simp only [claimRequest, bind_ok] at h
  obtain ⟨⟨mid, worker⟩, hresolve, hclaim⟩ := h
  obtain ⟨directory, rfl⟩ := resolveWorkerContext_ok hresolve
  exact ⟨directory, hclaim⟩

theorem directory_moves (d : Deployment) (st : State) (directory : Directory) :
    Moves d st { st with directory := directory } :=
  moves_frame (keepsRuns_refl st) rfl rfl rfl

theorem claimRequest_moves (ha : Accounted d st) {credential : WorkerCredential}
    {kinds : List WorkKind} {leaseId : Uuid} {digest : String} {now : Time}
    {result : Option ExecutionLease}
    (h : claimRequest d st credential kinds leaseId digest now = .ok (st', result)) :
    Moves d st st' := by
  obtain ⟨directory, hclaim⟩ := claimRequest_ok h
  obtain ⟨mid, n, hreap, hfirst⟩ := claimWork_ok hclaim
  have hdirectory := directory_moves d st directory
  have hmid := reapExpired_moves (moves_accounted hdirectory ha) hreap
  exact (hdirectory.trans hmid).trans (claimFirst_moves hfirst)

/-- A request under a lease runs with the lease `ACTIVE`, and never on a cancelled start. -/
theorem underLease_ok {α : Type} {call : LeaseCall}
    {body : State → WorkerIdentity → ExecutionLease → Except Failure (State × α)} {result : α}
    (h : underLease st call body = .ok (st', result)) :
    ∃ directory worker lease, st.leases.get? call.leaseId = some lease ∧ lease.status = .active ∧
      (∀ r, lease.target = .runStart r → cancelRequested st r = false) ∧
      body { st with directory := directory } worker lease = .ok (st', result) := by
  simp only [underLease, bind_ok] at h
  obtain ⟨⟨mid, worker⟩, hresolve, lease, haccess, hbody⟩ := h
  obtain ⟨directory, rfl⟩ := resolveWorkerContext_ok hresolve
  obtain ⟨hlease, hactive, hcancel⟩ := requireLeaseAccess_ok haccess
  exact ⟨directory, worker, lease, hlease, hactive, hcancel, hbody⟩

theorem withoutResult_ok {x : Except Failure State} {u : Unit}
    (h : withoutResult x = .ok (st', u)) : x = .ok st' := by
  simp only [withoutResult, map_ok, Prod.mk.injEq] at h
  obtain ⟨mid, hx, rfl, -⟩ := h
  exact hx

theorem setLease_moves {l : Uuid} {lease : ExecutionLease} {f : ExecutionLease → ExecutionLease}
    (hlease : st.leases.get? l = some lease) (hsame : SameLease lease (f lease))
    (hstatus : (f lease).status = lease.status)
    (hexpires : lease.expiresAt ≤ lease.deadlineAt → (f lease).expiresAt ≤ lease.deadlineAt) :
    Moves d st (st.setLease l f) := by
  refine .single (.renew (fun l' row => if l' = l then f row else row) ?_ (keepsRuns_refl st) rfl
    (fun l' => Table.get?_mapRows ..) rfl)
  intro l' row hrow
  split_ifs with hl
  · subst hl
    rw [hlease] at hrow
    obtain rfl := Option.some.inj hrow
    exact ⟨hsame, hstatus, hexpires⟩
  · exact ⟨.refl row, rfl, id⟩

theorem renewLease_moves {l : Uuid} {lease : ExecutionLease} {extendSeconds : ℕ} {now : Time}
    (hlease : st.leases.get? l = some lease)
    (h : renewLease d st l lease extendSeconds now = .ok st') : Moves d st st' := by
  obtain ⟨extended, hle, rfl⟩ := renewLease_ok h
  exact setLease_moves hlease ⟨rfl, rfl, rfl, rfl, rfl⟩ rfl (fun _ => hle)

theorem updateLeaseStatus_moves {l : Uuid} {lease : ExecutionLease} {report : StatusReport}
    {now : Time} (hlease : st.leases.get? l = some lease)
    (h : updateLeaseStatus st l lease report now = .ok st') : Moves d st st' := by
  simp only [updateLeaseStatus, bind_ok, pure_ok] at h
  obtain ⟨mid, htarget, rfl⟩ := h
  have hframe : Moves d st mid ∧ mid.leases = st.leases := by
    rcases updateTargetStatus_ok htarget with
      ⟨b, f, -, rfl⟩ | ⟨r, run, status, -, -, -, -, rfl⟩ | ⟨r, run, -, -, rfl⟩
    · exact ⟨moves_frame (keepsRuns_refl st) rfl rfl rfl, rfl⟩
    · exact ⟨moves_frame (keepsRuns_setRun st r _) rfl rfl rfl, rfl⟩
    · exact ⟨moves_frame (keepsRuns_setRun st r _) rfl rfl rfl, rfl⟩
  refine hframe.1.trans (setLease_moves (hframe.2 ▸ hlease) ⟨rfl, rfl, rfl, rfl, rfl⟩ rfl id)

theorem ended_move (ha : Accounted d st) {l : Uuid} {lease : ExecutionLease}
    {f : OutboxSource → OutboxSource} {g : ExecutionLease → ExecutionLease}
    (hlease : st.leases.get? l = some lease) (hactive : lease.status = .active)
    (hf : ∀ source : OutboxSource, (f source).target = source.target ∧
      (f source).attempts = source.attempts ∧ (f source).status ≠ .claimed)
    (hretry : (∃ source, (f source).status = .pending) →
      lease.attempt < d.settings.workerMaxAttempts)
    (hsame : SameLease lease (g lease)) (hended : (g lease).status ≠ .active)
    (hruns : KeepsRuns st st') (houtbox : st'.outbox = st.outbox.modify lease.source f)
    (hleases : st'.leases = st.leases.modify l g)
    (hgrants : st'.grants = (st.closeGrants l .revoked).grants) : Move d st st' := by
  obtain ⟨row, source, hrow, hsource, -, hattempt, -⟩ := due_of_active ha hlease hactive
  rw [hlease] at hrow
  obtain rfl := Option.some.inj hrow
  refine .settle l lease f g .revoked hlease (onlyHolder_of_due ha hlease hsource (.inl hactive))
    ?_ hsame hended (by decide) hruns houtbox hleases hgrants
  intro source' hsource'
  rw [hsource] at hsource'
  obtain rfl := Option.some.inj hsource'
  refine ⟨(hf source).1, (hf source).2.1, (hf source).2.2, fun hpending => ?_⟩
  rw [hattempt]
  exact hretry ⟨source, hpending⟩

theorem closeLease_move (ha : Accounted d st) (mid : State) {l : Uuid} {lease : ExecutionLease}
    (hlease : st.leases.get? l = some lease) (hactive : lease.status = .active)
    (hruns : KeepsRuns st mid) (houtbox : mid.outbox = st.outbox)
    (hleases : mid.leases = st.leases) (hgrants : mid.grants = st.grants)
    (delivered : Bool) (code summary : Option String) (now : Time) :
    Move d st ((closeLease mid l lease delivered code summary now).closeGrants l .revoked) := by
  refine ended_move ha (f := completedSource delivered code now)
    (g := completedLease delivered code summary now) hlease hactive ?_ ?_
    ⟨rfl, rfl, rfl, rfl, rfl⟩ ?_ hruns ?_ ?_ ?_
  · intro source
    cases delivered <;> exact ⟨rfl, rfl, by simp [completedSource]⟩
  · rintro ⟨source, hpending⟩
    cases delivered <;> simp [completedSource] at hpending
  · cases delivered <;> simp [completedLease]
  · simp only [closeLease, State.closeGrants, State.setSource, State.setLease, houtbox]
  · simp only [closeLease, State.closeGrants, State.setSource, State.setLease, hleases]
  · simp only [closeLease, State.closeGrants, State.setSource, State.setLease, hgrants]

theorem retryLease_move (ha : Accounted d st) {l : Uuid} {lease : ExecutionLease}
    (hlease : st.leases.get? l = some lease) (hactive : lease.status = .active)
    (hretry : lease.attempt < d.settings.workerMaxAttempts) (artifacts : Table Uuid ExecutionArtifact)
    (payload : CompleteLeaseRequest) (available now : Time) :
    Move d st ((retryLease { st with artifacts := artifacts } l lease payload available
      now).closeGrants l .revoked) := by
  refine ended_move ha (g := completedLease false
    (some (payload.errorCode.getD "WORKER_RETRYABLE_FAILURE")) payload.errorSummary now)
    (f := retriedSource available (payload.errorCode.getD "WORKER_RETRYABLE_FAILURE"))
    hlease hactive (fun source => ⟨rfl, rfl, by simp [retriedSource]⟩) (fun _ => hretry)
    ⟨rfl, rfl, rfl, rfl, rfl⟩ (by simp [completedLease]) ?_ ?_ ?_ ?_
  · cases htarget : lease.target <;> simp only [retryLease, resetRetryTarget, htarget] <;>
      first
        | exact keepsRuns_refl st
        | exact keepsRuns_setRun st _ _
  · cases htarget : lease.target <;> simp only [retryLease, resetRetryTarget, htarget] <;> rfl
  · cases htarget : lease.target <;> simp only [retryLease, resetRetryTarget, htarget] <;> rfl
  · cases htarget : lease.target <;> simp only [retryLease, resetRetryTarget, htarget] <;> rfl

/-- The fence of a confirmed cancellation spares the confirming lease and its command. -/
theorem confirmFence_moves (ha : Accounted d st) {l : Uuid} {lease : ExecutionLease}
    (hlease : st.leases.get? l = some lease) (hactive : lease.status = .active) (r : Uuid)
    (cancel : Bool) (payload : CompleteLeaseRequest) (now : Time) :
    Moves d st (confirmFence st l lease r cancel payload now) ∧
      (confirmFence st l lease r cancel payload now).leases.get? l = some lease := by
  unfold confirmFence
  split_ifs with hconfirmed
  · obtain ⟨source, hsource, -⟩ := source_of_lease ha.wired hlease
    simp only [hsource, Option.map_some]
    refine ⟨.single (.fence r now (some l) (some lease.source) ?_ (keepsRuns_refl st) rfl rfl rfl),
      ?_⟩
    · intro id lease' hlease' hactive'
      simp only [Option.some.injEq]
      constructor
      · rintro rfl
        rw [hlease] at hlease'
        rw [Option.some.inj hlease']
      · intro hs
        exact ha.sound.live_unique (board_lease hlease) (board_lease hlease') hs
          (by simp [holding, hactive]) (by simp [holding, hactive'])
    · simp [fenceCancelledRunLeases, hlease, fenceLease, fences]
  · exact ⟨.refl, hlease⟩

theorem settleLease_moves (ha : Accounted d st) {l : Uuid} {lease : ExecutionLease}
    {payload : CompleteLeaseRequest} {now : Time} (hlease : st.leases.get? l = some lease)
    (hactive : lease.status = .active)
    (h : settleLease d st l lease payload now = .ok st') :
    Moves d st (st'.closeGrants l .revoked) := by
  obtain ⟨artifacts, hcases⟩ := settleLease_ok h
  rcases hcases with ⟨available, hretry, rfl⟩ | ⟨b, build, delivered, -, rfl⟩ |
    ⟨r, run, cancel, -, -, rfl⟩
  · exact .single (retryLease_move ha hlease hactive hretry artifacts payload available now)
  · exact .single (closeLease_move ha (State.setBuild { st with artifacts := artifacts } b
      (fun _ => build)) hlease hactive (fun _ hr => hr) rfl rfl rfl _ _ _ _)
  · have hmid : Moves d st { st with artifacts := artifacts } :=
      moves_frame (keepsRuns_refl st) rfl rfl rfl
    obtain ⟨hfence, hrow⟩ := confirmFence_moves (moves_accounted hmid ha) hlease hactive r cancel
      payload now
    have hmoves := hmid.trans hfence
    exact hmoves.tail (closeLease_move (moves_accounted hmoves ha) _ hrow hactive
      (keepsRuns_setRun _ _ _) rfl rfl rfl _ _ _ _)

/-- Under the access check the late convergence of a cancelled start is never reached. -/
theorem completeLease_ok {l : Uuid} {lease : ExecutionLease} {payload : CompleteLeaseRequest}
    {now : Time} (hcancel : ∀ r, lease.target = .runStart r → cancelRequested st r = false)
    (h : completeLease d st l lease payload now = .ok st') :
    ∃ mid, settleLease d st l lease payload now = .ok mid ∧ st' = mid.closeGrants l .revoked := by
  have hsettle : (do
      let st ← settleLease d st l lease payload now
      pure (st.closeGrants l .revoked) : Except Failure State) = .ok st' := by
    cases htarget : lease.target with
    | build b => simpa only [completeLease, htarget, Bool.false_eq_true, ↓reduceIte] using h
    | runStart r =>
      simpa only [completeLease, htarget, hcancel r htarget, Bool.false_eq_true, ↓reduceIte] using h
    | runCancel r => simpa only [completeLease, htarget, Bool.false_eq_true, ↓reduceIte] using h
  simp only [bind_ok, pure_ok] at hsettle
  obtain ⟨mid, hmid, rfl⟩ := hsettle
  exact ⟨mid, hmid, rfl⟩

theorem issueSecretEnvelope_moves {worker : WorkerIdentity} {l : Uuid} {lease : ExecutionLease}
    {payload : SecretEnvelopeRequest} {grantId id : Uuid} {now : Time}
    (hlease : st.leases.get? l = some lease) (hactive : lease.status = .active)
    (h : issueSecretEnvelope d st worker l lease payload grantId now = .ok (st', id)) :
    Moves d st st' := by
  rcases issueSecretEnvelope_ok h with rfl | ⟨runId, fingerprint, hinsert, hst⟩
  · exact .refl
  · rw [hst]
    exact .single (.issue grantId _ lease hlease hactive (min_le_left _ _) (keepsRuns_refl st) rfl
      rfl hinsert)

theorem insertSource_move {base mid : State} {ref : SourceRef} {source : OutboxSource}
    (h : insertSource base ref source = .ok mid) (hpending : source.status = .pending)
    (hattempts : source.attempts = 0)
    (hrun : ∀ r, source.target.runId? = some r → (st'.runs.get? r).isSome)
    (hruns : KeepsRuns st st') (hbase : base.outbox = st.outbox)
    (houtbox : st'.outbox = mid.outbox) (hleases : st'.leases = st.leases)
    (hgrants : st'.grants = st.grants) : Move d st st' := by
  obtain ⟨hfresh, hinsert, -⟩ := insertSource_ok h
  rw [hbase] at hfresh hinsert
  exact .submit ref source hpending hattempts hfresh hrun hruns (houtbox ▸ hinsert) hleases hgrants

theorem createBuild_moves {caller : Caller} {versionId buildId jobId id : Uuid}
    (h : createBuild d st caller versionId buildId jobId = .ok (st', id)) : Moves d st st' := by
  rcases createBuild_ok h with rfl | ⟨builds, source, mid, idempotency, htarget, hpending,
    hattempts, hinsert, rfl⟩
  · exact .refl
  · obtain ⟨-, -, hmid⟩ := insertSource_ok hinsert
    refine .single (insertSource_move hinsert hpending hattempts ?_ ?_ rfl rfl ?_ ?_)
    · rw [htarget]
      rintro r ⟨⟩
    · rw [hmid]
      exact fun _ hr => hr
    · rw [hmid]
    · rw [hmid]

theorem createRun_moves {caller : Caller} {versionId buildId runId commandId id : Uuid}
    {plan : Except Failure RunPlan}
    (h : createRun d st caller versionId buildId plan runId commandId = .ok (st', id)) :
    Moves d st st' := by
  rcases createRun_ok h with rfl | ⟨version, chosen, mid, idempotency, -, hrun, rfl⟩
  · exact .refl
  · obtain ⟨runs, hruns, hrest⟩ := insertRun_ok hrun
    rcases hrest with ⟨-, rfl⟩ | ⟨-, source, htarget, hpending, hattempts, hinsert⟩
    · exact moves_frame (keepsRuns_insert hruns) rfl rfl rfl
    · obtain ⟨-, -, hmid⟩ := insertSource_ok hinsert
      refine .single (insertSource_move hinsert hpending hattempts ?_ ?_ rfl rfl ?_ ?_)
      · intro r hr
        rw [htarget] at hr
        obtain rfl := Option.some.inj hr
        rw [hmid]
        simp [Table.get?_insert hruns]
      · rw [hmid]
        exact keepsRuns_insert hruns
      · rw [hmid]
      · rw [hmid]

theorem withdrawStart_cases (st : State) (runId : Uuid) :
    withdrawStart st runId = st ∨ ∃ ref source, st.outbox.get? ref = some source ∧
      source.target = .runStart runId ∧ source.status = .pending ∧
      withdrawStart st runId = st.setSource ref withdrawnSource := by
  unfold withdrawStart
  split
  · rename_i ref source hfind
    obtain ⟨hget, htarget⟩ := Table.find?_some hfind
    split_ifs with hpending
    · exact .inr ⟨ref, source, hget, by simpa using htarget, hpending, rfl⟩
    · exact .inl rfl
  · exact .inl rfl

theorem ensureCancelCommand_moves {base mid : State} {runId commandId : Uuid} {run : Run}
    {now : Time} (h : ensureCancelCommand base runId commandId run now = .ok mid)
    (hrun : (base.runs.get? runId).isSome) (hruns : KeepsRuns st base)
    (houtbox : base.outbox = st.outbox) (hleases : base.leases = st.leases)
    (hgrants : base.grants = st.grants) : Moves d st mid := by
  rcases ensureCancelCommand_ok h with rfl | ⟨source, htarget, hpending, hattempts, hinsert⟩
  · exact moves_frame hruns houtbox hleases hgrants
  · obtain ⟨-, -, hmid⟩ := insertSource_ok hinsert
    refine .single (insertSource_move hinsert hpending hattempts ?_ ?_ houtbox rfl ?_ ?_)
    · intro r hr
      rw [htarget] at hr
      obtain rfl := Option.some.inj hr
      rw [hmid]
      exact hrun
    · rw [hmid]
      exact hruns
    · rw [hmid]
      exact hleases
    · rw [hmid]
      exact hgrants

theorem cancelRun_moves {caller : Caller} {runId commandId id : Uuid}
    (h : cancelRun d st caller runId commandId = .ok (st', id)) : Moves d st st' := by
  rcases cancelRun_ok h with rfl | ⟨run, mid, idempotency, hrun, hrequest, rfl⟩
  · exact .refl
  · refine .trans (b := mid) ?_ (moves_frame (fun _ hr => hr) rfl rfl rfl)
    have hsome : (st.runs.get? runId).isSome := by rw [hrun]; rfl
    rcases requestCancellation_ok hrequest with
      ⟨-, rfl⟩ | ⟨-, rfl⟩ | ⟨-, hensure⟩ | ⟨-, hensure⟩
    · exact .refl
    · have hset := keepsRuns_setRun st runId (fun _ => abortedRun d caller.now run)
      rcases withdrawStart_cases (st.setRun runId (fun _ => abortedRun d caller.now run)) runId with
        hst | ⟨ref, source, hsource, -, hpending, hst⟩
      · rw [hst]
        exact moves_frame hset rfl rfl rfl
      · rw [hst]
        exact .single (.withdraw ref source withdrawnSource hsource hpending rfl rfl (.inl rfl) hset rfl rfl rfl)
    · exact ensureCancelCommand_moves hensure (keepsRuns_setRun st runId _ runId hsome)
        (keepsRuns_setRun st runId _) rfl rfl rfl
    · exact ensureCancelCommand_moves hensure hsome (keepsRuns_refl st) rfl rfl rfl

theorem underLease_moves {α : Type} {call : LeaseCall} {result : α}
    {body : State → WorkerIdentity → ExecutionLease → Except Failure (State × α)}
    (h : underLease st call body = .ok (st', result))
    (hbody : ∀ base worker lease, Moves d st base → base.runs = st.runs →
      base.leases.get? call.leaseId = some lease → lease.status = .active →
      (∀ r, lease.target = .runStart r → cancelRequested base r = false) →
      body base worker lease = .ok (st', result) → Moves d base st') : Moves d st st' := by
  obtain ⟨directory, worker, lease, hlease, hactive, hcancel, hrun⟩ := underLease_ok h
  have hdirectory := directory_moves d st directory
  exact hdirectory.trans (hbody _ worker lease hdirectory rfl hlease hactive hcancel hrun)

/-- Whatever a request does, it does by moves. -/
theorem step_moves (ha : Accounted d st) (op : Op) : Moves d st (step d st op) := by
  cases op with
  | createRun caller versionId buildId plan runId commandId =>
    exact commit_cases .refl (fun _ _ h => createRun_moves h)
  | createBuild caller versionId buildId jobId =>
    exact commit_cases .refl (fun _ _ h => createBuild_moves h)
  | cancelRun caller runId commandId =>
    exact commit_cases .refl (fun _ _ h => cancelRun_moves h)
  | claimWork credential kinds leaseId digest now =>
    exact commit_cases .refl (fun _ _ h => claimRequest_moves ha h)
  | renewLease call extendSeconds =>
    exact commit_cases .refl (fun _ _ h => underLease_moves h
      (fun _ _ _ _ _ hlease _ _ hbody => renewLease_moves hlease (withoutResult_ok hbody)))
  | updateLeaseStatus call report =>
    exact commit_cases .refl (fun _ _ h => underLease_moves h
      (fun _ _ _ _ _ hlease _ _ hbody => updateLeaseStatus_moves hlease (withoutResult_ok hbody)))
  | completeLease call payload =>
    refine commit_cases .refl (fun _ _ h => underLease_moves h
      (fun base _ _ hmoves _ hlease hactive hcancel hbody => ?_))
    obtain ⟨mid, hsettle, rfl⟩ := completeLease_ok hcancel (withoutResult_ok hbody)
    exact settleLease_moves (moves_accounted hmoves ha) hlease hactive hsettle
  | issueSecretEnvelope call payload grantId =>
    exact commit_cases .refl (fun _ _ h => underLease_moves h
      (fun _ _ _ _ _ hlease hactive _ hbody => issueSecretEnvelope_moves hlease hactive hbody))
  | reapExpiredLeases now batchSize reapCancellations =>
    exact commit_cases .refl (fun _ _ h => reapExpired_moves ha h)
  | reapOverdueCancellations now batchSize =>
    exact commit_cases .refl (fun _ _ h => reapOverdue_moves h)
  | detectLostWorkers now batchSize =>
    exact commit_cases .refl (fun _ _ h => detectLostWorkers_moves (withoutResult_ok h))
  | directoryChange directory => exact directory_moves d st directory

theorem initial_accounted (d : Deployment) (directory : Directory) :
    Accounted d (initial directory) := by
  refine ⟨⟨?_, ?_, ?_⟩, ⟨?_, ?_, ?_, ?_, ?_, ?_⟩⟩ <;>
    simp [initial, targetOf, linkOf, board]

theorem reachable_accounted (h : Reachable d st) : Accounted d st :=
  reachable_invariant (initial_accounted d) (fun _ op ha => moves_accounted (step_moves ha op) ha) h

end RoozDataCloud.ExecutionSteps
