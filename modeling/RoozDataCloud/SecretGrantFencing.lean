import RoozDataCloud.ExecutionSteps

set_option autoImplicit false

/-!
# Secret grants end with their lease
-/
namespace RoozDataCloud.SecretGrantFencing
open KeyedTable ExecutionModels FallibleSteps CancellationConvergence ExecutionSystem
open ExecutionMoves LeaseAccounting ExecutionSteps

/-- The lease that an `ISSUED` grant belongs to is `ACTIVE`, and outlives the grant. -/
def IssuedUnderLease (st : State) : Prop :=
  ∀ g grant, st.grants.get? g = some grant → grant.status = .issued →
    ∃ lease, st.leases.get? grant.leaseId = some lease ∧ lease.status = .active ∧
      grant.expiresAt ≤ lease.deadlineAt

structure Fenced (st : State) : Prop where
  clamped : ∀ l lease, st.leases.get? l = some lease → lease.status = .active →
    lease.expiresAt ≤ lease.deadlineAt
  issued : IssuedUnderLease st

variable {d : Deployment} {st st' : State}

theorem closeGrants_issued {l : Uuid} {status : GrantStatus} (hstatus : status ≠ .issued)
    {g : Uuid} {grant : SecretInjectionGrant}
    (hget : (st.closeGrants l status).grants.get? g = some grant) (hissued : grant.status = .issued) :
    st.grants.get? g = some grant ∧ grant.leaseId ≠ l := by
  rw [State.closeGrants, Table.get?_mapRows] at hget
  obtain ⟨grant', hget', heq⟩ := Option.map_eq_some_iff.1 hget
  split_ifs at heq with hclosed
  · subst heq
    exact absurd hissued hstatus
  · subst heq
    exact ⟨hget', fun hl => hclosed ⟨hl, hissued⟩⟩

theorem fence_issued {runId : Uuid} {now : Time} {preserveLease : Option Uuid}
    {preserveSource : Option SourceRef} {g : Uuid} {grant : SecretInjectionGrant}
    (hget : (fenceCancelledRunLeases st runId now preserveLease preserveSource).grants.get? g =
      some grant) (hissued : grant.status = .issued) :
    st.grants.get? g = some grant ∧ ∀ lease, st.leases.get? grant.leaseId = some lease →
      fences runId preserveLease grant.leaseId lease = false := by
  rw [fenceCancelledRunLeases, Table.get?_mapRows] at hget
  obtain ⟨grant', hget', heq⟩ := Option.map_eq_some_iff.1 hget
  split_ifs at heq with hfenced
  · subst heq
    cases hissued
  · subst heq
    refine ⟨hget', fun lease hlease => ?_⟩
    cases hf : fences runId preserveLease grant'.leaseId lease with
    | false => rfl
    | true => exact absurd ⟨hissued, by rw [hlease]; exact hf⟩ hfenced

theorem fence_active {runId : Uuid} {now : Time} {preserveLease : Option Uuid}
    {preserveSource : Option SourceRef} {l : Uuid} {lease : ExecutionLease}
    (hget : (fenceCancelledRunLeases st runId now preserveLease preserveSource).leases.get? l =
      some lease) (hactive : lease.status = .active) : st.leases.get? l = some lease := by
  simp only [fenceCancelledRunLeases, Table.get?_mapRows] at hget
  obtain ⟨row, hrow, rfl⟩ := Option.map_eq_some_iff.1 hget
  have hfences := ((fenceLease_active runId now preserveLease l row).1 hactive).2
  have hkeep : fenceLease runId now preserveLease l row = row := by
    simp [fenceLease, hfences]
  rw [hkeep]
  exact hrow

theorem move_clamped (hm : Move d st st') (hf : Fenced st) : ∀ l lease,
    st'.leases.get? l = some lease → lease.status = .active →
    lease.expiresAt ≤ lease.deadlineAt := by
  intro l lease hget hactive
  cases hm with
  | frame _ _ hleases _ => exact hf.clamped l lease (hleases ▸ hget) hactive
  | renew f hsame _ _ hleases _ =>
    rw [hleases] at hget
    obtain ⟨row, hrow, rfl⟩ := Option.map_eq_some_iff.1 hget
    obtain ⟨hcols, hstatus, hexpires⟩ := hsame l row hrow
    rw [hcols.deadlineAt]
    exact hexpires (hf.clamped l row hrow (hstatus ▸ hactive))
  | issue _ _ _ _ _ _ _ _ hleases _ => exact hf.clamped l lease (hleases ▸ hget) hactive
  | submit _ _ _ _ _ _ _ _ hleases _ => exact hf.clamped l lease (hleases ▸ hget) hactive
  | withdraw _ _ _ _ _ _ _ _ _ _ hleases _ => exact hf.clamped l lease (hleases ▸ hget) hactive
  | take _ _ _ id taken _ _ _ _ _ _ _ _ _ hexpires _ _ hleases _ =>
    rw [Table.get?_insert hleases] at hget
    split_ifs at hget
    · obtain rfl := Option.some.inj hget
      exact hexpires
    · exact hf.clamped l lease hget hactive
  | fence runId now preserveLease preserveSource _ _ _ hleases _ =>
    rw [hleases] at hget
    exact hf.clamped l lease (fence_active hget hactive) hactive
  | settle id row _ g _ hrow _ _ _ hended _ _ _ hleases _ =>
    rw [hleases, Table.get?_modify] at hget
    split_ifs at hget with hl
    · subst hl
      rw [hrow] at hget
      obtain rfl := Option.some.inj hget
      exact absurd hactive hended
    · exact hf.clamped l lease hget hactive

theorem move_issued (hm : Move d st st') (hf : Fenced st) : IssuedUnderLease st' := by
  intro g grant hget hissued
  cases hm with
  | frame _ _ hleases hgrants =>
    rw [hgrants] at hget
    rw [hleases]
    exact hf.issued g grant hget hissued
  | renew f hsame _ _ hleases hgrants =>
    rw [hgrants] at hget
    obtain ⟨lease, hlease, hactive, hle⟩ := hf.issued g grant hget hissued
    obtain ⟨hcols, hstatus, -⟩ := hsame _ lease hlease
    refine ⟨f grant.leaseId lease, by rw [hleases, hlease]; rfl, hstatus.trans hactive, ?_⟩
    rw [hcols.deadlineAt]
    exact hle
  | issue id issued lease hlease hactive hexpires _ _ hleases hgrants =>
    rw [Table.get?_insert hgrants] at hget
    rw [hleases]
    split_ifs at hget
    · obtain rfl := Option.some.inj hget
      exact ⟨lease, hlease, hactive, hexpires.trans (hf.clamped _ lease hlease hactive)⟩
    · exact hf.issued g grant hget hissued
  | submit _ _ _ _ _ _ _ _ hleases hgrants =>
    rw [hgrants] at hget
    rw [hleases]
    exact hf.issued g grant hget hissued
  | withdraw _ _ _ _ _ _ _ _ _ _ hleases hgrants =>
    rw [hgrants] at hget
    rw [hleases]
    exact hf.issued g grant hget hissued
  | take _ _ _ id _ _ _ _ _ _ _ _ _ _ _ _ _ hleases hgrants =>
    rw [hgrants] at hget
    obtain ⟨lease, hlease, hactive, hle⟩ := hf.issued g grant hget hissued
    exact ⟨lease, Table.get?_insert_old hleases hlease, hactive, hle⟩
  | fence runId now preserveLease preserveSource _ _ _ hleases hgrants =>
    rw [hgrants] at hget
    obtain ⟨hold, hspared⟩ := fence_issued hget hissued
    obtain ⟨lease, hlease, hactive, hle⟩ := hf.issued g grant hold hissued
    refine ⟨lease, ?_, hactive, hle⟩
    simp [hleases, fenceCancelledRunLeases, hlease, fenceLease, hspared lease hlease]
  | settle id row _ _ status hrow _ _ _ _ hstatus _ _ hleases hgrants =>
    rw [hgrants] at hget
    obtain ⟨hold, hne⟩ := closeGrants_issued hstatus hget hissued
    obtain ⟨lease, hlease, hactive, hle⟩ := hf.issued g grant hold hissued
    exact ⟨lease, by rw [hleases, Table.get?_modify_ne _ _ hne]; exact hlease, hactive, hle⟩

theorem moves_fenced (hm : Moves d st st') (hf : Fenced st) : Fenced st' := by
  induction hm with
  | refl => exact hf
  | tail _ hstep ih => exact ⟨move_clamped hstep ih, move_issued hstep ih⟩

theorem initial_fenced (directory : Directory) : Fenced (initial directory) := by
  constructor <;> simp [initial, IssuedUnderLease]

/-- In every run, an `ISSUED` grant belongs to an `ACTIVE` lease and expires no later than that
lease's deadline. -/
theorem issued_grants_fenced (d : Deployment) (directory : Directory) (ops : List Op) :
    IssuedUnderLease (after d (initial directory) ops) := by
  have hboth := reachable_invariant (d := d) (P := fun st => Accounted d st ∧ Fenced st)
    (fun directory => ⟨initial_accounted d directory, initial_fenced directory⟩)
    (fun st op h => ⟨moves_accounted (step_moves h.1 op) h.1, moves_fenced (step_moves h.1 op) h.2⟩)
    ⟨directory, ops, rfl⟩
  exact hboth.2.issued

end RoozDataCloud.SecretGrantFencing
