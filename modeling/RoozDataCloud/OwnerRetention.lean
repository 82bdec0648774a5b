import RoozDataCloud.IdentityTenancy
import RoozDataCloud.ReadCommitted

set_option autoImplicit false

/-!
# Concurrent role changes and the last owner

A role change reads its membership without a lock, counts the owners in a second
statement if it is about to demote one, and writes in a third.
-/
namespace RoozDataCloud.OwnerRetention
open KeyedTable ExecutionModels FallibleSteps Permissions ReadCommitted
open IdentityTenancy hiding step

structure RoleChange where
  membershipId : Uuid
  role : Role
  expectedVersion : ℕ

inductive Txn where
  | ready
  | loaded (membership : OrganizationMembership)
  | checked (membership : OrganizationMembership) (counted : ℕ)
  | written (membership : OrganizationMembership) (counted : ℕ)
  | finished

abbrev Memberships := Table Uuid OrganizationMembership

def flushMembership (loaded : OrganizationMembership) (role : Role)
    (stored : OrganizationMembership) : OrganizationMembership :=
  { stored with
    role := flushColumn loaded.role role stored.role
    version := flushColumn loaded.version (loaded.version + 1) stored.version }

/-- `update_membership_role`, statement by statement. The row is locked from the write on. -/
def next (organizationId : Uuid) (requests : ℕ → RoleChange) (i : ℕ) (s : Memberships) :
    Txn → Action Memberships Txn Uuid
  | .ready =>
    match loadMembership s organizationId (requests i).membershipId with
    | some membership =>
      if membership.version = (requests i).expectedVersion then .run (.loaded membership)
      else .stop .finished
    | none => .stop .finished
  | .loaded membership =>
    if membership.role = .owner ∧ (requests i).role ≠ .owner then
      if ownerCount s organizationId ≤ 1 then .stop .finished
      else .run (.checked membership (ownerCount s organizationId))
    else .run (.checked membership 0)
  | .checked membership counted => .lock (requests i).membershipId (.written membership counted)
  | .written membership _ =>
    .commit (s.modify (requests i).membershipId (flushMembership membership (requests i).role))
      .finished
  | .finished => .stop .finished

/-- A request is about to write another role over that of an owner whom it has not read as one,
or when fewer owners are left than it counted. -/
def outdated (organizationId : Uuid) (requests : ℕ → RoleChange) (i : ℕ) (s : Memberships) :
    Txn → Bool
  | .written membership counted =>
    (s.get? (requests i).membershipId).any (fun stored => activeOwner organizationId stored &&
      (requests i).role ≠ .owner && (requests i).role ≠ membership.role &&
      (membership.role ≠ .owner || decide (ownerCount s organizationId < counted)))
  | _ => false

def Current (organizationId : Uuid) (requests : ℕ → RoleChange) (i : ℕ) (s : Memberships)
    (t : Txn) : Prop :=
  outdated organizationId requests i s t = false

instance decidableCurrent (organizationId : Uuid) (requests : ℕ → RoleChange) (i : ℕ)
    (s : Memberships) (t : Txn) : Decidable (Current organizationId requests i s t) :=
  inferInstanceAs (Decidable (outdated organizationId requests i s t = false))

theorem ownerCount_modify {s : Memberships} {id : Uuid} {stored : OrganizationMembership}
    (f : OrganizationMembership → OrganizationMembership) (organizationId : Uuid)
    (h : s.get? id = some stored) :
    (ownerCount (s.modify id f) organizationId : ℤ) = ownerCount s organizationId -
      (if activeOwner organizationId stored then 1 else 0) +
      (if activeOwner organizationId (f stored) then 1 else 0) := by
  rw [ownerCount, ownerCount, Table.count_eq_sum, Table.count_eq_sum, Table.sum_modify f _ h]

/-- What a transaction remembers of its owner count. -/
def Counted (request : RoleChange) : Txn → Prop
  | .checked membership counted | .written membership counted =>
    membership.role = .owner → request.role ≠ .owner → 1 < counted
  | _ => True

theorem activeOwner_role {organizationId : Uuid} {membership : OrganizationMembership}
    (h : activeOwner organizationId membership = true) : membership.role = .owner := by
  simp only [activeOwner, Bool.and_eq_true, decide_eq_true_eq] at h
  exact h.2

theorem demoted_owner {organizationId : Uuid} {loaded stored : OrganizationMembership} {role : Role}
    (hold : activeOwner organizationId stored = true)
    (hnew : activeOwner organizationId (flushMembership loaded role stored) = false) :
    role ≠ .owner ∧ role ≠ loaded.role := by
  have hrole : flushColumn loaded.role role stored.role ≠ .owner := by
    simp only [activeOwner, Bool.and_eq_true, decide_eq_true_eq] at hold
    simp only [activeOwner, flushMembership, hold.1, decide_true, Bool.true_and,
      decide_eq_false_iff_not] at hnew
    exact hnew
  simp only [flushColumn] at hrole
  split_ifs at hrole with hsame
  · exact absurd (activeOwner_role hold) hrole
  · exact ⟨hrole, hsame⟩

theorem current_write {organizationId : Uuid} {requests : ℕ → RoleChange} {i : ℕ} {s : Memberships}
    {membership : OrganizationMembership} {counted : ℕ} (hgood : 1 ≤ ownerCount s organizationId)
    (hcounted : Counted (requests i) (.written membership counted))
    (hcurrent : Current organizationId requests i s (.written membership counted)) :
    1 ≤ ownerCount (s.modify (requests i).membershipId
      (flushMembership membership (requests i).role)) organizationId := by
  cases hstored : s.get? (requests i).membershipId with
  | none => rwa [Table.modify_absent _ hstored]
  | some stored =>
    have hcount := ownerCount_modify (flushMembership membership (requests i).role) organizationId
      hstored
    cases hold : activeOwner organizationId stored with
    | false =>
      simp only [hold, Bool.false_eq_true, ↓reduceIte] at hcount
      split_ifs at hcount <;> omega
    | true =>
      cases hnew : activeOwner organizationId
          (flushMembership membership (requests i).role stored) with
      | true =>
        simp only [hold, hnew, ↓reduceIte] at hcount
        omega
      | false =>
        obtain ⟨hdemotes, hother⟩ := demoted_owner hold hnew
        simp only [Current, outdated, hstored, Option.any_some, hold, hdemotes, hother, ne_eq,
          not_false_eq_true, decide_true, Bool.true_and, Bool.or_eq_false_iff,
          decide_eq_false_iff_not, not_lt, not_not] at hcurrent
        have hmany := hcounted hcurrent.1 hdemotes
        have hleft := hcurrent.2
        simp only [hold, hnew, Bool.false_eq_true, ↓reduceIte] at hcount
        omega

theorem next_run {organizationId : Uuid} {requests : ℕ → RoleChange} {i : ℕ} {s : Memberships}
    {t t' : Txn} (h : next organizationId requests i s t = .run t') : Counted (requests i) t' := by
  cases t with
  | ready =>
    simp only [next] at h
    split at h
    · split_ifs at h
      obtain rfl := Action.run.inj h
      trivial
    · cases h
  | loaded membership =>
    simp only [next] at h
    split_ifs at h with hdemotes hfinal
    · obtain rfl := Action.run.inj h
      intro _ _
      omega
    · obtain rfl := Action.run.inj h
      intro howner hrole
      exact absurd ⟨howner, hrole⟩ hdemotes
  | checked membership counted => cases h
  | written membership counted => cases h
  | finished => cases h

theorem next_lock {organizationId : Uuid} {requests : ℕ → RoleChange} {i : ℕ} {s : Memberships}
    {t t' : Txn} {l : Uuid} (hcounted : Counted (requests i) t)
    (h : next organizationId requests i s t = .lock l t') : Counted (requests i) t' := by
  cases t with
  | checked membership counted =>
    obtain ⟨-, rfl⟩ := Action.lock.inj h
    exact hcounted
  | ready =>
    simp only [next] at h
    split at h
    · split_ifs at h
    · cases h
  | loaded membership =>
    simp only [next] at h
    split_ifs at h
  | written membership counted => cases h
  | finished => cases h

theorem next_commit {organizationId : Uuid} {requests : ℕ → RoleChange} {i : ℕ}
    {s s' : Memberships} {t t' : Txn} (h : next organizationId requests i s t = .commit s' t') :
    ∃ membership counted, t = .written membership counted ∧ t' = .finished ∧
      s' = s.modify (requests i).membershipId (flushMembership membership (requests i).role) := by
  cases t with
  | written membership counted =>
    obtain ⟨rfl, rfl⟩ := Action.commit.inj h
    exact ⟨membership, counted, rfl, rfl, rfl⟩
  | ready =>
    simp only [next] at h
    split at h
    · split_ifs at h
    · cases h
  | loaded membership =>
    simp only [next] at h
    split_ifs at h
  | checked membership counted => cases h
  | finished => cases h

theorem next_stop {organizationId : Uuid} {requests : ℕ → RoleChange} {i : ℕ} {s : Memberships}
    {t t' : Txn} (h : next organizationId requests i s t = .stop t') : t' = .finished := by
  cases t with
  | ready =>
    simp only [next] at h
    split at h
    · split_ifs at h
      exact (Action.stop.inj h).symm
    · exact (Action.stop.inj h).symm
  | loaded membership =>
    simp only [next] at h
    split_ifs at h
    exact (Action.stop.inj h).symm
  | checked membership counted => cases h
  | written membership counted => cases h
  | finished => exact (Action.stop.inj h).symm

/-- What a request counted does not depend on what is committed later, so no lock is needed to
remember it. -/
def protocol (organizationId : Uuid) (requests : ℕ → RoleChange) :
    Protocol (next organizationId requests) .finished (Current organizationId requests) where
  Good s := 1 ≤ ownerCount s organizationId
  Knows i _ t := Counted (requests i) t
  Owns _ _ := False
  run _ _ _ _ _ _ _ h := ⟨next_run h, fun _ => id⟩
  lock _ _ _ _ _ _ hknows _ h := ⟨next_lock hknows h, fun _ => False.elim⟩
  commit _ _ _ _ _ hgood hknows hcurrent h := by
    obtain ⟨membership, counted, rfl, rfl, rfl⟩ := next_commit h
    exact ⟨current_write hgood hknows hcurrent, trivial, fun _ => id, fun _ _ hu _ => hu⟩
  stop _ _ _ _ _ _ _ h := by
    rw [next_stop h]
    exact ⟨trivial, fun _ => id⟩
  abort _ _ := ⟨trivial, fun _ => id⟩

/-- In every interleaving of role changes whose demotions rest on a current count, an
organization that has an owner keeps one. -/
theorem owner_retained (organizationId : Uuid) (requests : ℕ → RoleChange) (memberships : Memberships)
    (howner : 1 ≤ ownerCount memberships organizationId) (events : List Event)
    (hcurrent : Along (step (next organizationId requests) .finished)
      (Meets (next organizationId requests) (Current organizationId requests))
      (opening memberships .ready) events) :
    1 ≤ ownerCount (exec (step (next organizationId requests) .finished)
      (opening memberships .ready) events).committed organizationId :=
  ((protocol organizationId requests).exec_holds events
    ((protocol organizationId requests).holds_opening (t := Txn.ready) howner (fun _ => trivial)
      (fun _ => id))
    hcurrent).good

/-- Two owners of organization 1. -/
def twoOwners : Memberships :=
  ⟨[(1, ⟨1, 1, .owner, .active, 1⟩), (2, ⟨1, 2, .owner, .active, 1⟩)], by decide⟩

/-- Request `i` makes owner `i + 1` a viewer. -/
def demotions (i : ℕ) : RoleChange := ⟨i + 1, .viewer, 1⟩

/-- Both requests count two owners before either writes. -/
theorem both_owners_demoted :
    ownerCount twoOwners 1 = 2 ∧
    ownerCount (exec (step (next 1 demotions) .finished) (opening twoOwners .ready)
      [.advance 0, .advance 1, .advance 0, .advance 1, .advance 0, .advance 1, .advance 0,
        .advance 1]).committed 1 = 0 := by
  decide +kernel

/-- One after the other, the second request is refused. -/
theorem second_demotion_refused :
    ownerCount (exec (step (next 1 demotions) .finished) (opening twoOwners .ready)
      [.advance 0, .advance 0, .advance 0, .advance 0, .advance 1, .advance 1, .advance 1,
        .advance 1]).committed 1 ≥ 1 :=
  owner_retained 1 demotions twoOwners (by decide) _ (by decide +kernel)

end RoozDataCloud.OwnerRetention
