import RoozDataCloud.VersionedCommits
import RoozDataCloud.VersionedResources

set_option autoImplicit false

/-!
# Optimistic concurrency

Interleaved updates of egress policies, Agents and memberships, each under the
version that its client has seen. The version is compared with that of an object
loaded without a lock.
-/
namespace RoozDataCloud.OptimisticConcurrency
open KeyedTable FallibleSteps ReadCommitted VersionedCommits VersionedResources
open ExecutionModels hiding Agent EgressPolicy EgressPolicyRevision

inductive Resource where
  | policy (id : Uuid)
  | agent (id : Uuid)
  | membership (id : Uuid)
  deriving DecidableEq

inductive Request where
  | policy (r : PolicyRequest)
  | agent (r : AgentRequest)
  | membership (organizationId : Uuid) (change : OwnerRetention.RoleChange)

inductive Txn where
  | ready
  | policyLoaded (policy : EgressPolicy)
  | policyLocked (policy : EgressPolicy)
  | agentLoaded (agent : Agent)
  | agentLocked (agent : Agent)
  | membership (t : OwnerRetention.Txn)
  | finished

def version (s : Rows) : Resource → Option ℕ
  | .policy id => (s.policies.get? id).map EgressPolicy.version
  | .agent id => (s.agents.get? id).map Agent.version
  | .membership id => (s.memberships.get? id).map IdentityTenancy.OrganizationMembership.version

def Request.target : Request → Resource
  | .policy r => .policy r.policyId
  | .agent r => .agent r.agentId
  | .membership _ change => .membership change.membershipId

def Request.expected : Request → ℕ
  | .policy r => r.expectedVersion
  | .agent r => r.expectedVersion
  | .membership _ change => change.expectedVersion

def settle : Except Failure Rows → Action Rows Txn Resource
  | .ok rows => .commit rows .finished
  | .error _ => .stop .finished

/-- `require_egress_policy_permission` loads the policy; the service locks its row, checks the
version of the loaded object and writes. -/
def policyNext (r : PolicyRequest) (s : Rows) : Txn → Action Rows Txn Resource
  | .ready =>
    match s.policies.get? r.policyId with
    | some policy => .run (.policyLoaded policy)
    | none => .stop .finished
  | .policyLoaded policy => .lock (.policy r.policyId) (.policyLocked policy)
  | .policyLocked policy => settle (servePolicy r policy s)
  | _ => .stop .finished

/-- `require_agent_permission`, then `update_agent`. -/
def agentNext (r : AgentRequest) (s : Rows) : Txn → Action Rows Txn Resource
  | .ready =>
    match (s.agents.get? r.agentId).filter (fun agent => agent.deletedAt = none) with
    | some agent => .run (.agentLoaded agent)
    | none => .stop .finished
  | .agentLoaded agent => .lock (.agent r.agentId) (.agentLocked agent)
  | .agentLocked agent => settle (updateAgent r agent s)
  | _ => .stop .finished

/-- `update_membership_role` on its own table. -/
def membershipNext (organizationId : Uuid) (change : OwnerRetention.RoleChange) (s : Rows)
    (t : OwnerRetention.Txn) : Action Rows Txn Resource :=
  match OwnerRetention.next organizationId (fun _ => change) 0 s.memberships t with
  | .run t' => .run (.membership t')
  | .lock id t' => .lock (.membership id) (.membership t')
  | .commit memberships _ => .commit { s with memberships := memberships } .finished
  | .stop _ => .stop .finished

def next (requests : ℕ → Request) (i : ℕ) (s : Rows) (t : Txn) : Action Rows Txn Resource :=
  match requests i, t with
  | .policy r, t => policyNext r s t
  | .agent r, t => agentNext r s t
  | .membership organizationId change, .ready => membershipNext organizationId change s .ready
  | .membership organizationId change, .membership t => membershipNext organizationId change s t
  | .membership _ _, _ => .stop .finished

def writeRole (s : Rows) (change : OwnerRetention.RoleChange)
    (loaded : IdentityTenancy.OrganizationMembership) : Rows :=
  { s with
    memberships := s.memberships.modify change.membershipId
      (OwnerRetention.flushMembership loaded change.role) }

/-- The version that the request has loaded is still the stored one, and an Agent update changes
something. -/
def upToDate (s : Rows) : Request → Txn → Bool
  | .policy r, .policyLocked policy => version s (.policy r.policyId) = some policy.version
  | .agent r, .agentLocked agent => version s (.agent r.agentId) = some agent.version &&
      changedFields r.payload agent ≠ []
  | .membership _ change, .membership (.written membership _) =>
    version s (.membership change.membershipId) = some membership.version
  | _, _ => true

def Current (requests : ℕ → Request) (i : ℕ) (s : Rows) (t : Txn) : Prop :=
  upToDate s (requests i) t = true

instance decidableCurrent (requests : ℕ → Request) (i : ℕ) (s : Rows) (t : Txn) :
    Decidable (Current requests i s t) :=
  inferInstanceAs (Decidable (upToDate s (requests i) t = true))

/-- A write from a loaded version to the next one. -/
structure Raises (s s' : Rows) (r : Resource) (loaded : ℕ) : Prop where
  stored : (version s r).isSome
  raised : version s' r = some (loaded + 1)
  others : ∀ r', r' ≠ r → version s' r' = version s r'

theorem Raises.right {s s' : Rows} {r : Resource} {loaded : ℕ} (h : Raises s s' r loaded) :
    version s r = some loaded ↔ ∃ n, version s r = some n ∧ version s' r = some (n + 1) := by
  constructor
  · intro hloaded
    exact ⟨loaded, hloaded, h.raised⟩
  · rintro ⟨n, hn, hn'⟩
    rw [h.raised, Option.some.injEq] at hn'
    obtain rfl : loaded = n := by omega
    exact hn

theorem flushColumn_succ (loaded stored : ℕ) :
    flushColumn loaded (loaded + 1) stored = loaded + 1 := by
  rw [flushColumn, if_neg (by omega)]

section Writes
variable {s s' : Rows}

theorem raises_policy {id : Uuid} {loaded changed stored : EgressPolicy}
    (hstored : s.policies.get? id = some stored) (hversion : changed.version = loaded.version + 1)
    (hpolicies : s'.policies = s.policies.modify id (fun _ => flushPolicy loaded changed stored))
    (hagents : s'.agents = s.agents) (hmemberships : s'.memberships = s.memberships) :
    Raises s s' (.policy id) loaded.version := by
  refine ⟨by rw [version, hstored]; rfl, ?_, fun r' hne => ?_⟩
  · rw [version, hpolicies, Table.get?_modify_self, hstored]
    simp only [Option.map_some, flushPolicy, hversion, flushColumn_succ]
  · cases r' with
    | policy id' =>
      have hid : id' ≠ id := fun heq => hne (by rw [heq])
      rw [version, version, hpolicies, Table.get?_modify_ne _ _ hid]
    | agent id' => rw [version, version, hagents]
    | membership id' => rw [version, version, hmemberships]

theorem savePolicy_ok {id : Uuid} {loaded changed stored : EgressPolicy}
    (h : savePolicy s id loaded changed stored = .ok s') :
    s'.policies = s.policies.modify id (fun _ => flushPolicy loaded changed stored) ∧
      s'.agents = s.agents ∧ s'.memberships = s.memberships := by
  simp only [savePolicy, bind_ok, pure_ok] at h
  obtain ⟨-, -, -, -, rfl⟩ := h
  exact ⟨rfl, rfl, rfl⟩

theorem servePolicy_ok {r : PolicyRequest} {policy : EgressPolicy}
    (h : servePolicy r policy s = .ok s') :
    policy.version = r.expectedVersion ∧ Raises s s' (.policy r.policyId) policy.version := by
  unfold servePolicy at h
  split at h
  next request _ =>
    simp only [createEgressPolicyRevision, bind_ok, demand_ok, require_ok] at h
    obtain ⟨validated, -, stored, hstored, -, hexpected, -, -, -, -, revisions, -, hsave⟩ := h
    obtain ⟨hpolicies, hagents, hmemberships⟩ := savePolicy_ok hsave
    exact ⟨hexpected, raises_policy hstored rfl hpolicies hagents hmemberships⟩
  next revisionId _ =>
    simp only [activateEgressPolicy, bind_ok, demand_ok, require_ok] at h
    obtain ⟨stored, hstored, -, hexpected, -, -, hsave⟩ := h
    obtain ⟨hpolicies, hagents, hmemberships⟩ := savePolicy_ok hsave
    exact ⟨hexpected, raises_policy hstored rfl hpolicies hagents hmemberships⟩
  next _ =>
    simp only [disableEgressPolicy, bind_ok, demand_ok, require_ok] at h
    obtain ⟨stored, hstored, -, hexpected, hsave⟩ := h
    obtain ⟨hpolicies, hagents, hmemberships⟩ := savePolicy_ok hsave
    exact ⟨hexpected, raises_policy hstored rfl hpolicies hagents hmemberships⟩

theorem updateAgent_ok {r : AgentRequest} {agent : Agent} (h : updateAgent r agent s = .ok s') :
    agent.version = r.expectedVersion ∧
      (changedFields r.payload agent = [] ∧ s' = s ∨
        changedFields r.payload agent ≠ [] ∧ Raises s s' (.agent r.agentId) agent.version) := by
  simp only [updateAgent, bind_ok, demand_ok, require_ok] at h
  obtain ⟨stored, hfound, -, hexpected, -, -, hrest⟩ := h
  refine ⟨hexpected, ?_⟩
  have hstored := (Option.filter_eq_some_iff.1 hfound).1
  split at hrest
  next hnone => exact .inl ⟨hnone, (pure_ok.1 hrest).symm⟩
  next hsome =>
    simp only [bind_ok, pure_ok] at hrest
    obtain ⟨-, -, rfl⟩ := hrest
    refine .inr ⟨hsome, by rw [version, hstored]; rfl, ?_, fun r' hne => ?_⟩
    · simp only [version, Table.get?_modify_self, hstored, Option.map_some, flushAgent, updatedAgent,
        flushColumn_succ]
    · cases r' with
      | agent id' =>
        have hid : id' ≠ r.agentId := fun heq => hne (by rw [heq])
        simp only [version, Table.get?_modify_ne _ _ hid]
      | policy id' => rfl
      | membership id' => rfl

theorem membershipNext_commit {organizationId : Uuid} {change : OwnerRetention.RoleChange}
    {t : OwnerRetention.Txn} {t' : Txn}
    (h : membershipNext organizationId change s t = .commit s' t') :
    ∃ membership counted, t = .written membership counted ∧ s' = writeRole s change membership := by
  unfold membershipNext at h
  split at h
  · cases h
  · cases h
  next memberships t'' hcommit =>
    obtain ⟨membership, counted, ht, -, hs⟩ := OwnerRetention.next_commit hcommit
    obtain ⟨rfl, -⟩ := Action.commit.inj h
    exact ⟨membership, counted, ht, by rw [hs]; rfl⟩
  · cases h

theorem membership_write (s : Rows) (change : OwnerRetention.RoleChange)
    (loaded : IdentityTenancy.OrganizationMembership) :
    version s (.membership change.membershipId) = none ∨
      Raises s (writeRole s change loaded) (.membership change.membershipId) loaded.version := by
  cases hstored : s.memberships.get? change.membershipId with
  | none => exact .inl (by rw [version, hstored]; rfl)
  | some stored =>
    refine .inr ⟨by rw [version, hstored]; rfl, ?_, fun r' hne => ?_⟩
    · simp only [version, writeRole, Table.get?_modify_self, hstored, Option.map_some,
        OwnerRetention.flushMembership, flushColumn_succ]
    · cases r' with
      | membership id' =>
        have hid : id' ≠ change.membershipId := fun heq => hne (by rw [heq])
        simp only [version, writeRole, Table.get?_modify_ne _ _ hid]
      | policy id' => rfl
      | agent id' => rfl

end Writes

theorem settle_commit {result : Except Failure Rows} {s : Rows} {t : Txn}
    (h : settle result = .commit s t) : result = .ok s := by
  cases result with
  | error e => cases h
  | ok rows => rw [(Action.commit.inj h).1]

theorem settle_txn (result : Except Failure Rows) : (settle result).txn = .finished := by
  cases result <;> rfl

/-- A role change has compared the version it loaded. -/
def Remembers (request : Request) : Txn → Prop
  | .membership (.loaded membership) | .membership (.checked membership _)
  | .membership (.written membership _) => membership.version = request.expected
  | _ => True

theorem membershipNext_remembers (organizationId : Uuid) (change : OwnerRetention.RoleChange)
    (s : Rows) (t : OwnerRetention.Txn)
    (h : Remembers (.membership organizationId change) (.membership t)) :
    Remembers (.membership organizationId change) (membershipNext organizationId change s t).txn := by
  cases t with
  | ready =>
    simp only [membershipNext, OwnerRetention.next]
    cases IdentityTenancy.loadMembership s.memberships organizationId change.membershipId with
    | none => trivial
    | some membership =>
      by_cases hversion : membership.version = change.expectedVersion
      · simp only [if_pos hversion]
        exact hversion
      · simp only [if_neg hversion]
        trivial
  | loaded membership =>
    simp only [membershipNext, OwnerRetention.next]
    by_cases hdemotes : membership.role = .owner ∧ change.role ≠ .owner
    · by_cases hfinal : IdentityTenancy.ownerCount s.memberships organizationId ≤ 1
      · simp only [if_pos hdemotes, if_pos hfinal]
        trivial
      · simp only [if_pos hdemotes, if_neg hfinal]
        exact h
    · simp only [if_neg hdemotes]
      exact h
  | checked membership counted => exact h
  | written membership counted => trivial
  | finished => trivial

theorem next_remembers (requests : ℕ → Request) (i : ℕ) (s : Rows) (t : Txn)
    (h : Remembers (requests i) t) : Remembers (requests i) (next requests i s t).txn := by
  unfold next
  cases hrequest : requests i with
  | policy r =>
    cases t with
    | ready =>
      simp only [policyNext]
      split <;> trivial
    | policyLocked policy =>
      simp only [policyNext, settle_txn]
      trivial
    | _ => trivial
  | agent r =>
    cases t with
    | ready =>
      simp only [agentNext]
      split <;> trivial
    | agentLocked agent =>
      simp only [agentNext, settle_txn]
      trivial
    | _ => trivial
  | membership organizationId change =>
    rw [hrequest] at h
    cases t with
    | ready => exact membershipNext_remembers organizationId change s .ready trivial
    | membership t => exact membershipNext_remembers organizationId change s t h
    | _ => trivial

theorem next_commit {requests : ℕ → Request} {i : ℕ} {s s' : Rows} {t t' : Txn}
    (h : next requests i s t = .commit s' t') :
    (∃ r policy, requests i = .policy r ∧ t = .policyLocked policy ∧
      servePolicy r policy s = .ok s') ∨
    (∃ r agent, requests i = .agent r ∧ t = .agentLocked agent ∧ updateAgent r agent s = .ok s') ∨
    ∃ organizationId change membership counted, requests i = .membership organizationId change ∧
      t = .membership (.written membership counted) ∧ s' = writeRole s change membership := by
  unfold next at h
  cases hrequest : requests i with
  | policy r =>
    simp only [hrequest] at h
    cases t with
    | ready =>
      simp only [policyNext] at h
      split at h <;> cases h
    | policyLocked policy => exact .inl ⟨r, policy, rfl, rfl, settle_commit h⟩
    | _ => cases h
  | agent r =>
    simp only [hrequest] at h
    cases t with
    | ready =>
      simp only [agentNext] at h
      split at h <;> cases h
    | agentLocked agent => exact .inr (.inl ⟨r, agent, rfl, rfl, settle_commit h⟩)
    | _ => cases h
  | membership organizationId change =>
    simp only [hrequest] at h
    cases t with
    | ready =>
      obtain ⟨membership, counted, ht, -⟩ := membershipNext_commit h
      cases ht
    | membership t =>
      obtain ⟨membership, counted, rfl, hs⟩ := membershipNext_commit h
      exact .inr (.inr ⟨organizationId, change, membership, counted, rfl, rfl, hs⟩)
    | _ => cases h

theorem checked (requests : ℕ → Request) :
    Checked (next requests) .finished (fun i => (requests i).target) (fun i => (requests i).expected)
      version (fun i => Remembers (requests i)) (Current requests) where
  dead _ := trivial
  keeps := next_remembers requests
  right i s t s' t' hk h := by
    unfold Current
    rcases next_commit h with ⟨r, policy, hr, rfl, hserve⟩ | ⟨r, agent, hr, rfl, hupdate⟩ |
      ⟨organizationId, change, membership, counted, hr, rfl, rfl⟩ <;>
      simp only [hr, upToDate, Request.target, Bool.and_eq_true, decide_eq_true_eq]
    · exact (servePolicy_ok hserve).2.right
    · rcases (updateAgent_ok hupdate).2 with ⟨hnone, rfl⟩ | ⟨hsome, hraises⟩
      · refine iff_of_false (fun hc => hc.2 hnone) ?_
        rintro ⟨n, hn, hn'⟩
        rw [hn, Option.some.injEq] at hn'
        omega
      · rw [← hraises.right]
        exact and_iff_left hsome
    · rcases membership_write s change membership with hnone | hraises
      · rw [hnone]
        exact iff_of_false (fun hc => nomatch hc) (fun ⟨n, hn, _⟩ => nomatch hn)
      · exact hraises.right
  seen i s t s' t' hk h hc := by
    unfold Current at hc
    rcases next_commit h with ⟨r, policy, hr, rfl, hserve⟩ | ⟨r, agent, hr, rfl, hupdate⟩ |
      ⟨organizationId, change, membership, counted, hr, rfl, rfl⟩ <;>
      simp only [hr, upToDate, Request.target, Request.expected, Bool.and_eq_true,
        decide_eq_true_eq] at hc ⊢
    · rw [hc, (servePolicy_ok hserve).1]
    · rw [hc.1, (updateAgent_ok hupdate).1]
    · rw [hr] at hk
      rw [hc, hk]
      rfl
  others i s t s' t' h r' hne := by
    rcases next_commit h with ⟨r, policy, hr, rfl, hserve⟩ | ⟨r, agent, hr, rfl, hupdate⟩ |
      ⟨organizationId, change, membership, counted, hr, rfl, rfl⟩ <;>
      simp only [hr, Request.target] at hne
    · exact (servePolicy_ok hserve).2.others r' hne
    · rcases (updateAgent_ok hupdate).2 with ⟨-, rfl⟩ | ⟨-, hraises⟩
      · rfl
      · exact hraises.others r' hne
    · rcases membership_write s change membership with hnone | hraises
      · rw [version, Option.map_eq_none_iff] at hnone
        rw [writeRole, Table.modify_absent _ hnone]
      · exact hraises.others r' hne

/-- Over every interleaving of updates, each commit raises the version of its resource by one from
the version its client has seen, and no two commits carry the same expected version, if and only if
every commit rests on the stored version and every Agent update changes something. -/
theorem versions_checked_iff (requests : ℕ → Request) (rows : Rows) (events : List Event) :
    Versioned (next requests) .finished (fun i => (requests i).target)
      (fun i => (requests i).expected) version (opening rows .ready) events ↔
    Along (step (next requests) .finished)
      (Meets (next requests) (AtCommit (next requests) (Current requests)))
      (opening rows .ready) events :=
  (checked requests).versioned_iff (opening rows .ready) (fun _ => trivial) events

def samplePolicy : EgressPolicy where
  organizationId := 1
  projectId := 1
  name := "default"
  status := .draft
  activeRevisionId := none
  activatedAt := none
  disabledAt := none
  updatedAt := 0
  version := 1

def sampleRevision (number : ℕ) : EgressPolicyRevision where
  organizationId := 1
  projectId := 1
  policyId := 1
  revisionNumber := number
  validated := ⟨["example.org"], ["GET"], 1, 65536, 65536, 0, 1, 1, "digest"⟩
  credentialSecretId := none
  createdByUserId := 1
  createdAt := 0

def sampleAgent : Agent where
  organizationId := 1
  projectId := 1
  name := "Collector"
  slug := "collector"
  description := none
  status := .active
  deletedAt := none
  updatedAt := 0
  version := 1

def sampleRows : Rows where
  policies := ⟨[(1, samplePolicy)], List.nodup_singleton _⟩
  revisions := ⟨[(1, sampleRevision 1), (2, sampleRevision 2)], by decide⟩
  agents := ⟨[(1, sampleAgent)], List.nodup_singleton _⟩
  memberships := ⟨[(1, ⟨1, 1, .viewer, .active, 1⟩)], List.nodup_singleton _⟩

/-- Request `i` activates revision `i + 1`; every client has seen version 1. -/
def activations (i : ℕ) : Request :=
  .policy { policyId := 1, expectedVersion := 1, now := i + 1, operation := .activate (i + 1) }

/-- Request `i` gives the same member one of two roles. -/
def promotions (i : ℕ) : Request :=
  .membership 1 ⟨1, if i = 0 then .analyst else .developer, 1⟩

/-- An update to the slug that the Agent has. -/
def sameSlug (_ : ℕ) : Request :=
  .agent
    { agentId := 1
      expectedVersion := 1
      now := 1
      payload := ⟨none, some (some "collector"), none, none, .inr (.inl rfl)⟩ }

/-- Both policy requests are authorized, and both role changes read, before either writes: the
second succeeds with the version of the first and its update is over the first unseen. An Agent
update that changes nothing succeeds twice with one version. -/
theorem version_succeeds_twice :
    (let events : List Event := [.advance 0, .advance 1, .advance 0, .advance 0, .advance 1,
        .advance 1]
      let rows := (exec (step (next activations) .finished) (opening sampleRows .ready)
        events).committed
      version rows (.policy 1) = some 2 ∧
        (rows.policies.get? 1).map (fun policy => policy.activeRevisionId) = some (some 2) ∧
        ¬ Versioned (next activations) .finished (fun i => (activations i).target)
          (fun i => (activations i).expected) version (opening sampleRows .ready) events) ∧
    (let events : List Event := [.advance 0, .advance 1, .advance 0, .advance 0, .advance 0,
        .advance 1, .advance 1, .advance 1]
      let rows := (exec (step (next promotions) .finished) (opening sampleRows .ready)
        events).committed
      version rows (.membership 1) = some 2 ∧
        ¬ Versioned (next promotions) .finished (fun i => (promotions i).target)
          (fun i => (promotions i).expected) version (opening sampleRows .ready) events) ∧
    (let events : List Event := [.advance 0, .advance 0, .advance 0, .advance 1, .advance 1,
        .advance 1]
      let rows := (exec (step (next sameSlug) .finished) (opening sampleRows .ready)
        events).committed
      version rows (.agent 1) = some 1 ∧
        ¬ Versioned (next sameSlug) .finished (fun i => (sameSlug i).target)
          (fun i => (sameSlug i).expected) version (opening sampleRows .ready) events) := by
  refine ⟨⟨by decide +kernel, by decide +kernel, fun h => ?_⟩, ⟨by decide +kernel, fun h => ?_⟩,
    ⟨by decide +kernel, fun h => ?_⟩⟩
  · exact h.once [.advance 0, .advance 1, .advance 0] (.advance 0) [.advance 1] (.advance 1) [] 0 1
      rfl (by decide +kernel) (by decide +kernel) rfl rfl
  · exact h.once [.advance 0, .advance 1, .advance 0, .advance 0] (.advance 0)
      [.advance 1, .advance 1] (.advance 1) [] 0 1 rfl (by decide +kernel) (by decide +kernel) rfl rfl
  · exact h.once [.advance 0, .advance 0] (.advance 0) [.advance 1, .advance 1] (.advance 1) [] 0 1
      rfl (by decide +kernel) (by decide +kernel) rfl rfl

end RoozDataCloud.OptimisticConcurrency
