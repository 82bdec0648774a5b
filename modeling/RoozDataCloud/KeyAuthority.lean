import RoozDataCloud.IdentityTenancy

set_option autoImplicit false

/-!
# Where the authority of an API key comes from

A key derives its authority from its creator, who may be a key itself. As long as
no request mints a key with a scope its caller does not hold, whatever a key is
allowed to do was allowed to every principal on its chain of creation.
-/
namespace RoozDataCloud.KeyAuthority
open KeyedTable ExecutionModels FallibleSteps Permissions IdentityTenancy

/-- Every principal on the key's chain of creation held the permission when it created the next
key. -/
inductive Authorized (st : Tenancy) (permission : Permission) : Uuid → Prop where
  | session (id userId : Uuid) (key : ApiKey) (hkey : st.keys.get? id = some key)
      (hcreator : key.creator = .session userId) (hheld : permission ∈ key.creatorHeld) :
      Authorized st permission id
  | key (id parent : Uuid) (key : ApiKey) (hkey : st.keys.get? id = some key)
      (hcreator : key.creator = .apiKey parent) (hheld : permission ∈ key.creatorHeld)
      (hparent : Authorized st permission parent) : Authorized st permission id

/-- The credential is a session of the user, or a key on a chain that starts at one. -/
inductive DerivesFrom (st : Tenancy) (userId : Uuid) : Credential → Prop where
  | session : DerivesFrom st userId (.session userId)
  | key (id : Uuid) (key : ApiKey) (hkey : st.keys.get? id = some key)
      (hcreator : DerivesFrom st userId key.creator) : DerivesFrom st userId (.apiKey id)

def roleGrants (st : Tenancy) (organizationId userId : Uuid) (permission : Permission) : Bool :=
  (activeMembership st organizationId userId).any (fun membership =>
    roleHasPermission membership.role permission)

/-- A request that creates a key with a scope its caller does not hold. -/
def overreaches (d : Deployment) (st : Tenancy) : Op → Bool
  | .createApiKey caller organizationId payload idempotencyKey keyId =>
    match resolveAuthContext st caller.now caller.credential, validateScopes payload.scopes with
    | .ok principal, .ok scopes =>
      (keyRequest d st caller organizationId payload idempotencyKey keyId).isOk &&
        (st.idempotency.get?
          (apiKeyIdempotencyKey d organizationId principal.userId idempotencyKey)).isNone &&
        scopes.any (fun scope => scope ∉ heldPermissions st organizationId principal)
    | _, _ => false
  | _ => false

def Modest (d : Deployment) (st : Tenancy) (op : Op) : Prop := overreaches d st op = false

instance decidableModest (d : Deployment) (st : Tenancy) (op : Op) : Decidable (Modest d st op) :=
  inferInstanceAs (Decidable (overreaches d st op = false))

variable {d : Deployment} {st st' : Tenancy}

/-- The columns of a key that are written once. -/
structure SameKey (key key' : ApiKey) : Prop where
  organizationId : key'.organizationId = key.organizationId
  scopes : key'.scopes = key.scopes
  creator : key'.creator = key.creator
  creatorHeld : key'.creatorHeld = key.creatorHeld

theorem resolve_key {now : Time} {id : Uuid} {principal : Principal}
    (h : resolveAuthContext st now (.apiKey id) = .ok principal) :
    ∃ key, st.keys.get? id = some key ∧
      principal = .apiKey id key.createdByUserId key.organizationId key.scopes := by
  simp only [resolveAuthContext, bind_ok, demand_ok, pure_ok] at h
  obtain ⟨key, hkey, -, -, -, -, -, -, -, -, rfl⟩ := h
  exact ⟨key, hkey, rfl⟩

theorem resolve_session {now : Time} {userId : Uuid} {principal : Principal}
    (h : resolveAuthContext st now (.session userId) = .ok principal) :
    principal = .session userId := by
  simp only [resolveAuthContext, bind_ok, pure_ok] at h
  obtain ⟨-, -, -, -, rfl⟩ := h
  rfl

theorem requirePermission_ok {credential : Credential} {now : Time} {organizationId : Uuid}
    {permission : Permission} {principal : Principal}
    (h : requireOrganizationPermission st credential now organizationId permission = .ok principal) :
    resolveAuthContext st now credential = .ok principal ∧
      checkPermission st organizationId permission principal = .ok () := by
  simp only [requireOrganizationPermission, bind_ok, pure_ok] at h
  obtain ⟨_, hresolve, _, hcheck, rfl⟩ := h
  exact ⟨hresolve, hcheck⟩

theorem key_check {now : Time} {id organizationId : Uuid} {permission : Permission}
    {principal : Principal}
    (h : requireOrganizationPermission st (.apiKey id) now organizationId permission =
      .ok principal) :
    ∃ key, st.keys.get? id = some key ∧ key.organizationId = organizationId ∧
      permission ∈ key.scopes := by
  obtain ⟨hresolve, hcheck⟩ := requirePermission_ok h
  obtain ⟨key, hkey, rfl⟩ := resolve_key hresolve
  exact ⟨key, hkey, require_ok.1 hcheck⟩

theorem session_check {now : Time} {userId organizationId : Uuid} {permission : Permission}
    {principal : Principal}
    (h : requireOrganizationPermission st (.session userId) now organizationId permission =
      .ok principal) : roleGrants st organizationId userId permission = true := by
  obtain ⟨hresolve, hcheck⟩ := requirePermission_ok h
  obtain rfl := resolve_session hresolve
  simp only [checkPermission, bind_ok, demand_ok, require_ok] at hcheck
  obtain ⟨membership, hmembership, hrole⟩ := hcheck
  simp only [roleGrants, hmembership, Option.any_some, hrole]

structure KeysKept (st st' : Tenancy) : Prop where
  back : ∀ id key', st'.keys.get? id = some key' →
    ∃ key, st.keys.get? id = some key ∧ SameKey key key'
  forth : ∀ id key, st.keys.get? id = some key →
    ∃ key', st'.keys.get? id = some key' ∧ SameKey key key'

theorem sameKey_refl (key : ApiKey) : SameKey key key := ⟨rfl, rfl, rfl, rfl⟩

theorem keysKept_same (h : st'.keys = st.keys) : KeysKept st st' := by
  constructor
  · intro id key hkey
    exact ⟨key, h ▸ hkey, sameKey_refl key⟩
  · intro id key hkey
    exact ⟨key, h ▸ hkey, sameKey_refl key⟩

theorem keysKept_revoke (st : Tenancy) (keyId : Uuid) (now : Time) :
    KeysKept st { st with keys := st.keys.modify keyId (revokedKey now) } := by
  have hrevoked : ∀ key : ApiKey, SameKey key (revokedKey now key) := fun _ => ⟨rfl, rfl, rfl, rfl⟩
  constructor
  · intro id key' hkey'
    simp only [Table.get?_modify] at hkey'
    split_ifs at hkey'
    · obtain ⟨key, hkey, rfl⟩ := Option.map_eq_some_iff.1 hkey'
      exact ⟨key, hkey, hrevoked key⟩
    · exact ⟨key', hkey', sameKey_refl key'⟩
  · intro id key hkey
    simp only [Table.get?_modify]
    split_ifs
    · exact ⟨revokedKey now key, by rw [hkey]; rfl, hrevoked key⟩
    · exact ⟨key, hkey, sameKey_refl key⟩

/-- A key is created by a caller that passes the check for it, with valid scopes. -/
structure Creation (d : Deployment) (st st' : Tenancy) (op : Op) (caller : Caller)
    (organizationId keyId : Uuid) (principal : Principal) (scopes : List Permission) : Prop where
  request : ∃ payload idempotencyKey,
    op = .createApiKey caller organizationId payload idempotencyKey keyId ∧
    validateScopes payload.scopes = .ok scopes ∧
    (keyRequest d st caller organizationId payload idempotencyKey keyId).isOk = true ∧
    st.idempotency.get? (apiKeyIdempotencyKey d organizationId principal.userId idempotencyKey) =
      none ∧
    st.keys.insert? keyId (issuedKey st caller.credential principal organizationId payload scopes) =
      some st'.keys
  permitted : requireOrganizationPermission st caller.credential caller.now organizationId
    .apiKeyCreate = .ok principal

theorem step_keys (d : Deployment) (st : Tenancy) (op : Op) :
    KeysKept st (step d st op) ∨ ∃ caller organizationId keyId principal scopes,
      Creation d st (step d st op) op caller organizationId keyId principal scopes := by
  cases op with
  | updateMembershipRole caller organizationId membershipId role expectedVersion =>
    refine .inl (commit_cases (keysKept_same rfl) (fun mid _ h => ?_))
    simp only [roleRequest, updateMembershipRole, bind_ok, pure_ok, Prod.mk.injEq] at h
    obtain ⟨-, -, -, ⟨-, -, -, -, -, -, rfl⟩, rfl, -⟩ := h
    exact keysKept_same rfl
  | revokeApiKey caller organizationId keyId =>
    refine .inl (commit_cases (keysKept_same rfl) (fun mid _ h => ?_))
    simp only [revokeRequest, revokeApiKey, bind_ok, pure_ok, Prod.mk.injEq] at h
    obtain ⟨-, -, -, ⟨-, -, rfl⟩, rfl, -⟩ := h
    exact keysKept_revoke st keyId caller.now
  | createApiKey caller organizationId payload idempotencyKey keyId =>
    cases hrequest : keyRequest d st caller organizationId payload idempotencyKey keyId with
    | error e =>
      refine .inl (keysKept_same ?_)
      simp only [step, hrequest, commit]
    | ok result =>
      have hrun := hrequest
      simp only [keyRequest, createApiKey, bind_ok] at hrun
      obtain ⟨principal, hpermission, -, -, scopes, hscopes, hrest⟩ := hrun
      split at hrest
      · simp only [bind_ok, pure_ok] at hrest
        obtain ⟨-, -, -, -, rfl⟩ := hrest
        refine .inl (keysKept_same ?_)
        simp only [step, hrequest, commit]
      · rename_i hnone
        simp only [bind_ok, demand_ok, pure_ok] at hrest
        obtain ⟨keys, hinsert, idempotency, -, rfl⟩ := hrest
        refine .inr ⟨caller, organizationId, keyId, principal, scopes, ⟨payload, idempotencyKey, rfl,
          hscopes, by rw [hrequest]; rfl, hnone, ?_⟩, hpermission⟩
        simp only [step, hrequest, commit]
        exact hinsert

theorem Authorized.kept {permission : Permission} {id : Uuid} (h : Authorized st permission id)
    (hkept : ∀ id key, st.keys.get? id = some key →
      ∃ key', st'.keys.get? id = some key' ∧ SameKey key key') :
    Authorized st' permission id := by
  induction h with
  | session id userId key hkey hcreator hheld =>
    obtain ⟨key', hkey', hsame⟩ := hkept id key hkey
    exact .session id userId key' hkey' (hsame.creator.trans hcreator) (hsame.creatorHeld ▸ hheld)
  | key id parent key hkey hcreator hheld _ ih =>
    obtain ⟨key', hkey', hsame⟩ := hkept id key hkey
    exact .key id parent key' hkey' (hsame.creator.trans hcreator) (hsame.creatorHeld ▸ hheld) ih

/-- Scopes are inherited along the chain, and so is the organization. -/
structure Inherited (st : Tenancy) : Prop where
  scopes : ∀ id key permission, st.keys.get? id = some key → permission ∈ key.scopes →
    Authorized st permission id
  parent : ∀ id key parent, st.keys.get? id = some key → key.creator = .apiKey parent →
    ∃ key', st.keys.get? parent = some key' ∧ key'.organizationId = key.organizationId

theorem Inherited.kept (h : Inherited st) (hkept : KeysKept st st') : Inherited st' := by
  constructor
  · intro id key' permission hkey' hmem
    obtain ⟨key, hkey, hsame⟩ := hkept.back id key' hkey'
    exact (h.scopes id key permission hkey (hsame.scopes ▸ hmem)).kept hkept.forth
  · intro id key' parent hkey' hcreator
    obtain ⟨key, hkey, hsame⟩ := hkept.back id key' hkey'
    obtain ⟨row, hrow, horganization⟩ := h.parent id key parent hkey (hsame.creator ▸ hcreator)
    obtain ⟨row', hrow', hsame'⟩ := hkept.forth parent row hrow
    exact ⟨row', hrow', by rw [hsame'.organizationId, horganization, hsame.organizationId]⟩

theorem inserted_forth {keyId : Uuid} {fresh : ApiKey}
    (hinsert : st.keys.insert? keyId fresh = some st'.keys) (id : Uuid) (key : ApiKey)
    (hkey : st.keys.get? id = some key) :
    ∃ key', st'.keys.get? id = some key' ∧ SameKey key key' :=
  ⟨key, Table.get?_insert_old hinsert hkey, sameKey_refl key⟩

theorem creation_modest {op : Op} {caller : Caller} {organizationId keyId : Uuid}
    {principal : Principal} {scopes : List Permission}
    (h : Creation d st st' op caller organizationId keyId principal scopes) (hmodest : Modest d st op)
    (permission : Permission) (hmem : permission ∈ scopes) :
    permission ∈ heldPermissions st organizationId principal := by
  obtain ⟨payload, idempotencyKey, rfl, hscopes, hok, hnone, -⟩ := h.request
  have hresolve := (requirePermission_ok h.permitted).1
  simp only [Modest, overreaches, hresolve, hscopes, hok, hnone, Option.isNone_none, Bool.true_and,
    List.any_eq_false, decide_eq_true_eq, not_not] at hmodest
  exact hmodest permission hmem

theorem Inherited.create (h : Inherited st) {op : Op} {caller : Caller}
    {organizationId keyId : Uuid} {principal : Principal} {scopes : List Permission}
    (hcreate : Creation d st st' op caller organizationId keyId principal scopes)
    (hmodest : Modest d st op) : Inherited st' := by
  have hheld := creation_modest hcreate hmodest
  have hresolve := (requirePermission_ok hcreate.permitted).1
  obtain ⟨payload, idempotencyKey, -, -, -, -, hinsert⟩ := hcreate.request
  have hforth := inserted_forth hinsert
  have hnew : st'.keys.get? keyId =
      some (issuedKey st caller.credential principal organizationId payload scopes) := by
    rw [Table.get?_insert hinsert, if_pos rfl]
  -- A key that creates a key passes on scopes it has, in its own organization.
  have hparent : ∀ parent, caller.credential = .apiKey parent →
      ∃ key', st.keys.get? parent = some key' ∧ key'.organizationId = organizationId ∧
        heldPermissions st organizationId principal = key'.scopes := by
    intro parent hcredential
    have hpermitted := hcreate.permitted
    rw [hcredential] at hresolve hpermitted
    obtain ⟨key', hkey', rfl⟩ := resolve_key hresolve
    obtain ⟨key'', hkey'', horganization, -⟩ := key_check hpermitted
    rw [hkey'] at hkey''
    obtain rfl := Option.some.inj hkey''
    exact ⟨key', hkey', horganization, by simp only [heldPermissions, horganization, ↓reduceIte]⟩
  constructor
  · intro id key permission hkey hmem
    rw [Table.get?_insert hinsert] at hkey
    split_ifs at hkey with hid
    · subst hid
      obtain rfl := Option.some.inj hkey
      have hmine := hheld permission hmem
      cases hcredential : caller.credential with
      | session userId => exact .session id userId _ hnew hcredential hmine
      | apiKey parent =>
        obtain ⟨key', hkey', -, hscopes⟩ := hparent parent hcredential
        exact .key id parent _ hnew hcredential hmine
          ((h.scopes parent key' permission hkey' (hscopes ▸ hmine)).kept hforth)
    · exact (h.scopes id key permission hkey hmem).kept hforth
  · intro id key parent hkey hcreator
    rw [Table.get?_insert hinsert] at hkey
    split_ifs at hkey with hid
    · obtain rfl := Option.some.inj hkey
      obtain ⟨key', hkey', horganization, -⟩ := hparent parent hcreator
      obtain ⟨row, hrow, hsame⟩ := hforth parent key' hkey'
      exact ⟨row, hrow, hsame.organizationId.trans horganization⟩
    · obtain ⟨key', hkey', horganization⟩ := h.parent id key parent hkey hcreator
      obtain ⟨row, hrow, hsame⟩ := hforth parent key' hkey'
      exact ⟨row, hrow, hsame.organizationId.trans horganization⟩

theorem step_inherited (h : Inherited st) (op : Op) (hmodest : Modest d st op) :
    Inherited (step d st op) := by
  rcases step_keys d st op with hkept | ⟨caller, organizationId, keyId, principal, scopes, hcreate⟩
  · exact h.kept hkept
  · exact h.create hcreate hmodest

/-- The keys a user's sessions have created in the organization: none of them was created while
the user held the permission. -/
def NeverHeld (userId organizationId : Uuid) (permission : Permission) (st : Tenancy) : Prop :=
  ∀ id key, st.keys.get? id = some key → key.organizationId = organizationId →
    key.creator = .session userId → permission ∉ key.creatorHeld

theorem session_held {organizationId userId : Uuid} {permission : Permission} :
    permission ∈ heldPermissions st organizationId (.session userId) ↔
      roleGrants st organizationId userId permission = true := by
  cases hmembership : activeMembership st organizationId userId with
  | none => simp [heldPermissions, roleGrants, hmembership]
  | some membership => simp [heldPermissions, roleGrants, hmembership, roleHasPermission]

theorem step_neverHeld {userId organizationId : Uuid} {permission : Permission}
    (h : NeverHeld userId organizationId permission st) (op : Op)
    (hnot : roleGrants st organizationId userId permission = false) :
    NeverHeld userId organizationId permission (step d st op) := by
  rcases step_keys d st op with hkept | ⟨caller, organization, keyId, principal, scopes, hcreate⟩
  · intro id key' hkey' horganization hcreator
    obtain ⟨key, hkey, hsame⟩ := hkept.back id key' hkey'
    rw [hsame.creatorHeld]
    exact h id key hkey (hsame.organizationId ▸ horganization) (hsame.creator ▸ hcreator)
  · obtain ⟨payload, idempotencyKey, -, -, -, -, hinsert⟩ := hcreate.request
    intro id key hkey horganization hcreator
    rw [Table.get?_insert hinsert] at hkey
    split_ifs at hkey
    · obtain rfl := Option.some.inj hkey
      change organization = organizationId at horganization
      change caller.credential = .session userId at hcreator
      have hresolve := (requirePermission_ok hcreate.permitted).1
      rw [hcreator] at hresolve
      obtain rfl := resolve_session hresolve
      subst horganization
      change permission ∉ heldPermissions st organization (.session userId)
      rw [session_held, hnot]
      simp
    · exact h id key hkey horganization hcreator

/-- A key that derives from a user's session, in an organization where the user never held the
permission, is not authorized for it. -/
theorem not_authorized (hinherited : Inherited st) {userId organizationId : Uuid}
    {permission : Permission} (hnever : NeverHeld userId organizationId permission st)
    {credential : Credential} (hderives : DerivesFrom st userId credential) :
    ∀ id key, credential = .apiKey id → st.keys.get? id = some key →
      key.organizationId = organizationId → ¬ Authorized st permission id := by
  induction hderives with
  | session =>
    intro id key hcredential
    cases hcredential
  | key id row hrow hcreator ih =>
    rintro id' key hcredential hkey horganization hauthorized
    obtain rfl := Credential.apiKey.inj hcredential
    rw [hrow] at hkey
    obtain rfl := Option.some.inj hkey
    cases hauthorized with
    | session _ userId' key' hkey' hsession hheld =>
      rw [hrow] at hkey'
      obtain rfl := Option.some.inj hkey'
      rw [hsession] at hcreator
      cases hcreator
      exact hnever id row hrow horganization hsession hheld
    | key _ parent key' hkey' hparent hheld hchain =>
      rw [hrow] at hkey'
      obtain rfl := Option.some.inj hkey'
      obtain ⟨key'', hkey'', hsame⟩ := hinherited.parent id row parent hrow hparent
      exact ih parent key'' hparent hkey'' (hsame.trans horganization) hchain

/-- In every run whose requests mint no key beyond what their callers hold: a key that passes a
check is authorized by its whole chain of creation, and whoever acts for a user whose role never
grants `membership.update_role` changes no role. -/
theorem key_authority_inherited (d : Deployment) (st : Tenancy) (hkeys : st.keys = .empty)
    (ops : List Op) (hmodest : Along (step d) (Modest d) st ops) :
    (∀ id now organizationId permission principal,
      requireOrganizationPermission (exec (step d) st ops) (.apiKey id) now organizationId
        permission = .ok principal → Authorized (exec (step d) st ops) permission id) ∧
    ∀ userId organizationId,
      Along (step d) (fun mid _ => roleGrants mid organizationId userId .membershipUpdateRole =
        false) st ops →
      roleGrants (exec (step d) st ops) organizationId userId .membershipUpdateRole = false →
      ∀ caller membershipId role expectedVersion,
        DerivesFrom (exec (step d) st ops) userId caller.credential →
        (roleRequest (exec (step d) st ops) caller organizationId membershipId role
          expectedVersion).isOk = false := by
  have hinherited : Inherited (exec (step d) st ops) :=
    along_invariant (step d) (P := Inherited) (fun _ op hst hop => step_inherited hst op hop) ops st
      ⟨fun id key _ hkey => by simp [hkeys] at hkey, fun id key _ hkey => by simp [hkeys] at hkey⟩
      hmodest
  constructor
  · intro id now organizationId permission principal hcheck
    obtain ⟨key, hkey, -, hmem⟩ := key_check hcheck
    exact hinherited.scopes id key permission hkey hmem
  · intro userId organizationId hnever hnow caller membershipId role expectedVersion hderives
    have hheld : NeverHeld userId organizationId .membershipUpdateRole (exec (step d) st ops) :=
      along_invariant (step d) (P := NeverHeld userId organizationId .membershipUpdateRole)
        (fun _ op hst hop => step_neverHeld hst op hop) ops st
        (fun id key hkey => by simp [hkeys] at hkey) hnever
    cases hrequest : roleRequest (exec (step d) st ops) caller organizationId membershipId role
        expectedVersion with
    | error e => rfl
    | ok result =>
      simp only [roleRequest, bind_ok] at hrequest
      obtain ⟨principal, hcheck, -⟩ := hrequest
      cases hcredential : caller.credential with
      | session user =>
        rw [hcredential] at hcheck hderives
        cases hderives
        rw [session_check hcheck] at hnow
        cases hnow
      | apiKey id =>
        rw [hcredential] at hcheck
        obtain ⟨key, hkey, horganization, hmem⟩ := key_check hcheck
        exact absurd (hinherited.scopes id key _ hkey hmem)
          (not_authorized hinherited hheld hderives id key hcredential hkey horganization)

/-- One organization with an owner, user 1, and a developer, user 2. -/
def ownerAndDeveloper : Tenancy where
  users := ⟨[(1, ⟨.active⟩), (2, ⟨.active⟩)], by decide⟩
  memberships := ⟨[(1, ⟨1, 1, .owner, .active, 1⟩), (2, ⟨1, 2, .developer, .active, 1⟩)], by decide⟩
  keys := .empty
  idempotency := .empty

def requestedKey (scope : String) : CreateApiKeyRequest where
  name := "key"
  scopes := [scope]
  expiresAt := none
  environment := "live"
  name_bounds := by decide
  scope_bounds := by simp
  environment_values := .inl rfl

/-- The developer mints a key for changing roles. -/
def mintedByDeveloper : List Op :=
  [.createApiKey ⟨.session 2, 0⟩ 1 (requestedKey "membership.update_role") "mint-001" 1]

set_option maxRecDepth 4000 in
/-- The developer's role does not grant it, the key is allowed to all the same, and the developer
uses it to become an owner. -/
theorem developer_becomes_owner :
    roleGrants ownerAndDeveloper 1 2 .membershipUpdateRole = false ∧
    (requireOrganizationPermission (exec (step plainDeployment) ownerAndDeveloper mintedByDeveloper)
      (.apiKey 1) 1 1 .membershipUpdateRole).isOk = true ∧
    ((exec (step plainDeployment) ownerAndDeveloper mintedByDeveloper).keys.get? 1).map
      (fun key => (key.creator, decide (Permission.membershipUpdateRole ∈ key.creatorHeld))) =
      some (.session 2, false) ∧
    ((exec (step plainDeployment) ownerAndDeveloper (mintedByDeveloper ++
      [.updateMembershipRole ⟨.apiKey 1, 1⟩ 1 2 .owner 1])).memberships.get? 2).map (·.role) =
      some .owner := by
  decide +kernel

/-- The developer mints a key for reading runs, and with it nothing else. -/
def mintedWithinRole : List Op :=
  [.createApiKey ⟨.session 2, 0⟩ 1 (requestedKey "run.read") "mint-001" 1]

set_option maxRecDepth 4000 in
theorem developer_key_authorized :
    Authorized (exec (step plainDeployment) ownerAndDeveloper mintedWithinRole) .runRead 1 ∧
    (roleRequest (exec (step plainDeployment) ownerAndDeveloper mintedWithinRole) ⟨.session 2, 1⟩ 1 2
      .owner 1).isOk = false := by
  obtain ⟨hchecks, hroles⟩ := key_authority_inherited plainDeployment ownerAndDeveloper rfl
    mintedWithinRole (by decide +kernel)
  obtain ⟨principal, hcheck⟩ : ∃ principal, requireOrganizationPermission
      (exec (step plainDeployment) ownerAndDeveloper mintedWithinRole) (.apiKey 1) 1 1 .runRead =
        .ok principal := isOk_iff.1 (by decide +kernel)
  exact ⟨hchecks 1 1 1 .runRead principal hcheck, hroles 2 1 (by decide +kernel) (by decide +kernel)
    ⟨.session 2, 1⟩ 2 .owner 1 .session⟩

end RoozDataCloud.KeyAuthority
