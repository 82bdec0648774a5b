import RoozDataCloud.Permissions

set_option autoImplicit false

/-!
# Memberships, API keys and permission checks
-/
namespace RoozDataCloud.IdentityTenancy
open KeyedTable ExecutionModels FallibleSteps Permissions

inductive UserStatus where
  | active | inactive
  deriving DecidableEq

structure User where
  status : UserStatus

inductive MembershipStatus where
  | active | inactive
  deriving DecidableEq

structure OrganizationMembership where
  organizationId : Uuid
  userId : Uuid
  role : Role
  status : MembershipStatus
  version : ℕ
  deriving DecidableEq

/-- What a request is authenticated with: a live session of a user, or an API key. -/
inductive Credential where
  | session (userId : Uuid)
  | apiKey (id : Uuid)
  deriving DecidableEq

/-- The last two columns are not stored: they keep who created the key, and what that principal
was allowed to do at the time. -/
structure ApiKey where
  organizationId : Uuid
  scopes : List Permission
  createdByUserId : Uuid
  expiresAt : Option Time
  revokedAt : Option Time
  creator : Credential
  creatorHeld : List Permission

structure Tenancy where
  users : Table Uuid User
  memberships : Table Uuid OrganizationMembership
  keys : Table Uuid ApiKey
  idempotency : Table IdempotencyKey IdempotencyRecord

inductive Principal where
  | session (userId : Uuid)
  | apiKey (id userId organizationId : Uuid) (scopes : List Permission)

def Principal.userId : Principal → Uuid
  | session userId => userId
  | apiKey _ userId _ _ => userId

def isExpired (expiresAt : Option Time) (now : Time) : Bool := expiresAt.any (· ≤ now)

def credentialInvalid : Failure :=
  apiError 401 "CREDENTIAL_INVALID" "The API credential is invalid."

def resourceNotFound : Failure :=
  apiError 404 "RESOURCE_NOT_FOUND" "The requested resource was not found."

def resolveAuthContext (st : Tenancy) (now : Time) : Credential → Except Failure Principal
  | .apiKey id => do
    let key ← demand (st.keys.get? id) credentialInvalid
    require (key.revokedAt = none) credentialInvalid
    require (isExpired key.expiresAt now = false) credentialInvalid
    let user ← demand (st.users.get? key.createdByUserId) credentialInvalid
    require (user.status = .active) credentialInvalid
    pure (.apiKey id key.createdByUserId key.organizationId key.scopes)
  | .session userId => do
    let required := apiError 401 "AUTH_REQUIRED" "Authentication is required."
    let user ← demand (st.users.get? userId) required
    require (user.status = .active) required
    pure (.session userId)

def activeMembership (st : Tenancy) (organizationId userId : Uuid) :
    Option OrganizationMembership :=
  (st.memberships.find? (fun _ membership => membership.organizationId = organizationId &&
    membership.userId = userId && membership.status = .active)).map Prod.snd

/-- The check that `require_organization_permission` and `_authorize_organization` share. -/
def checkPermission (st : Tenancy) (organizationId : Uuid) (permission : Permission) :
    Principal → Except Failure Unit
  | .apiKey _ _ keyOrganizationId scopes =>
    require (keyOrganizationId = organizationId ∧ permission ∈ scopes) resourceNotFound
  | .session userId => do
    let membership ← demand (activeMembership st organizationId userId) resourceNotFound
    require (roleHasPermission membership.role permission) (apiError 403 "PERMISSION_DENIED"
      "You do not have permission to perform this action.")

def requireOrganizationPermission (st : Tenancy) (credential : Credential) (now : Time)
    (organizationId : Uuid) (permission : Permission) : Except Failure Principal := do
  let principal ← resolveAuthContext st now credential
  let _ ← checkPermission st organizationId permission principal
  pure principal

def activeOwner (organizationId : Uuid) (membership : OrganizationMembership) : Bool :=
  membership.organizationId = organizationId && membership.status = .active &&
    membership.role = .owner

def ownerCount (memberships : Table Uuid OrganizationMembership) (organizationId : Uuid) : ℕ :=
  memberships.count (fun _ membership => activeOwner organizationId membership)

def reassigned (role : Role) (membership : OrganizationMembership) : OrganizationMembership :=
  { membership with role := role, version := membership.version + 1 }

/-- `none` is a membership that another organization has, or that has ended. -/
def loadMembership (memberships : Table Uuid OrganizationMembership)
    (organizationId membershipId : Uuid) : Option OrganizationMembership :=
  (memberships.get? membershipId).filter (fun membership =>
    membership.organizationId = organizationId && membership.status = .active)

def updateMembershipRole (st : Tenancy) (organizationId membershipId : Uuid) (role : Role)
    (expectedVersion : ℕ) : Except Failure Tenancy := do
  let membership ← demand (loadMembership st.memberships organizationId membershipId)
    (apiError 404 "RESOURCE_NOT_FOUND" "Membership was not found.")
  require (membership.version = expectedVersion)
    (apiError 409 "VERSION_CONFLICT" "The membership changed before this update.")
  require (membership.role = .owner ∧ role ≠ .owner → 1 < ownerCount st.memberships organizationId)
    (apiError 409 "RESOURCE_CONFLICT" "The final organization owner cannot be demoted.")
  pure { st with memberships := st.memberships.modify membershipId (reassigned role) }

structure CreateApiKeyRequest where
  name : String
  scopes : List String
  expiresAt : Option Time
  environment : String
  name_bounds : 1 ≤ name.length ∧ name.length ≤ 160
  scope_bounds : 1 ≤ scopes.length ∧ scopes.length ≤ 30
  environment_values : environment = "live" ∨ environment = "test"

def apiKeyFingerprint (d : Deployment) (payload : CreateApiKeyRequest)
    (scopes : List Permission) : String :=
  d.canonicalFingerprint (.object [("name", .text payload.name),
    ("scopes", .array (scopes.map (fun permission => .text permission.scope))),
    ("expires_at", match payload.expiresAt with
      | some t => .timestamp true t
      | none => .null),
    ("environment", .text payload.environment)])

def apiKeyIdempotencyKey (d : Deployment) (organizationId userId : Uuid) (key : String) :
    IdempotencyKey where
  organizationId := organizationId
  principalId := userId
  endpoint := "POST:/api/v1/organizations/\x7borganization_id\x7d/api-keys"
  keyDigest := d.sha256 key

/-- What the principal may do in the organization. -/
def heldPermissions (st : Tenancy) (organizationId : Uuid) : Principal → List Permission
  | .session userId =>
    match activeMembership st organizationId userId with
    | some membership => rolePermissions membership.role
    | none => []
  | .apiKey _ _ keyOrganizationId scopes =>
    if keyOrganizationId = organizationId then scopes else []

def issuedKey (st : Tenancy) (credential : Credential) (principal : Principal)
    (organizationId : Uuid) (payload : CreateApiKeyRequest) (scopes : List Permission) :
    ApiKey where
  organizationId := organizationId
  scopes := scopes
  createdByUserId := principal.userId
  expiresAt := payload.expiresAt
  revokedAt := none
  creator := credential
  creatorHeld := heldPermissions st organizationId principal

/-- The scopes are checked to exist; nothing compares them with what the caller holds. -/
def createApiKey (d : Deployment) (st : Tenancy) (credential : Credential) (principal : Principal)
    (organizationId : Uuid) (payload : CreateApiKeyRequest) (idempotencyKey : String)
    (keyId : Uuid) : Except Failure (Tenancy × Uuid) := do
  require (8 ≤ idempotencyKey.length ∧ idempotencyKey.length ≤ 200) (apiError 400 "INVALID_REQUEST"
    "Idempotency-Key must contain between 8 and 200 characters.")
  let scopes ← validateScopes payload.scopes
  let fingerprint := apiKeyFingerprint d payload scopes
  let key := apiKeyIdempotencyKey d organizationId principal.userId idempotencyKey
  match st.idempotency.get? key with
  | some existing => do
    require (existing.requestFingerprint = fingerprint) (apiError 409 "IDEMPOTENCY_CONFLICT"
      "This idempotency key was used for a different request.")
    require ((st.keys.get? existing.resourceId).any (fun row => row.organizationId = organizationId))
      (apiError 409 "RESOURCE_CONFLICT" "The original idempotent result is unavailable.")
    pure (st, existing.resourceId)
  | none => do
    let keys ← demand (st.keys.insert? keyId
      (issuedKey st credential principal organizationId payload scopes)) (.integrity "api_keys_pkey")
    let idempotency ← demand (st.idempotency.insert? key
      { requestFingerprint := fingerprint, resourceId := keyId, hasSnapshot := false })
      (.integrity "uq_idempotency_records_scope")
    pure ({ st with keys := keys, idempotency := idempotency }, keyId)

def revokedKey (now : Time) (key : ApiKey) : ApiKey :=
  { key with revokedAt := key.revokedAt.or (some now) }

def revokeApiKey (st : Tenancy) (organizationId keyId : Uuid) (now : Time) :
    Except Failure Tenancy := do
  require ((st.keys.get? keyId).any (fun key => key.organizationId = organizationId))
    (apiError 404 "RESOURCE_NOT_FOUND" "API key was not found.")
  pure { st with keys := st.keys.modify keyId (revokedKey now) }

/-- A request, with the credential and the time it is made at. -/
structure Caller where
  credential : Credential
  now : Time

inductive Op where
  | updateMembershipRole (caller : Caller) (organizationId membershipId : Uuid) (role : Role)
      (expectedVersion : ℕ)
  | createApiKey (caller : Caller) (organizationId : Uuid) (payload : CreateApiKeyRequest)
      (idempotencyKey : String) (keyId : Uuid)
  | revokeApiKey (caller : Caller) (organizationId keyId : Uuid)

def roleRequest (st : Tenancy) (caller : Caller) (organizationId membershipId : Uuid) (role : Role)
    (expectedVersion : ℕ) : Except Failure (Tenancy × Unit) := do
  let _ ← requireOrganizationPermission st caller.credential caller.now organizationId
    .membershipUpdateRole
  let st ← updateMembershipRole st organizationId membershipId role expectedVersion
  pure (st, ())

def keyRequest (d : Deployment) (st : Tenancy) (caller : Caller) (organizationId : Uuid)
    (payload : CreateApiKeyRequest) (idempotencyKey : String) (keyId : Uuid) :
    Except Failure (Tenancy × Uuid) := do
  let principal ← requireOrganizationPermission st caller.credential caller.now organizationId
    .apiKeyCreate
  createApiKey d st caller.credential principal organizationId payload idempotencyKey keyId

def revokeRequest (st : Tenancy) (caller : Caller) (organizationId keyId : Uuid) :
    Except Failure (Tenancy × Unit) := do
  let _ ← requireOrganizationPermission st caller.credential caller.now organizationId .apiKeyRevoke
  let st ← revokeApiKey st organizationId keyId caller.now
  pure (st, ())

def step (d : Deployment) (st : Tenancy) : Op → Tenancy
  | .updateMembershipRole caller organizationId membershipId role expectedVersion =>
    commit st (roleRequest st caller organizationId membershipId role expectedVersion)
  | .createApiKey caller organizationId payload idempotencyKey keyId =>
    commit st (keyRequest d st caller organizationId payload idempotencyKey keyId)
  | .revokeApiKey caller organizationId keyId =>
    commit st (revokeRequest st caller organizationId keyId)

end RoozDataCloud.IdentityTenancy
