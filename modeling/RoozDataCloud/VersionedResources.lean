import RoozDataCloud.OwnerRetention

set_option autoImplicit false

/-!
# Resources with a version

The updates of egress policies and Agents. Each is computed from the object that
the permission dependency has loaded: the locked select of the service finds the
row, but does not refresh the object. Only changed columns are written.
-/
namespace RoozDataCloud.VersionedResources
open KeyedTable FallibleSteps ReadCommitted
open ExecutionModels hiding Agent EgressPolicy EgressPolicyRevision
open IdentityTenancy hiding step

structure EgressPolicy where
  organizationId : Uuid
  projectId : Uuid
  name : String
  status : EgressPolicyStatus
  activeRevisionId : Option Uuid
  activatedAt : Option Time
  disabledAt : Option Time
  updatedAt : Time
  version : ℕ

structure ValidatedEgressPolicy where
  allowedHosts : List String
  allowedMethods : List String
  maxRequests : ℕ
  maxResponseBytes : ℕ
  maxTotalBytes : ℕ
  maxRedirects : ℕ
  connectTimeoutSeconds : ℕ
  requestTimeoutSeconds : ℕ
  policyDigest : String

structure EgressPolicyRevision where
  organizationId : Uuid
  projectId : Uuid
  policyId : Uuid
  revisionNumber : ℕ
  validated : ValidatedEgressPolicy
  credentialSecretId : Option Uuid
  createdByUserId : Uuid
  createdAt : Time

inductive AgentStatus where
  | active | archived
  deriving DecidableEq

structure Agent where
  organizationId : Uuid
  projectId : Uuid
  name : String
  slug : String
  description : Option String
  status : AgentStatus
  deletedAt : Option Time
  updatedAt : Time
  version : ℕ

structure Rows where
  policies : Table Uuid EgressPolicy
  revisions : Table Uuid EgressPolicyRevision
  agents : Table Uuid Agent
  memberships : OwnerRetention.Memberships

section Policies

/-- A revision to be made: the outcome of `validate_egress_policy`, the credential, and whether
the select of the credential finds it. -/
structure RevisionRequest where
  revisionId : Uuid
  userId : Uuid
  validated : Except Failure ValidatedEgressPolicy
  credentialSecretId : Option Uuid
  credentialFound : Bool

inductive PolicyOperation where
  | createRevision (request : RevisionRequest)
  | activate (revisionId : Uuid)
  | disable

structure PolicyRequest where
  policyId : Uuid
  expectedVersion : ℕ
  now : Time
  operation : PolicyOperation

def policyConflict : Failure :=
  apiError 409 "VERSION_CONFLICT" "The egress policy changed. Reload it and try again."

def flushPolicy (loaded changed stored : EgressPolicy) : EgressPolicy :=
  { stored with
    status := flushColumn loaded.status changed.status stored.status
    activeRevisionId :=
      flushColumn loaded.activeRevisionId changed.activeRevisionId stored.activeRevisionId
    activatedAt := flushColumn loaded.activatedAt changed.activatedAt stored.activatedAt
    disabledAt := flushColumn loaded.disabledAt changed.disabledAt stored.disabledAt
    updatedAt := flushColumn loaded.updatedAt changed.updatedAt stored.updatedAt
    version := flushColumn loaded.version changed.version stored.version }

def revisionOf (policyId : Uuid) (policy : EgressPolicy) (revision : EgressPolicyRevision) : Bool :=
  revision.policyId = policyId && revision.organizationId = policy.organizationId &&
    revision.projectId = policy.projectId

/-- The policy row is updated; a constraint and a trigger check its active revision. -/
def savePolicy (s : Rows) (policyId : Uuid) (loaded changed stored : EgressPolicy) :
    Except Failure Rows := do
  let row := flushPolicy loaded changed stored
  require (row.status = .active → row.activeRevisionId.isSome ∧ row.activatedAt.isSome)
    (.integrity "ck_egress_policies_active_revision")
  require (row.activeRevisionId.all (fun id => (s.revisions.get? id).any (revisionOf policyId row)))
    (.integrity "Egress policy active revision mismatch")
  pure { s with policies := s.policies.modify policyId (fun _ => row) }

def latestRevision (revisions : Table Uuid EgressPolicyRevision) (policyId : Uuid) : ℕ :=
  ((revisions.select (fun _ revision => revision.policyId = policyId)).map
    (fun row => row.2.revisionNumber)).foldr max 0

def newRevision (policyId : Uuid) (policy : EgressPolicy) (number : ℕ) (request : RevisionRequest)
    (validated : ValidatedEgressPolicy) (now : Time) : EgressPolicyRevision where
  organizationId := policy.organizationId
  projectId := policy.projectId
  policyId := policyId
  revisionNumber := number
  validated := validated
  credentialSecretId := request.credentialSecretId
  createdByUserId := request.userId
  createdAt := now

def createEgressPolicyRevision (r : PolicyRequest) (request : RevisionRequest)
    (policy : EgressPolicy) (s : Rows) : Except Failure Rows := do
  let validated ← request.validated
  let stored ← demand (s.policies.get? r.policyId) resourceNotFound
  require (policy.version = r.expectedVersion) policyConflict
  require (request.credentialSecretId.isSome → request.credentialFound = true) resourceNotFound
  let number := latestRevision s.revisions r.policyId + 1
  require (∀ row ∈ s.revisions.rows, row.2.policyId = r.policyId → row.2.revisionNumber ≠ number)
    (.integrity "uq_egress_policy_revision_number")
  let revisions ← demand (s.revisions.insert? request.revisionId
    (newRevision r.policyId policy number request validated r.now))
    (.integrity "egress_policy_revisions_pkey")
  savePolicy { s with revisions := revisions } r.policyId policy
    { policy with version := policy.version + 1, updatedAt := r.now } stored

def activateEgressPolicy (r : PolicyRequest) (revisionId : Uuid) (policy : EgressPolicy)
    (s : Rows) : Except Failure Rows := do
  let stored ← demand (s.policies.get? r.policyId) resourceNotFound
  require (policy.version = r.expectedVersion) policyConflict
  require ((s.revisions.get? revisionId).any (revisionOf r.policyId policy)) resourceNotFound
  savePolicy s r.policyId policy
    { policy with
      activeRevisionId := some revisionId
      status := .active
      activatedAt := some r.now
      disabledAt := none
      version := policy.version + 1
      updatedAt := r.now } stored

def disableEgressPolicy (r : PolicyRequest) (policy : EgressPolicy) (s : Rows) :
    Except Failure Rows := do
  let stored ← demand (s.policies.get? r.policyId) resourceNotFound
  require (policy.version = r.expectedVersion) policyConflict
  savePolicy s r.policyId policy
    { policy with
      status := .disabled
      disabledAt := some r.now
      version := policy.version + 1
      updatedAt := r.now } stored

def servePolicy (r : PolicyRequest) (policy : EgressPolicy) (s : Rows) : Except Failure Rows :=
  match r.operation with
  | .createRevision request => createEgressPolicyRevision r request policy s
  | .activate revisionId => activateEgressPolicy r revisionId policy s
  | .disable => disableEgressPolicy r policy s

end Policies

section Agents

/-- The fields of an update, `none` where the client supplies none. -/
structure UpdateAgentRequest where
  name : Option (Option String)
  slug : Option (Option String)
  description : Option (Option String)
  status : Option (Option AgentStatus)
  require_change : name.isSome ∨ slug.isSome ∨ description.isSome ∨ status.isSome

structure AgentRequest where
  agentId : Uuid
  expectedVersion : ℕ
  now : Time
  payload : UpdateAgentRequest

def changedFields (payload : UpdateAgentRequest) (agent : Agent) : List String :=
  (if payload.slug.join.any (fun slug => slug ≠ agent.slug) then ["slug"] else []) ++
    (if payload.name.join.isSome then ["name"] else []) ++
    (if payload.description.isSome then ["description"] else []) ++
    (if payload.status.join.isSome then ["status"] else [])

def updatedAgent (r : AgentRequest) (agent : Agent) : Agent :=
  { agent with
    slug := r.payload.slug.join.getD agent.slug
    name := r.payload.name.join.getD agent.name
    description := r.payload.description.getD agent.description
    status := r.payload.status.join.getD agent.status
    updatedAt := r.now
    version := agent.version + 1 }

def flushAgent (loaded changed stored : Agent) : Agent :=
  { stored with
    slug := flushColumn loaded.slug changed.slug stored.slug
    name := flushColumn loaded.name changed.name stored.name
    description := flushColumn loaded.description changed.description stored.description
    status := flushColumn loaded.status changed.status stored.status
    updatedAt := flushColumn loaded.updatedAt changed.updatedAt stored.updatedAt
    version := flushColumn loaded.version changed.version stored.version }

def slugTaken : Failure :=
  apiError 409 "RESOURCE_CONFLICT" "That Agent slug is already used in this project."

/-- The select for another Agent with the new slug. -/
def slugConflict (agentId : Uuid) (agent : Agent) (slug : String) (row : Uuid × Agent) : Bool :=
  row.2.organizationId = agent.organizationId && row.2.projectId = agent.projectId &&
    row.2.slug = slug && row.1 ≠ agentId && row.2.deletedAt = none

/-- `uq_agents_project_slug`. -/
def slugDuplicate (agentId : Uuid) (agent : Agent) (row : Uuid × Agent) : Bool :=
  row.2.projectId = agent.projectId && row.2.slug = agent.slug && row.1 ≠ agentId

/-- A request that changes no field answers with the Agent and writes nothing. -/
def updateAgent (r : AgentRequest) (agent : Agent) (s : Rows) : Except Failure Rows := do
  let stored ← demand ((s.agents.get? r.agentId).filter (fun stored =>
      stored.organizationId = agent.organizationId && stored.projectId = agent.projectId &&
      stored.deletedAt = none))
    (apiError 404 "RESOURCE_NOT_FOUND" "The requested Agent was not found.")
  require (agent.version = r.expectedVersion)
    (apiError 409 "VERSION_CONFLICT" "The Agent changed before this update.")
  let changed := updatedAgent r agent
  require (changed.slug ≠ agent.slug → ∀ row ∈ s.agents.rows,
    slugConflict r.agentId agent changed.slug row = false) slugTaken
  if changedFields r.payload agent = [] then pure s
  else do
    let row := flushAgent agent changed stored
    require (∀ other ∈ s.agents.rows, slugDuplicate r.agentId row other = false) slugTaken
    pure { s with agents := s.agents.modify r.agentId (fun _ => row) }

end Agents
end RoozDataCloud.VersionedResources
