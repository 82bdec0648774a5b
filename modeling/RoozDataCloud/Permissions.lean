import RoozDataCloud.ExecutionModels

set_option autoImplicit false

/-!
# Permissions, roles and scopes
-/
namespace RoozDataCloud.Permissions
open ExecutionModels FallibleSteps

inductive Permission where
  | organizationRead | organizationUpdate | membershipRead | membershipInvite
  | membershipUpdateRole | membershipRemove | projectCreate | projectRead | projectUpdate
  | projectDelete | agentCreate | agentRead | agentUpdate | agentVersionCreate | buildCreate
  | buildRead | runCreate | runRead | runCancel | executionRead | storageRead | storageUpload
  | storageDownload | datasetCreate | datasetRead | datasetWrite | datasetExport | kvCreate
  | kvRead | kvWrite | kvDelete | queueCreate | queueRead | queueEnqueue | egressCreate
  | egressRead | egressUpdate | scheduleCreate | scheduleRead | scheduleUpdate
  | secretReadMetadata | secretCreate | secretReplace | secretDelete | apiKeyCreate
  | apiKeyReadMetadata | apiKeyRevoke | auditRead | eventRead | diagnosticRead | webhookCreate
  | webhookRead | webhookUpdate
  deriving DecidableEq

/-- The permission as requests and stored scopes spell it. -/
def Permission.scope : Permission → String
  | organizationRead => "organization.read"
  | organizationUpdate => "organization.update"
  | membershipRead => "membership.read"
  | membershipInvite => "membership.invite"
  | membershipUpdateRole => "membership.update_role"
  | membershipRemove => "membership.remove"
  | projectCreate => "project.create"
  | projectRead => "project.read"
  | projectUpdate => "project.update"
  | projectDelete => "project.delete"
  | agentCreate => "agent.create"
  | agentRead => "agent.read"
  | agentUpdate => "agent.update"
  | agentVersionCreate => "agent.version_create"
  | buildCreate => "build.create"
  | buildRead => "build.read"
  | runCreate => "run.create"
  | runRead => "run.read"
  | runCancel => "run.cancel"
  | executionRead => "execution.read"
  | storageRead => "storage.read"
  | storageUpload => "storage.upload"
  | storageDownload => "storage.download"
  | datasetCreate => "dataset.create"
  | datasetRead => "dataset.read"
  | datasetWrite => "dataset.write"
  | datasetExport => "dataset.export"
  | kvCreate => "kv.create"
  | kvRead => "kv.read"
  | kvWrite => "kv.write"
  | kvDelete => "kv.delete"
  | queueCreate => "queue.create"
  | queueRead => "queue.read"
  | queueEnqueue => "queue.enqueue"
  | egressCreate => "egress.create"
  | egressRead => "egress.read"
  | egressUpdate => "egress.update"
  | scheduleCreate => "schedule.create"
  | scheduleRead => "schedule.read"
  | scheduleUpdate => "schedule.update"
  | secretReadMetadata => "secret.read_metadata"
  | secretCreate => "secret.create"
  | secretReplace => "secret.replace"
  | secretDelete => "secret.delete"
  | apiKeyCreate => "api_key.create"
  | apiKeyReadMetadata => "api_key.read_metadata"
  | apiKeyRevoke => "api_key.revoke"
  | auditRead => "audit.read"
  | eventRead => "event.read"
  | diagnosticRead => "diagnostic.read"
  | webhookCreate => "webhook.create"
  | webhookRead => "webhook.read"
  | webhookUpdate => "webhook.update"

def permissions : List Permission :=
  [ .organizationRead, .organizationUpdate, .membershipRead, .membershipInvite,
    .membershipUpdateRole, .membershipRemove, .projectCreate, .projectRead, .projectUpdate,
    .projectDelete, .agentCreate, .agentRead, .agentUpdate, .agentVersionCreate, .buildCreate,
    .buildRead, .runCreate, .runRead, .runCancel, .executionRead, .storageRead, .storageUpload,
    .storageDownload, .datasetCreate, .datasetRead, .datasetWrite, .datasetExport, .kvCreate,
    .kvRead, .kvWrite, .kvDelete, .queueCreate, .queueRead, .queueEnqueue, .egressCreate,
    .egressRead, .egressUpdate, .scheduleCreate, .scheduleRead, .scheduleUpdate,
    .secretReadMetadata, .secretCreate, .secretReplace, .secretDelete, .apiKeyCreate,
    .apiKeyReadMetadata, .apiKeyRevoke, .auditRead, .eventRead, .diagnosticRead, .webhookCreate,
    .webhookRead, .webhookUpdate ]

inductive Role where
  | owner | administrator | developer | analyst | operator | viewer | billingManager
  deriving DecidableEq

def rolePermissions : Role → List Permission
  | .owner => permissions
  | .administrator => permissions.filter (fun permission => permission.scope ≠ "organization.delete")
  | .developer =>
    [ .organizationRead, .membershipRead, .projectCreate, .projectRead, .projectUpdate,
      .agentCreate, .agentRead, .agentUpdate, .agentVersionCreate, .buildCreate, .buildRead,
      .runCreate, .runRead, .runCancel, .executionRead, .storageRead, .storageUpload,
      .storageDownload, .datasetCreate, .datasetRead, .datasetWrite, .datasetExport, .kvCreate,
      .kvRead, .kvWrite, .kvDelete, .queueCreate, .queueRead, .queueEnqueue, .egressCreate,
      .egressRead, .egressUpdate, .scheduleCreate, .scheduleRead, .scheduleUpdate,
      .secretReadMetadata, .secretCreate, .secretReplace, .secretDelete, .apiKeyCreate,
      .apiKeyReadMetadata, .apiKeyRevoke, .eventRead, .diagnosticRead, .webhookCreate,
      .webhookRead, .webhookUpdate ]
  | .analyst =>
    [ .organizationRead, .membershipRead, .projectRead, .agentRead, .buildRead, .runRead,
      .executionRead, .storageRead, .storageDownload, .datasetRead, .datasetExport, .kvRead,
      .queueRead, .egressRead, .scheduleRead, .apiKeyReadMetadata, .eventRead, .diagnosticRead,
      .webhookRead ]
  | .operator =>
    [ .organizationRead, .membershipRead, .projectRead, .agentRead, .buildRead, .runCreate,
      .runRead, .runCancel, .executionRead, .storageRead, .storageDownload, .datasetRead,
      .datasetExport, .kvRead, .queueRead, .scheduleRead, .egressRead, .eventRead,
      .diagnosticRead, .webhookRead, .webhookUpdate ]
  | .viewer =>
    [ .organizationRead, .projectRead, .agentRead, .buildRead, .runRead, .executionRead,
      .storageRead, .storageDownload, .datasetRead, .datasetExport, .kvRead, .queueRead,
      .scheduleRead, .egressRead, .eventRead, .diagnosticRead, .webhookRead ]
  | .billingManager =>
    [ .organizationRead ]

def roleHasPermission (role : Role) (permission : Permission) : Bool :=
  permission ∈ rolePermissions role

def parseScope (scope : String) : Option Permission :=
  permissions.find? (fun permission => permission.scope = scope)

def invalidScopes (invalid : List String) : Failure :=
  .api 422 "VALIDATION_FAILED" "One or more API-key scopes are invalid."
    [("reason", .text ("Unknown API-key scopes: " ++ ", ".intercalate invalid))]

def normalizeScopes (scopes : List String) : List String := scopes.dedup.insertionSort (· ≤ ·)

def validateScopes (scopes : List String) : Except Failure (List Permission) :=
  let normalized := normalizeScopes scopes
  let invalid := normalized.filter (fun scope => (parseScope scope).isNone)
  if invalid = [] then .ok (normalized.filterMap parseScope) else .error (invalidScopes invalid)

end RoozDataCloud.Permissions
