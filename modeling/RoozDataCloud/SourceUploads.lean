import RoozDataCloud.VersionedResources

set_option autoImplicit false

/-!
# Completing a source upload

A request inspects what was uploaded under the object key and marks the storage
object available or rejected. The rows belong to the session of the request,
which is committed when the handler returns and rolled back when it raises; the
bucket is outside of it.
-/
namespace RoozDataCloud.SourceUploads
open KeyedTable FallibleSteps VersionedResources
open ExecutionModels hiding StorageObject Agent EgressPolicy EgressPolicyRevision

inductive ScanStatus where
  | pending | passed | failed | notRequired
  deriving DecidableEq

structure StorageObject where
  organizationId : Uuid
  projectId : Uuid
  agentId : Option Uuid
  objectKey : String
  mediaType : String
  expectedSizeBytes : ℕ
  sizeBytes : Option ℕ
  expectedSha256Digest : String
  sha256Digest : Option String
  status : StorageStatus
  scanStatus : ScanStatus
  rejectionCode : Option String
  metadataJson : Payload
  uploadedAt : Option Time
  availableAt : Option Time
  rejectedAt : Option Time

inductive StorageOperation where
  | upload | download
  deriving DecidableEq

structure StorageGrant where
  storageObjectId : Uuid
  operation : StorageOperation
  completedAt : Option Time

structure AuditEvent where
  organizationId : Option Uuid
  projectId : Option Uuid
  actorType : String
  actorId : String
  action : String
  resourceType : String
  resourceId : Option String
  requestId : String
  details : Payload
  createdAt : Time

structure Tables where
  objects : Table Uuid StorageObject
  grants : Table Uuid StorageGrant
  agents : Table Uuid Agent
  auditEvents : List AuditEvent

/-- An object of the bucket. The keys of its metadata are case folded. -/
structure StoredObject where
  contentType : String
  metadata : List (String × String)
  content : List UInt8

structure World where
  db : Tables
  bucket : String → Option StoredObject

structure StorageBackendError where
  code : String
  message : String

structure SourceArchiveError where
  code : String
  message : String

structure SourceArchiveInspection where
  manifest : Payload
  manifestDigest : String
  fileCount : ℕ
  expandedSizeBytes : ℕ
  compressedSizeBytes : ℕ
  paths : List String

inductive UploadError where
  | backend (e : StorageBackendError)
  | archive (e : SourceArchiveError)

/-- The functions the service is built on: `str` of an identifier, SHA-256 in hex, and
`inspect_source_archive` under the configured limits. -/
structure Delivery where
  uuidText : Uuid → String
  sha256 : List UInt8 → String
  sourceArchiveMaxBytes : ℕ
  inspectSourceArchive : List UInt8 → String → Except SourceArchiveError SourceArchiveInspection

/-- One request, with the failures of the bucket that it meets and an upload that lands between its
two reads of the bucket. -/
structure CompleteRequest where
  storageObjectId : Uuid
  actorType : String
  actorId : String
  requestId : String
  now : Time
  headFault : Option StorageBackendError
  readFault : Option StorageBackendError
  deleteFault : Option StorageBackendError
  landing : Option StoredObject

def raiseFault : Option StorageBackendError → Except UploadError Unit
  | some e => .error (.backend e)
  | none => .ok ()

def headObject (r : CompleteRequest) (bucket : String → Option StoredObject) (key : String) :
    Except UploadError StoredObject := do
  raiseFault r.headFault
  demand (bucket key) (.backend
    { code := "STORAGE_OBJECT_NOT_UPLOADED", message := "The expected object has not been uploaded." })

def readObject (r : CompleteRequest) (bucket : String → Option StoredObject) (key : String)
    (maxBytes : ℕ) : Except UploadError (List UInt8) := do
  raiseFault r.readFault
  let object ← demand (bucket key) (.backend
    { code := "STORAGE_UNAVAILABLE", message := "Object storage content could not be read." })
  require (object.content.length ≤ maxBytes) (.backend
    { code := "STORAGE_OBJECT_TOO_LARGE", message := "The stored object exceeds the configured limit." })
  pure object.content

def archiveError (code message : String) : UploadError := .archive { code := code, message := message }

/-- The bucket at the second read of a request. -/
def landed (r : CompleteRequest) (key : String) (bucket : String → Option StoredObject) :
    String → Option StoredObject :=
  match r.landing with
  | some object => Function.update bucket key (some object)
  | none => bucket

def sourceAgent (agents : Table Uuid Agent) (record : StorageObject) : Option Agent := do
  let agent ← agents.get? (← record.agentId)
  if agent.organizationId = record.organizationId ∧ agent.projectId = record.projectId ∧
    agent.deletedAt = none then some agent else none

structure Inspected where
  content : List UInt8
  actualDigest : String
  inspection : SourceArchiveInspection

/-- The `try` block of `complete_source_upload`. -/
def inspectUpload (d : Delivery) (r : CompleteRequest) (id : Uuid) (record : StorageObject)
    (w : World) : Except UploadError Inspected := do
  let head ← headObject r w.bucket record.objectKey
  require (head.content.length = record.expectedSizeBytes) (archiveError "STORAGE_SIZE_MISMATCH"
    "The uploaded object size does not match the upload intent.")
  require (head.contentType = record.mediaType) (archiveError "STORAGE_MEDIA_TYPE_MISMATCH"
    "The uploaded object media type does not match the upload intent.")
  require (head.metadata.lookup "rdc-object-id" = some (d.uuidText id))
    (archiveError "STORAGE_METADATA_MISMATCH" "The uploaded object identity metadata is invalid.")
  require (head.metadata.lookup "sha256" = some record.expectedSha256Digest)
    (archiveError "STORAGE_METADATA_MISMATCH" "The uploaded object digest metadata is invalid.")
  let content ← readObject r (landed r record.objectKey w.bucket) record.objectKey
    d.sourceArchiveMaxBytes
  let actualDigest := d.sha256 content
  require (actualDigest = record.expectedSha256Digest) (archiveError "STORAGE_DIGEST_MISMATCH"
    "The uploaded source archive digest does not match the upload intent.")
  let agent ← demand (sourceAgent w.db.agents record) (archiveError "SOURCE_AGENT_UNAVAILABLE"
    "The target Agent is unavailable.")
  match d.inspectSourceArchive content agent.slug with
  | .ok inspection =>
    pure { content := content, actualDigest := actualDigest, inspection := inspection }
  | .error e => .error (.archive e)

def auditEvent (d : Delivery) (r : CompleteRequest) (record : StorageObject) (action : String)
    (details : Payload) : AuditEvent where
  organizationId := some record.organizationId
  projectId := some record.projectId
  actorType := r.actorType
  actorId := r.actorId
  action := action
  resourceType := "storage_object"
  resourceId := some (d.uuidText r.storageObjectId)
  requestId := r.requestId
  details := details
  createdAt := r.now

def rejected (now : Time) (e : SourceArchiveError) (record : StorageObject) : StorageObject :=
  { record with
    status := .rejected
    scanStatus := .failed
    rejectionCode := some e.code
    rejectedAt := some now
    metadataJson := [("rejection_message", .text e.message)] }

/-- What the handler of a `SourceArchiveError` does before it raises. -/
def rejectUpload (d : Delivery) (r : CompleteRequest) (record : StorageObject)
    (e : SourceArchiveError) (w : World) : World where
  db :=
    { w.db with
      objects := w.db.objects.modify r.storageObjectId (rejected r.now e)
      auditEvents := w.db.auditEvents ++
        [auditEvent d r record "storage.source_rejected" [("code", .text e.code)]] }
  bucket :=
    match r.deleteFault with
    | some _ => w.bucket
    | none => Function.update w.bucket record.objectKey none

def inspectionPayload (inspection : SourceArchiveInspection) : Payload :=
  [("manifest", .object inspection.manifest), ("manifest_digest", .text inspection.manifestDigest),
    ("file_count", .int inspection.fileCount),
    ("expanded_size_bytes", .int inspection.expandedSizeBytes),
    ("compressed_size_bytes", .int inspection.compressedSizeBytes),
    ("paths", .array ((inspection.paths.take 1000).map .text)),
    ("paths_truncated", .bool (decide (1000 < inspection.paths.length)))]

def available (now : Time) (found : Inspected) (record : StorageObject) : StorageObject :=
  { record with
    sizeBytes := some found.content.length
    sha256Digest := some found.actualDigest
    status := .available
    scanStatus := .passed
    uploadedAt := some now
    availableAt := some now
    rejectionCode := none
    metadataJson := inspectionPayload found.inspection }

def completeGrant (id : Uuid) (now : Time) (grant : StorageGrant) : StorageGrant :=
  if grant.storageObjectId = id ∧ grant.operation = .upload ∧ grant.completedAt = none then
    { grant with completedAt := some now }
  else grant

def acceptUpload (d : Delivery) (r : CompleteRequest) (record : StorageObject) (found : Inspected)
    (db : Tables) : Tables :=
  { db with
    objects := db.objects.modify r.storageObjectId (available r.now found)
    grants := db.grants.mapRows (fun _ => completeGrant r.storageObjectId r.now)
    auditEvents := db.auditEvents ++ [auditEvent d r record "storage.source_available"
      [("sha256_digest", .text found.actualDigest),
        ("manifest_digest", .text found.inspection.manifestDigest),
        ("file_count", .int found.inspection.fileCount)]] }

def storageError (e : StorageBackendError) : Failure :=
  apiError (if e.code = "STORAGE_OBJECT_NOT_UPLOADED" then 409 else 503) e.code e.message

def objectNotFound : Failure :=
  apiError 404 "RESOURCE_NOT_FOUND" "The requested storage object was not found."

def stateConflict : Failure :=
  apiError 409 "STORAGE_OBJECT_STATE_CONFLICT"
    "The source object cannot be completed in its current state."

def completeSourceUpload (d : Delivery) (r : CompleteRequest) : EStateM Failure World StorageObject :=
  fun w =>
    match w.db.objects.get? r.storageObjectId with
    | none => .error objectNotFound w
    | some record =>
      match record.status with
      | .available => .ok record w
      | .rejected | .deleted => .error stateConflict w
      | .pendingUpload | .quarantined =>
        let w' : World := { w with bucket := landed r record.objectKey w.bucket }
        match inspectUpload d r r.storageObjectId record w with
        | .error (.backend e) => .error (storageError e) w'
        | .error (.archive e) => .error (apiError 422 e.code e.message) (rejectUpload d r record e w')
        | .ok found =>
          -- The flush of an accepted object checks that its size is positive.
          if 0 < found.content.length then
            .ok (available r.now found record) { w' with db := acceptUpload d r record found w.db }
          else .error (.integrity "ck_storage_objects_positive_size") w'

/-- The session of a request: committed when the handler returns, rolled back when it raises. The
bucket keeps what was done to it. -/
def getDb {α : Type} (handler : EStateM Failure World α) (w : World) : World :=
  match handler w with
  | .ok _ w' => w'
  | .error _ w' => { w' with db := w.db }

inductive Op where
  | complete (r : CompleteRequest)
  | put (key : String) (object : StoredObject)
  | setAgents (agents : Table Uuid Agent)

/-- Requests to complete an upload; between them anything is uploaded and agents change. -/
def step (d : Delivery) (w : World) : Op → World
  | .complete r => getDb (completeSourceUpload d r) w
  | .put key object => { w with bucket := Function.update w.bucket key (some object) }
  | .setAgents agents => { w with db := { w.db with agents := agents } }

end RoozDataCloud.SourceUploads
