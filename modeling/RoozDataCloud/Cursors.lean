import RoozDataCloud.Base64
import RoozDataCloud.JsonTexts

set_option autoImplicit false

/-!
# Signed cursors

A cursor is the position of a page in a list: a document with the binding of the
page, its signature, and both in Base64. All cursors are signed with one key.
-/
namespace RoozDataCloud.Cursors
open ExecutionModels FallibleSteps JsonDocuments JsonTexts
open Datasets (Json)
open KeyValueProtocol (sorted sortedMembers logicalKeyValid)

/-- Exceptions of the standard library. -/
inductive PyError where
  | key | type | value | attribute
  deriving DecidableEq

/-- An `ApiError`, or an exception that nothing catches. -/
inductive CursorError where
  | api (failure : Failure)
  | uncaught (error : PyError)

def invalidCursor : CursorError :=
  .api (apiError 400 "INVALID_CURSOR" "The pagination cursor is invalid or expired.")

def asciiBytes (text : List Char) : List UInt8 := text.map (fun c => UInt8.ofNat c.toNat)

/-- A text that `json.dumps` does not escape. -/
def simple (s : String) : Bool := s.toList.all (fun c => escape true c == [c])

/-- The key, and what the standard library makes of texts. `urlsafe_b64decode` gets the padding that
is missing and skips what is not in its alphabet. -/
structure Signing (Id Stamp : Type) where
  b64decode : String → Option (List UInt8)
  sign : List UInt8 → List UInt8
  loads : List UInt8 → Option Json
  str : Json → String
  uuidText : Id → String
  parseUuid : String → Option Id
  isoformat : Stamp → String
  fromisoformat : String → Option Stamp
  decode_encode : ∀ bytes, b64decode (Base64.encode bytes) = some bytes
  sign_length : ∀ payload, (sign payload).length = 32
  loads_dumps : ∀ v, floatless v = true → loads (asciiBytes (dumps true v)) = some (sorted v)
  str_text : ∀ s, str (.text s) = s
  parse_uuidText : ∀ id, parseUuid (uuidText id) = some id
  uuidText_simple : ∀ id, simple (uuidText id) = true ∧ (uuidText id).length ≤ 36
  parse_isoformat : ∀ stamp, fromisoformat (isoformat stamp) = some stamp
  isoformat_simple : ∀ stamp, simple (isoformat stamp) = true ∧ (isoformat stamp).length ≤ 32

/-- Where a page begins. -/
inductive Position (Id Stamp : Type) where
  | at (createdAt : Stamp) (resourceId : Id)
  | sequence (n : ℤ)
  | key (text : String)
  | revision (n : ℤ)

def optionalText : Option String → Json
  | some text => .text text
  | none => .null

section Encoding
variable {Id Stamp : Type} (lib : Signing Id Stamp)

def uuid (id : Id) : Json := .text (lib.uuidText id)

def stamp (createdAt : Stamp) : Json := .text (lib.isoformat createdAt)

def payload (members : Members) : List UInt8 := asciiBytes (dumps true (.object members))

/-- `_encode_queue_cursor`, which the other encoders repeat. -/
def encodeQueueCursor (members : Members) : String :=
  Base64.encode (payload members ++ lib.sign (payload members))

/-- The document of a cursor of a list that is bound to what it lists. -/
def listDocument (kind : String) (binding : Members) (createdAt : Stamp) (resourceId : Id) :
    Members :=
  [("created_at", stamp lib createdAt), ("id", uuid lib resourceId), ("kind", .text kind)] ++
    binding ++ [("v", .int 1)]

def queueRequestBinding (queueId : Id) (status : Option String) : Members :=
  [("queue_id", uuid lib queueId), ("status", optionalText status)]

def requestQueueBinding (projectId : Id) : Members := [("project_id", uuid lib projectId)]

def transitionBinding (queueId : Id) (requestId : Option Id) : Members :=
  [("queue_id", uuid lib queueId), ("request_id", optionalText (requestId.map lib.uuidText))]

/-- The binding of the schedules and of the egress policies of a project. -/
def projectBinding (projectId : Id) (status : Option String) : Members :=
  [("project_id", uuid lib projectId), ("status", optionalText status)]

def triggerBinding (scheduleId : Id) (outcome : Option String) : Members :=
  [("outcome", optionalText outcome), ("schedule_id", uuid lib scheduleId)]

def eventBinding (projectId : Id) (eventType : Option String) : Members :=
  [("event_type", optionalText eventType), ("project_id", uuid lib projectId)]

def encodeCursor (createdAt : Stamp) (resourceId : Id) : String :=
  encodeQueueCursor lib [("created_at", stamp lib createdAt), ("id", uuid lib resourceId),
    ("v", .int 1)]

def encodeDatasetItemCursor (datasetId : Id) (sequence : ℤ) : Except PyError String := do
  require (1 ≤ sequence) .value
  pure (encodeQueueCursor lib [("dataset_id", uuid lib datasetId), ("kind", .text "dataset-items"),
    ("sequence", .int sequence), ("v", .int 1)])

def encodeKeyValueRecordCursor (storeId : Id) (key : String) : String :=
  encodeQueueCursor lib [("key", .text key), ("kind", .text "key-value-records"),
    ("store_id", uuid lib storeId), ("v", .int 1)]

def encodeQueueRequestCursor (queueId : Id) (status : Option String) (createdAt : Stamp)
    (resourceId : Id) : String :=
  encodeQueueCursor lib (listDocument lib "queue-requests" (queueRequestBinding lib queueId status)
    createdAt resourceId)

def encodeRequestQueueListCursor (projectId : Id) (createdAt : Stamp) (resourceId : Id) : String :=
  encodeQueueCursor lib (listDocument lib "request-queue-list" (requestQueueBinding lib projectId)
    createdAt resourceId)

def encodeQueueTransitionCursor (queueId : Id) (requestId : Option Id) (createdAt : Stamp)
    (resourceId : Id) : String :=
  encodeQueueCursor lib (listDocument lib "queue-transitions"
    (transitionBinding lib queueId requestId) createdAt resourceId)

def encodeScheduleListCursor (projectId : Id) (status : Option String) (createdAt : Stamp)
    (resourceId : Id) : String :=
  encodeQueueCursor lib (listDocument lib "schedule-list" (projectBinding lib projectId status)
    createdAt resourceId)

def encodeEgressPolicyListCursor (projectId : Id) (status : Option String) (createdAt : Stamp)
    (resourceId : Id) : String :=
  encodeQueueCursor lib (listDocument lib "egress-policy-list" (projectBinding lib projectId status)
    createdAt resourceId)

def encodeEgressPolicyRevisionCursor (policyId : Id) (revisionNumber : ℤ) : String :=
  encodeQueueCursor lib [("kind", .text "egress-policy-revisions"), ("policy_id", uuid lib policyId),
    ("revision_number", .int revisionNumber), ("v", .int 1)]

def encodeScheduleTriggerCursor (scheduleId : Id) (outcome : Option String) (createdAt : Stamp)
    (resourceId : Id) : String :=
  encodeQueueCursor lib (listDocument lib "schedule-triggers" (triggerBinding lib scheduleId outcome)
    createdAt resourceId)

def encodeEventCursor (projectId : Id) (eventType : Option String) (occurredAt : Stamp)
    (resourceId : Id) : String :=
  encodeQueueCursor lib [("event_type", optionalText eventType), ("id", uuid lib resourceId),
    ("kind", .text "project-events"), ("occurred_at", stamp lib occurredAt),
    ("project_id", uuid lib projectId), ("v", .int 1)]

end Encoding

/-- The `except` clause of a decoder. -/
def catching {α : Type} (caught : List PyError) (x : Except PyError α) : Except CursorError α :=
  x.mapError (fun error => if error ∈ caught then invalidCursor else .uncaught error)

/-- `data[key]` -/
def item (data : Json) (key : String) : Except PyError Json :=
  match data with
  | .object members => demand (members.lookup key) .key
  | _ => .error .type

/-- The members of `data`, which `data.get` asks for. -/
def gettable : Json → Except PyError Members
  | .object members => pure members
  | _ => .error .attribute

section Decoding
variable {Id Stamp : Type} (lib : Signing Id Stamp)

/-- A cursor that is encoded canonically, as its payload and its signature. `compare_digest` takes
ASCII texts only. -/
def split (value : String) : Except PyError (List UInt8 × List UInt8) := do
  let decoded ← demand (lib.b64decode value) .value
  require (value.toList.all (fun c => c.toNat < 128) = true) .type
  require (Base64.encode decoded = value) .value
  require (32 < decoded.length) .value
  pure (decoded.take (decoded.length - 32), decoded.drop (decoded.length - 32))

/-- A payload is read when its signature is right. -/
def signedData (value : String) : Except PyError Json := do
  let (payload, supplied) ← split lib value
  require (supplied = lib.sign payload) .value
  demand (lib.loads payload) .value

/-- In `_decode_queue_cursor` the payload is read before its signature is compared. -/
def queueData (value : String) : Except PyError Members := do
  let (payload, supplied) ← split lib value
  let data ← demand (lib.loads payload) .value
  require (supplied = lib.sign payload) .value
  demand (object? data) .value

/-- The length check, and the `except` clause around what follows it. -/
def reading {α : Type} (caught : List PyError) (read : String → Except PyError α) (value : String) :
    Except CursorError α := do
  require (value ≠ "" ∧ value.length ≤ 512) invalidCursor
  catching caught (read value)

def decodeQueueCursor (value : String) : Except CursorError Members :=
  reading [.type, .value] (queueData lib) value

def readAt (data : Json) (field : String) : Except PyError (Position Id Stamp) := do
  let createdAt ← item data field
  let createdAt ← demand (lib.fromisoformat (lib.str createdAt)) .value
  let resourceId ← item data "id"
  let resourceId ← demand (lib.parseUuid (lib.str resourceId)) .value
  pure (.at createdAt resourceId)

def cursorPosition (data : Json) : Except PyError (Position Id Stamp) := do
  let members ← gettable data
  require (same (member members "v") (.int 1) = true) .value
  readAt lib data "created_at"

/-- `isinstance(raw, int) and not isinstance(raw, bool) and raw >= 1` -/
def positive (raw : Json) : Option ℤ := (int? raw).filter (1 ≤ ·)

def datasetItemPosition (datasetId : Id) (data : Json) : Except PyError (Position Id Stamp) := do
  let raw ← item data "sequence"
  let members ← gettable data
  require (same (member members "v") (.int 1) = true ∧
    same (member members "kind") (.text "dataset-items") = true ∧
    same (member members "dataset_id") (uuid lib datasetId) = true) .value
  let sequence ← demand (positive raw) .value
  pure (.sequence sequence)

def keyValueRecordPosition (storeId : Id) (data : Json) : Except PyError (Position Id Stamp) := do
  let raw ← item data "key"
  let members ← gettable data
  require (same (member members "v") (.int 1) = true ∧
    same (member members "kind") (.text "key-value-records") = true ∧
    same (member members "store_id") (uuid lib storeId) = true) .value
  let key ← demand ((text? raw).filter (· ≠ "")) .value
  pure (.key key)

/-- The position in a list that is bound to what it lists, with nothing else in the document. -/
def boundPosition (field kind : String) (binding data : Members) :
    Except PyError (Position Id Stamp) := do
  require (hasExactly data (field :: "id" :: "kind" :: "v" :: binding.map Prod.fst) = true ∧
    same (member data "v") (.int 1) = true ∧ same (member data "kind") (.text kind) = true ∧
    ∀ entry ∈ binding, same (member data entry.1) entry.2 = true) .value
  readAt lib (.object data) field

def revisionPosition (policyId : Id) (data : Members) : Except PyError (Position Id Stamp) := do
  require (hasExactly data ["kind", "policy_id", "revision_number", "v"] = true ∧
    same (member data "v") (.int 1) = true ∧
    same (member data "kind") (.text "egress-policy-revisions") = true ∧
    same (member data "policy_id") (uuid lib policyId) = true) .value
  let revision ← demand (positive (member data "revision_number")) .value
  pure (.revision revision)

/-- A cursor that is not given begins with the first page. -/
def given {α : Type} (decode : String → Except CursorError α) :
    Option String → Except CursorError (Option α)
  | none => pure none
  | some value => some <$> decode value

def signed (position : Json → Except PyError (Position Id Stamp)) (value : String) :
    Except CursorError (Position Id Stamp) :=
  reading [.key, .type, .value] (fun value => do position (← signedData lib value)) value

def decodeCursor := given (signed lib (cursorPosition lib))

def decodeDatasetItemCursor (datasetId : Id) := given (signed lib (datasetItemPosition lib datasetId))

def decodeKeyValueRecordCursor (storeId : Id) :=
  given (signed lib (keyValueRecordPosition lib storeId))

def bound (caught : List PyError) (position : Members → Except PyError (Position Id Stamp))
    (value : String) : Except CursorError (Position Id Stamp) := do
  let data ← decodeQueueCursor lib value
  catching caught (position data)

def decodeListCursor (field kind : String) (binding : Members) :=
  given (bound lib [.key, .type, .value] (boundPosition lib field kind binding))

def decodeQueueRequestCursor (queueId : Id) (status : Option String) :=
  decodeListCursor lib "created_at" "queue-requests" (queueRequestBinding lib queueId status)

def decodeRequestQueueListCursor (projectId : Id) :=
  decodeListCursor lib "created_at" "request-queue-list" (requestQueueBinding lib projectId)

def decodeQueueTransitionCursor (queueId : Id) (requestId : Option Id) :=
  decodeListCursor lib "created_at" "queue-transitions" (transitionBinding lib queueId requestId)

def decodeScheduleListCursor (projectId : Id) (status : Option String) :=
  decodeListCursor lib "created_at" "schedule-list" (projectBinding lib projectId status)

def decodeEgressPolicyListCursor (projectId : Id) (status : Option String) :=
  decodeListCursor lib "created_at" "egress-policy-list" (projectBinding lib projectId status)

def decodeEgressPolicyRevisionCursor (policyId : Id) :=
  given (bound lib [.type, .value] (revisionPosition lib policyId))

def decodeScheduleTriggerCursor (scheduleId : Id) (outcome : Option String) :=
  decodeListCursor lib "created_at" "schedule-triggers" (triggerBinding lib scheduleId outcome)

def decodeEventCursor (projectId : Id) (eventType : Option String) :=
  decodeListCursor lib "occurred_at" "project-events" (eventBinding lib projectId eventType)

end Decoding
end RoozDataCloud.Cursors
