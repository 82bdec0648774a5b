import RoozDataCloud.CapabilityChecks
import RoozDataCloud.ExecutionSystem
import RoozDataCloud.KeyValueVaults
import RoozDataCloud.RequestQueues

set_option autoImplicit false

/-!
# What a worker does with the queue and the store of its lease

The requests that a worker makes under one lease: claims and completions in the queue
that its capability names, and reads and mutations of the run's default store.
-/
namespace RoozDataCloud.WorkerCalls
open KeyedTable ExecutionModels JsonDocuments SandboxSettings WorkerCapabilities CapabilityChecks
open FallibleSteps ExecutionSystem LeaseRequests RequestQueues
open Datasets (Json)
open KeyValueProtocol (decodeValue validateKvMutation)
open KeyValueStores (KeyValueMutationReceipt KeyValueRecord)
open KeyValueVaults (KeyValueRecordSummary Supply Vault newVault readObject recordMissing storedVersion)

section Queue
variable {e : Encoding} (settings : Settings e)

def queueProtocolInvalid (message : String) : Failure :=
  apiError 422 "REQUEST_QUEUE_WORKER_PROTOCOL_INVALID" message

/-- The queue of a request, which has to be the one of the capability. `queue` is that queue, if the
project of the lease has it. -/
def scopedQueue (e : Encoding) (capability : Members) (queueId : Uuid)
    (queue : Option RequestQueues.Rows) : Except Failure RequestQueues.Rows := do
  require (same (.text (e.uuidText queueId)) (member capability "queue_id") = true)
    (apiError 403 "WORKER_REQUEST_QUEUE_SCOPE_DENIED" "The Queue is outside this lease capability.")
  demand queue resourceNotFound

def uuidMember (e : Encoding) (payload : Members) (name message : String) : Except Failure Uuid :=
  demand (e.parseUuid (e.str (member payload name))) (queueProtocolInvalid message)

def claimWorkerQueueRequest (worker : SandboxWorker) (lease : ExecutionLease) (snapshot : Snapshot)
    (queue : Option RequestQueues.Rows) (payload : Json) (claim : ClaimCall) :
    Except Failure (RequestQueues.Rows × Option Uuid) := do
  let capability ← enabled settings worker lease snapshot
  let payload ← demand ((object? payload).filter (fun members => hasExactly members ["queue_id"]))
    (queueProtocolInvalid "Queue claim payload is invalid.")
  let queueId ← uuidMember e payload "queue_id" "Queue claim payload is invalid."
  let rows ← scopedQueue e capability queueId queue
  let (loaded, rows) ← reclaimExpiredRequests claim rows.queue rows
  let (_, rows, claimed) ← claimNextRequest claim loaded rows
  pure (rows, claimed)

def completionFields : List String :=
  ["queue_id", "request_id", "claim_token", "status", "failure_code", "failure_summary"]

def outcomeOf (status : Json) : Option RequestQueues.Outcome :=
  match text? status with
  | some "HANDLED" => some .handled
  | some "FAILED" => some .failed
  | _ => none

/-- A value that Python takes for true. A float is zero if it has no other digit. -/
def truthy : Json → Bool
  | .null => false
  | .bool b => b
  | .int n => decide (n ≠ 0)
  | .float _ text => text.toList.any (fun c => c.isAlphanum && decide (c ≠ '0'))
  | .text text => decide (text ≠ "")
  | .list items => !items.isEmpty
  | .object members => !members.isEmpty

def givenText (e : Encoding) (value : Json) : Option String :=
  if truthy value then some (e.str value) else none

def completeWorkerQueueRequest (worker : SandboxWorker) (workerId : Uuid) (lease : ExecutionLease)
    (snapshot : Snapshot) (queue : Option RequestQueues.Rows) (payload : Json) (now : Time) :
    Except Failure RequestQueues.Rows := do
  let capability ← enabled settings worker lease snapshot
  let payload ← demand ((object? payload).filter (fun members => hasExactly members completionFields))
    (queueProtocolInvalid "Queue completion payload is invalid.")
  let outcome ← demand (outcomeOf (member payload "status"))
    (queueProtocolInvalid "Queue completion payload is invalid.")
  let queueId ← uuidMember e payload "queue_id" "Queue completion payload is invalid."
  let requestId ← uuidMember e payload "request_id" "Queue completion payload is invalid."
  let claimToken ← uuidMember e payload "claim_token" "Queue completion payload is invalid."
  let rows ← scopedQueue e capability queueId queue
  let request ← demand (rows.requests.get? requestId) resourceNotFound
  finishRequest
    { workerId := workerId
      requestId := requestId
      claimToken := claimToken
      outcome := outcome
      failureCode := givenText e (member payload "failure_code")
      failureSummary := givenText e (member payload "failure_summary")
      now := now } rows.queue request rows

end Queue

section Store

def maxValueBytes : ℕ := 1048576

def maxWorkerReadTotalBytes : ℕ := 262144

/-- One key of `_read_records`, with the bytes that the keys before it took. -/
def readWorkerRecord (e : Encoding) (vault : Vault) (key : String) (total : ℕ) :
    Except Failure (ℕ × Option KeyValueRecordSummary) :=
  match vault.rows.records.find? (fun _ record => record.key = key && !record.deleted) with
  | none => pure (total, none)
  | some (id, record) =>
    match storedVersion vault.rows id record with
    | some (versionId, ⟨_, _, .set stored⟩) => do
      require (stored.decodedBytes ≤ maxValueBytes) (apiError 500 "KV_STORAGE_LINEAGE_INVALID"
        "The Key-Value record exceeds the protocol limit.")
      require (total + stored.decodedBytes ≤ maxWorkerReadTotalBytes)
        (apiError 413 "KV_WORKER_READ_TOO_LARGE"
          "The requested Key-Value read exceeds the worker byte limit.")
      let raw ← readObject vault.objects (id, versionId) maxValueBytes
      require (raw.length = stored.decodedBytes ∧ e.sha256 raw = stored.valueSha256)
        (apiError 500 "KV_STORAGE_INTEGRITY_FAILED"
          "The Key-Value record failed storage integrity verification.")
      let value ← demand (decodeValue e.toValueCodec stored.encoding raw)
        (apiError 500 "KV_STORAGE_DECODE_FAILED" "The Key-Value record could not be safely decoded.")
      pure (total + raw.length, some
        { key := key
          version := record.currentVersion
          contentType := stored.contentType
          encoding := stored.encoding
          valueSha256 := stored.valueSha256
          sizeBytes := stored.decodedBytes
          value := value })
    | _ => .error (apiError 500 "KV_STORAGE_LINEAGE_INVALID"
        "The Key-Value record storage lineage is invalid.")

/-- `_read_records`: a key without a record is reported as missing. -/
def readRecords (e : Encoding) (vault : Vault) : List String → ℕ →
    Except Failure (List (String × Option KeyValueRecordSummary))
  | [], _ => pure []
  | key :: keys, total => do
    let (total, record) ← readWorkerRecord e vault key total
    let records ← readRecords e vault keys total
    pure ((key, record) :: records)

def readWorkerKeyValueRecords {e : Encoding} (settings : Settings e) (st : State)
    (worker : SandboxWorker) (lease : ExecutionLease) (snapshot : Snapshot) (store : Option Vault)
    (payload : Json) :
    Except Failure (List (String × Option KeyValueRecordSummary)) := do
  let (_, capability) ← workerRunContext settings st worker lease snapshot
  let validation ← (validateKvReadRequest e payload).mapError (apiError 422 "KV_WORKER_READ_INVALID")
  require (same (member capability "read_request_digest") (.text validation.requestDigest) = true)
    (apiError 403 "KV_WORKER_READ_INTENT_MISMATCH"
      "The KV read request does not match the immutable Run intent.")
  match store with
  | none => pure (validation.keys.map (fun key => (key, none)))
  | some vault => readRecords e vault validation.keys 0

/-- A mutation, with what the object storage answers it. -/
structure StoreCall where
  payload : Json
  storageError : Option (String × String)
  removalFails : Bool

/-- `mutate_worker_key_value_record` from its validation on. A store that the request creates is
gone again when the request fails; objects that it could not remove from an older store stay. -/
def mutateWorkerKeyValueRecord (e : Encoding) (supply : Supply) (store : Option Vault)
    (call : StoreCall) : Option Vault × Except Failure (KeyValueMutationReceipt × Bool) :=
  match validateKvMutation e.toValueCodec call.payload with
  | .error failure => (store, .error failure)
  | .ok v =>
    let request : KeyValueVaults.Request :=
      { payload := v.request
        requiredOperation := v.validation.operation.name
        storageError := call.storageError
        removalFails := call.removalFails }
    match store with
    | some vault =>
      let (vault, result) := KeyValueVaults.mutateRecord e.toValueCodec supply vault request
      (some vault, result)
    | none =>
      if v.validation.operation.tombstone then (none, .error recordMissing)
      else match KeyValueVaults.mutateRecord e.toValueCodec supply newVault request with
        | (vault, .ok result) => (some vault, .ok result)
        | (_, .error failure) => (none, .error failure)

end Store
end RoozDataCloud.WorkerCalls
