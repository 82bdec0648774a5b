import RoozDataCloud.ExecutionModels
import RoozDataCloud.ReadCommitted

set_option autoImplicit false

/-!
# Records of a key-value store

The rows of one store. A record points at its current version; the store row
keeps how many records are live and how many bytes they have.
-/
namespace RoozDataCloud.KeyValueStores
open KeyedTable ExecutionModels FallibleSteps ReadCommitted

def maxKvRecords : ℤ := 10000

def maxKvStoreBytes : ℤ := 268435456

structure StoredValue where
  contentType : String
  encoding : String
  valueSha256 : String
  decodedBytes : ℕ

inductive Operation where
  | set (value : StoredValue)
  | delete

namespace Operation

def name : Operation → String
  | set _ => "set"
  | delete => "delete"

def tombstone : Operation → Bool
  | set _ => false
  | delete => true

def sizeBytes : Operation → ℕ
  | set value => value.decodedBytes
  | delete => 0

theorem tombstone_size : (operation : Operation) → operation.tombstone = true →
    operation.sizeBytes = 0
  | delete, _ => rfl

end Operation

structure ValidatedKVMutation where
  idempotencyKey : String
  requestDigest : String
  operation : Operation
  key : String
  expectedVersion : Option ℕ

structure KeyValueStore where
  recordCount : ℤ
  totalBytes : ℤ
  version : ℕ

structure KeyValueRecord where
  key : String
  currentVersion : ℕ
  deleted : Bool
  currentSizeBytes : ℕ
  version : ℕ
  deleted_size : deleted = true → currentSizeBytes = 0

/-- The operation is kept whole: a set has its value's columns, a delete has none of them. -/
structure KeyValueRecordVersion where
  recordId : Uuid
  version : ℕ
  operation : Operation

structure KeyValueMutationReceipt where
  recordId : Uuid
  recordVersionId : Uuid
  idempotencyKey : String
  requestDigest : String
  operation : Operation
  key : String
  expectedVersion : Option ℕ
  resultVersion : ℕ

structure Rows where
  store : KeyValueStore
  records : Table Uuid KeyValueRecord
  versions : Table Uuid KeyValueRecordVersion
  receipts : Table Uuid KeyValueMutationReceipt

/-- A request: its payload, the operation its endpoint is for, the identifiers it draws, and the
error the object storage answers it with, if it does. -/
structure Mutation where
  validation : ValidatedKVMutation
  requiredOperation : String
  recordId : Uuid
  versionId : Uuid
  receiptId : Uuid
  storageError : Option (String × String)

def versionConflict (expectedVersion : ℕ) (currentVersion : Option ℕ) : Failure :=
  apiError 409 "KV_VERSION_CONFLICT" ("The Key-Value record version precondition failed. Expected " ++
    toString expectedVersion ++ "; current version is " ++ currentVersion.elim "absent" toString ++
    ".")

def enforceExpectedVersion (validation : ValidatedKVMutation) (record : Option KeyValueRecord) :
    Except Failure Unit :=
  match validation.expectedVersion with
  | none => pure ()
  | some 0 => require (record.isNone = true) (versionConflict 0 (record.map (·.currentVersion)))
  | some expected =>
    require (record.map (·.currentVersion) = some expected)
      (versionConflict expected (record.map (·.currentVersion)))

/-- The totals that the store is to have after a mutation. -/
structure Projection where
  recordCount : ℤ
  totalBytes : ℤ

def projectSet (store : KeyValueStore) (current : Option KeyValueRecord) (value : StoredValue) :
    Except Failure Projection := do
  let live := current.filter (fun record => !record.deleted)
  let count := if live.isSome then store.recordCount else store.recordCount + 1
  let bytes := store.totalBytes - live.elim 0 (fun record => (record.currentSizeBytes : ℤ)) +
    value.decodedBytes
  require (count ≤ maxKvRecords) (apiError 413 "KV_RECORD_QUOTA_EXCEEDED"
    "The Key-Value Store record quota would be exceeded.")
  require (bytes ≤ maxKvStoreBytes) (apiError 413 "KV_BYTE_QUOTA_EXCEEDED"
    "The Key-Value Store byte quota would be exceeded.")
  pure ⟨count, bytes⟩

def projectDelete (store : KeyValueStore) (current : Option KeyValueRecord) :
    Except Failure Projection := do
  let record ← demand current (apiError 404 "KV_RECORD_NOT_FOUND"
    "The Key-Value record does not exist.")
  require (record.deleted = false) (apiError 409 "KV_RECORD_ALREADY_DELETED"
    "The Key-Value record is already deleted.")
  pure ⟨store.recordCount - 1, store.totalBytes - record.currentSizeBytes⟩

def project (store : KeyValueStore) (current : Option KeyValueRecord) :
    Operation → Except Failure Projection
  | .set value => projectSet store current value
  | .delete => projectDelete store current

/-- Only a set has an object to upload. -/
def storeObject (mutation : Mutation) : Except Failure Unit :=
  match mutation.validation.operation, mutation.storageError with
  | .set _, some (code, message) => throw (apiError 503 code message)
  | _, _ => pure ()

def createdRecord (key : String) (operation : Operation) : KeyValueRecord where
  key := key
  currentVersion := 1
  deleted := operation.tombstone
  currentSizeBytes := operation.sizeBytes
  version := 1
  deleted_size := operation.tombstone_size

def advancedRecord (record : KeyValueRecord) (operation : Operation) : KeyValueRecord where
  key := record.key
  currentVersion := record.currentVersion + 1
  deleted := operation.tombstone
  currentSizeBytes := operation.sizeBytes
  version := record.version + 1
  deleted_size := operation.tombstone_size

section Write
variable (mutation : Mutation) (current : Option (Uuid × KeyValueRecord))

def targetId : Uuid := current.elim mutation.recordId Prod.fst

def writtenRecord : KeyValueRecord :=
  current.elim (createdRecord mutation.validation.key mutation.validation.operation)
    (fun row => advancedRecord row.2 mutation.validation.operation)

def nextVersion : ℕ := (writtenRecord mutation current).currentVersion

def writeRecord (records : Table Uuid KeyValueRecord) :
    Except Failure (Table Uuid KeyValueRecord) :=
  match current with
  | some (id, _) => pure (records.modify id (fun _ => writtenRecord mutation current))
  | none => do
    require ((records.find? (fun _ record => record.key = mutation.validation.key)).isNone = true)
      (.integrity "uq_key_value_records_store_key")
    demand (records.insert? mutation.recordId (writtenRecord mutation current))
      (.integrity "key_value_records_pkey")

def writeVersion (versions : Table Uuid KeyValueRecordVersion) :
    Except Failure (Table Uuid KeyValueRecordVersion) := do
  require ((versions.find? (fun _ row => row.recordId = targetId mutation current &&
    row.version = nextVersion mutation current)).isNone = true)
    (.integrity "uq_key_value_record_versions_record_version")
  demand (versions.insert? mutation.versionId
    ⟨targetId mutation current, nextVersion mutation current, mutation.validation.operation⟩)
    (.integrity "key_value_record_versions_pkey")

def issuedReceipt : KeyValueMutationReceipt where
  recordId := targetId mutation current
  recordVersionId := mutation.versionId
  idempotencyKey := mutation.validation.idempotencyKey
  requestDigest := mutation.validation.requestDigest
  operation := mutation.validation.operation
  key := mutation.validation.key
  expectedVersion := mutation.validation.expectedVersion
  resultVersion := nextVersion mutation current

def findReceipt (receipts : Table Uuid KeyValueMutationReceipt) :
    Option (Uuid × KeyValueMutationReceipt) :=
  receipts.find? (fun _ receipt => receipt.idempotencyKey = mutation.validation.idempotencyKey)

def findRecord (records : Table Uuid KeyValueRecord) : Option (Uuid × KeyValueRecord) :=
  records.find? (fun _ record => record.key = mutation.validation.key)

def writeReceipt (receipts : Table Uuid KeyValueMutationReceipt) :
    Except Failure (Table Uuid KeyValueMutationReceipt) := do
  require ((findReceipt mutation receipts).isNone = true)
    (.integrity "uq_key_value_mutation_receipts_store_key")
  demand (receipts.insert? mutation.receiptId (issuedReceipt mutation current))
    (.integrity "key_value_mutation_receipts_pkey")

end Write

def flushStore (loaded : KeyValueStore) (projected : Projection) (stored : KeyValueStore) :
    KeyValueStore where
  recordCount := flushColumn loaded.recordCount projected.recordCount stored.recordCount
  totalBytes := flushColumn loaded.totalBytes projected.totalBytes stored.totalBytes
  version := flushColumn loaded.version (loaded.version + 1) stored.version

def checkStore (store : KeyValueStore) : Except Failure Unit := do
  require (0 ≤ store.recordCount) (.integrity "ck_key_value_stores_record_count")
  require (0 ≤ store.totalBytes) (.integrity "ck_key_value_stores_total_bytes")
  require (store.recordCount ≤ 10000) (.integrity "ck_key_value_stores_record_quota")
  require (store.totalBytes ≤ 268435456) (.integrity "ck_key_value_stores_byte_quota")

/-- The part of `mutate_key_value_record` after its lookups. The totals are computed from the
store object of the session, which is the one the request was authorized with. -/
def writeMutation (rows : Rows) (mutation : Mutation) (loaded : KeyValueStore)
    (current : Option (Uuid × KeyValueRecord)) : Except Failure Rows := do
  enforceExpectedVersion mutation.validation (current.map Prod.snd)
  let projected ← project loaded (current.map Prod.snd) mutation.validation.operation
  storeObject mutation
  let records ← writeRecord mutation current rows.records
  let versions ← writeVersion mutation current rows.versions
  let receipts ← writeReceipt mutation current rows.receipts
  checkStore (flushStore loaded projected rows.store)
  pure
    { store := flushStore loaded projected rows.store
      records := records
      versions := versions
      receipts := receipts }

/-- `mutate_key_value_record`, with nothing else going on. -/
def mutateKeyValueRecord (rows : Rows) (mutation : Mutation) :
    Except Failure (Rows × KeyValueMutationReceipt × Bool) := do
  require (mutation.validation.operation.name = mutation.requiredOperation) (apiError 422
    "KV_OPERATION_MISMATCH" "The mutation operation does not match this endpoint.")
  match findReceipt mutation rows.receipts with
  | some (_, receipt) => do
    require (receipt.requestDigest = mutation.validation.requestDigest) (apiError 409
      "KV_IDEMPOTENCY_CONFLICT"
      "The idempotency key was already used for a different Key-Value mutation.")
    pure (rows, receipt, true)
  | none => do
    let current := findRecord mutation rows.records
    let rows ← writeMutation rows mutation rows.store current
    pure (rows, issuedReceipt mutation current, false)

end RoozDataCloud.KeyValueStores
