import RoozDataCloud.KeyValueVaults
import RoozDataCloud.WebFetchContract

set_option autoImplicit false

/-!
# Reads of a key-value store for a worker

The API reads the records of a request from the rows and the objects of the store; the
worker checks what it receives, down to the bytes of each value.
-/
namespace RoozDataCloud.KeyValueReads
open KeyedTable ExecutionModels FallibleSteps JsonDocuments KeyValueStores KeyValueVaults
open KeyValueProtocol (ValueCodec sorted decodeValue logicalKeyValid contentEncodings)
open WorkerEgress WebFetchContract
open EgressBroker (assign)
open Datasets (Json)

/-- A codec with `sort_keys`. `digestShaped` is the test `[0-9a-f]{64}`, which every digest passes. -/
structure ReadCodec extends ValueCodec where
  digestShaped : String → Bool
  digest_shaped : ∀ bytes, digestShaped (sha256 bytes) = true
  canonical_sorted : ∀ value value', sorted value = sorted value' →
    canonicalJsonBytes value = canonicalJsonBytes value'

def maxValueBytes : ℕ := 1048576

def maxWorkerReadTotalBytes : ℕ := 262144

section Requests
variable (codec : ValueCodec)

/-- The request and its fields, the same on both sides. -/
def readRequest (keys : List String) : Json :=
  .object [("schema_version", .text "rdc.kv-worker-read/v1"), ("keys", .list (keys.map .text))]

def readKey (value : Json) : Except String String :=
  demand ((text? value).filter logicalKeyValid) "KV read logical key is invalid."

/-- `validate_kv_read_request`: the keys. The message of a `KVWorkerProtocolError` stands for it. -/
def validateKvReadRequest (value : Json) : Except String (List String) := do
  let members ← demand (object? value) "KV read request must be an object."
  require (hasExactly members ["schema_version", "keys"] = true)
    "KV read request fields are invalid."
  require (member members "schema_version" = .text "rdc.kv-worker-read/v1")
    "KV read schema version is unsupported."
  let rawKeys ← demand ((list? (member members "keys")).filter (fun items =>
    decide (1 ≤ items.length ∧ items.length ≤ 16))) "KV read key count is invalid."
  let keys ← rawKeys.mapM readKey
  require keys.Nodup "KV read logical keys must be unique."
  let encoded ← demand (codec.canonicalJsonBytes (readRequest keys))
    "KV worker request cannot be canonically JSON encoded."
  require (encoded.length ≤ 4096) "KV read request is too large."
  pure keys

end Requests

section Api
variable (codec : ValueCodec) (vault : Vault)

def missingRecord (key : String) : Json :=
  .object [("key", .text key), ("found", .bool false), ("version", .null), ("content_type", .null),
    ("encoding", .null), ("value_sha256", .null), ("size_bytes", .null), ("value", .null)]

def foundRecord (key : String) (version : ℕ) (stored : StoredValue) (value : Json) : Json :=
  .object [("key", .text key), ("found", .bool true), ("version", .int version),
    ("content_type", .text stored.contentType), ("encoding", .text stored.encoding),
    ("value_sha256", .text stored.valueSha256), ("size_bytes", .int stored.decodedBytes),
    ("value", value)]

def lineageInvalid (message : String) : Failure := apiError 500 "KV_STORAGE_LINEAGE_INVALID" message

/-- One round of `_read_records`: the record of a key, after `total` bytes. -/
def readOne (total : ℕ) (key : String) : Except Failure (ℕ × Json) :=
  match vault.rows.records.find? (fun _ record => record.key = key && !record.deleted) with
  | none => pure (total, missingRecord key)
  | some (id, current) =>
    match storedVersion vault.rows id current with
    | some (versionId, ⟨_, _, .set stored⟩) => do
      require (stored.decodedBytes ≤ maxValueBytes)
        (lineageInvalid "The Key-Value record exceeds the protocol limit.")
      require (total + stored.decodedBytes ≤ maxWorkerReadTotalBytes)
        (apiError 413 "KV_WORKER_READ_TOO_LARGE"
          "The requested Key-Value read exceeds the worker byte limit.")
      let raw ← readObject vault.objects (id, versionId) maxValueBytes
      require (raw.length = stored.decodedBytes ∧ codec.sha256 raw = stored.valueSha256)
        (apiError 500 "KV_STORAGE_INTEGRITY_FAILED"
          "The Key-Value record failed storage integrity verification.")
      let value ← demand (decodeValue codec stored.encoding raw)
        (apiError 500 "KV_STORAGE_DECODE_FAILED" "The Key-Value record could not be safely decoded.")
      pure (total + raw.length, foundRecord key current.currentVersion stored value)
    | _ => .error (lineageInvalid "The Key-Value record storage lineage is invalid.")

def readAll : (total : ℕ) → List String → Except Failure (List Json)
  | _, [] => pure []
  | total, key :: keys => do
    let (total, record) ← readOne codec vault total key
    let records ← readAll total keys
    pure (record :: records)

/-- `_read_records` -/
def readRecords (keys : List String) : Except Failure Json := do
  let records ← readAll codec vault 0 keys
  pure (.object [("schema_version", .text "rdc.kv-worker-read-result/v1"),
    ("store_name", .text "default"), ("records", .list records)])

end Api

section Worker
variable (codec : ReadCodec)

def boundaryError (message : String) : Raised := ⟨.keyValueBoundary, message⟩

/-- `_validate_json_value` of the worker -/
def validateJsonValue : Json → Except Raised Unit :=
  jsonChecked (boundaryError "KV worker JSON value exceeds the maximum nesting depth.")
    (boundaryError "KV worker JSON values cannot contain NaN or Infinity.") 0

def notBase64 : Raised := boundaryError "KV binary read value is not canonical base64."

/-- The value and its bytes. -/
def readValueBytes (contentType encoding value : Json) : Except Raised (Json × List UInt8) :=
  if contentType = .text "application/json" ∧ encoding = .text "json" then do
    validateJsonValue value
    let bytes ← demand (codec.canonicalJsonBytes value)
      (boundaryError "KV worker value cannot be canonically JSON encoded.")
    pure (value, bytes)
  else if contentType = .text "text/plain; charset=utf-8" ∧ encoding = .text "utf8" then do
    let text ← demand (text? value) (boundaryError "KV UTF-8 read value must be a string.")
    -- `UnicodeEncodeError`, which is a `ValueError`
    let bytes ← demand (codec.encodeUtf8 text)
      ⟨.unicode, "'utf-8' codec can't encode character: surrogates not allowed"⟩
    pure (value, bytes)
  else if contentType = .text "application/octet-stream" ∧ encoding = .text "base64" then do
    let text ← demand (text? value) (boundaryError "KV binary read value must be canonical base64.")
    let decoded ← demand (codec.b64decode text) notBase64
    require (codec.b64encode decoded = text) notBase64
    pure (.text (codec.b64encode decoded), decoded)
  else .error (boundaryError "KV read content type or encoding is unsupported.")

def recordFields : List String :=
  ["key", "found", "version", "content_type", "encoding", "value_sha256", "size_bytes", "value"]

def valueFields : List String :=
  ["version", "content_type", "encoding", "value_sha256", "size_bytes", "value"]

/-- A record with a value, after `total` bytes. -/
def checkFound (total : ℕ) (record : Members) : Except Raised (ℕ × Json) := do
  let lineageInvalid := boundaryError "KV read result lineage is invalid."
  let _ ← demand (intFrom 1 (member record "version")) lineageInvalid
  let digest ← demand ((text? (member record "value_sha256")).filter codec.digestShaped) lineageInvalid
  let size ← demand ((intFrom 0 (member record "size_bytes")).filter (· ≤ (maxValueBytes : ℤ)))
    lineageInvalid
  let (value, raw) ← readValueBytes codec (member record "content_type") (member record "encoding")
    (member record "value")
  require ((raw.length : ℤ) = size) (boundaryError "KV read result size lineage is invalid.")
  require (codec.sha256 raw = digest) (boundaryError "KV read result digest lineage is invalid.")
  require (total + raw.length ≤ maxWorkerReadTotalBytes)
    (boundaryError "KV read result exceeds the worker total byte limit.")
  pure (total + raw.length, .object (assign record "value" value))

/-- One round of `validate_kv_read_result`. -/
def checkOne (total : ℕ) (key : String) (received : Json) : Except Raised (ℕ × Json) := do
  let record ← demand (object? received) (boundaryError "KV read result record is invalid.")
  require (hasExactly record recordFields = true ∧ member record "key" = .text key)
    (boundaryError "KV read result record fields are invalid.")
  let found ← demand (bool? (member record "found"))
    (boundaryError "KV read result found flag is invalid.")
  if found = true then checkFound codec total record
  else do
    require (∀ field ∈ valueFields, member record field = .null)
      (boundaryError "Missing KV record carried value metadata.")
    pure (total, .object record)

def checkAll : (total : ℕ) → List (String × Json) → Except Raised (List Json)
  | _, [] => pure []
  | total, (key, received) :: rest => do
    let (total, record) ← checkOne codec total key received
    let records ← checkAll total rest
    pure (record :: records)

/-- `validate_kv_read_result`: the records -/
def validateKvReadResult (value : Json) (expectedKeys : List String) : Except Raised (List Json) := do
  let members ← demand (object? value) (boundaryError "KV read result must be an object.")
  require (hasExactly members ["schema_version", "store_name", "records"] = true)
    (boundaryError "KV read result fields are invalid.")
  require (member members "schema_version" = .text "rdc.kv-worker-read-result/v1")
    (boundaryError "KV read result schema version is unsupported.")
  require (member members "store_name" = .text "default")
    (boundaryError "KV read result store is invalid.")
  let records ← demand ((list? (member members "records")).filter (fun items =>
    decide (items.length = expectedKeys.length)))
    (boundaryError "KV read result record count is invalid.")
  checkAll codec 0 (expectedKeys.zip records)

end Worker
end RoozDataCloud.KeyValueReads
