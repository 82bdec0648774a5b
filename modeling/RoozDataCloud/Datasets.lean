import RoozDataCloud.ExecutionModels
import RoozDataCloud.ReadCommitted

set_option autoImplicit false

/-!
# Datasets and the append protocol

The validation of an append request, and the append itself: a receipt, the items
under consecutive sequence numbers, and the counters of the dataset row. The
rows are those of one dataset. Its receipts are kept under their idempotency
keys and its items under their sequence numbers, both unique by constraint.
-/
namespace RoozDataCloud.Datasets
open KeyedTable ExecutionModels FallibleSteps ReadCommitted

/-- A decoded JSON value. A float is told by its text. -/
inductive Json where
  | null
  | bool (b : Bool)
  | int (n : ℤ)
  | float (finite : Bool) (text : String)
  | text (s : String)
  | list (items : List Json)
  | object (members : List (String × Json))

/-- `canonical_json_bytes`, which fails on text that has no UTF-8 form, and SHA-256 in hex. -/
structure Codec where
  canonicalJsonBytes : Json → Option (List UInt8)
  sha256 : List UInt8 → String

section Validation

-- The message of a `DatasetAppendProtocolError` stands for it.

def tooDeep : String := "Dataset item exceeds the maximum JSON nesting depth."

mutual

def validateJsonValue (depth : ℕ) : Json → Except String Unit
  | .float finite _ => do
    require (depth ≤ 32) tooDeep
    require (finite = true) "Dataset items cannot contain NaN or Infinity."
  | .list items => do
    require (depth ≤ 32) tooDeep
    validateJsonItems (depth + 1) items
  | .object members => do
    require (depth ≤ 32) tooDeep
    validateJsonMembers (depth + 1) members
  | _ => require (depth ≤ 32) tooDeep

def validateJsonItems (depth : ℕ) : List Json → Except String Unit
  | [] => pure ()
  | item :: items => do
    validateJsonValue depth item
    validateJsonItems depth items

def validateJsonMembers (depth : ℕ) : List (String × Json) → Except String Unit
  | [] => pure ()
  | (_, item) :: members => do
    validateJsonValue depth item
    validateJsonMembers depth members

end

def notEncodable : String := "Dataset request cannot be canonically encoded."

def checkItem (codec : Codec) : Json → Except String Unit
  | .object members => do
    validateJsonMembers 1 members
    let bytes ← demand (codec.canonicalJsonBytes (.object members)) notEncodable
    require (bytes.length ≤ 65536) "Dataset item exceeds the maximum encoded size."
  | _ => .error "Each Dataset item must be a JSON object."

/-- `^[A-Za-z0-9][A-Za-z0-9._:-]{0,127}$`. -/
def idempotencyKeyValid (key : String) : Bool :=
  match key.toList with
  | [] => false
  | c :: rest => c.isAlphanum && decide (rest.length ≤ 127) &&
    rest.all (fun c => c.isAlphanum || decide (c ∈ ['.', '_', ':', '-']))

def schemaVersion : String := "rdc.dataset-append/v1"

structure ValidatedDatasetAppend where
  schemaVersion : String
  idempotencyKey : String
  items : List Json
  requestDigest : String
  encodedBytes : ℕ
  item_bounds : 1 ≤ items.length ∧ items.length ≤ 100

def ValidatedDatasetAppend.itemCount (v : ValidatedDatasetAppend) : ℕ := v.items.length

def textOf : Option Json → Option String
  | some (.text s) => some s
  | _ => none

def requestFields : List String := ["schema_version", "idempotency_key", "items"]

def validateItems (codec : Codec) (key : String) (items : List Json) :
    Except String ValidatedDatasetAppend :=
  if h : 1 ≤ items.length ∧ items.length ≤ 100 then do
    let _ ← items.mapM (checkItem codec)
    let encoded ← demand (codec.canonicalJsonBytes (.object [("schema_version", .text schemaVersion),
      ("idempotency_key", .text key), ("items", .list items)])) notEncodable
    require (encoded.length ≤ 262144)
      "Dataset append batch exceeds the maximum encoded size."
    pure
      { schemaVersion := schemaVersion
        idempotencyKey := key
        items := items
        requestDigest := codec.sha256 encoded
        encodedBytes := encoded.length
        item_bounds := h }
  else .error "Dataset append item count is outside the safe limit."

def validateDatasetAppend (codec : Codec) : Json → Except String ValidatedDatasetAppend
  | .object members => do
    require ((∀ key ∈ members.map Prod.fst, key ∈ requestFields) ∧
        ∀ key ∈ requestFields, key ∈ members.map Prod.fst)
      "Dataset append request fields are invalid."
    require (textOf (members.lookup "schema_version") = some schemaVersion)
      "Dataset append schema version is unsupported."
    let key ← demand ((textOf (members.lookup "idempotency_key")).filter idempotencyKeyValid)
      "Dataset append idempotency key is invalid."
    match members.lookup "items" with
    | some (.list items) => validateItems codec key items
    | _ => .error "Dataset append item count is outside the safe limit."
  | _ => .error "Dataset append request must be an object."

end Validation

structure Dataset where
  itemCount : ℕ
  totalBytes : ℕ
  nextSequence : ℕ
  version : ℕ

structure DatasetAppendReceipt where
  schemaVersion : String
  requestDigest : String
  firstSequence : ℕ
  itemCount : ℕ
  totalBytes : ℕ
  createdByUserId : Uuid

structure DatasetItem where
  receiptKey : String
  item : Json
  sizeBytes : ℕ
  sha256Digest : String

structure Rows where
  dataset : Dataset
  receipts : Table String DatasetAppendReceipt
  items : Table ℕ DatasetItem

structure AppendRequest where
  payload : Json
  userId : Uuid

def encodeItems (codec : Codec) (items : List Json) : Except Failure (List (List UInt8)) :=
  items.mapM (fun item => demand (codec.canonicalJsonBytes item) (.value notEncodable))

def byteCount (encoded : List (List UInt8)) : ℕ := (encoded.map List.length).sum

/-- The quotas, checked on the counters of the loaded object, and the constraint on a receipt. -/
def admitAppend (codec : Codec) (v : ValidatedDatasetAppend) (dataset : Dataset) :
    Except Failure (List (List UInt8)) := do
  let encoded ← encodeItems codec v.items
  require (dataset.itemCount + v.itemCount ≤ 100000) (apiError 413 "DATASET_ITEM_QUOTA_EXCEEDED"
    "The Dataset item quota would be exceeded.")
  require (dataset.totalBytes + byteCount encoded ≤ 268435456)
    (apiError 413 "DATASET_BYTE_QUOTA_EXCEEDED" "The Dataset byte quota would be exceeded.")
  require (1 ≤ byteCount encoded ∧ byteCount encoded ≤ 262144)
    (.integrity "ck_dataset_append_receipts_total_bytes")
  pure encoded

def newReceipt (v : ValidatedDatasetAppend) (encoded : List (List UInt8)) (dataset : Dataset)
    (userId : Uuid) : DatasetAppendReceipt where
  schemaVersion := v.schemaVersion
  requestDigest := v.requestDigest
  firstSequence := dataset.nextSequence
  itemCount := v.itemCount
  totalBytes := byteCount encoded
  createdByUserId := userId

def newItem (codec : Codec) (key : String) (item : Json) (bytes : List UInt8) : DatasetItem where
  receiptKey := key
  item := item
  sizeBytes := bytes.length
  sha256Digest := codec.sha256 bytes

def counted (v : ValidatedDatasetAppend) (encoded : List (List UInt8)) (dataset : Dataset) : Dataset where
  itemCount := dataset.itemCount + v.itemCount
  totalBytes := dataset.totalBytes + byteCount encoded
  nextSequence := dataset.nextSequence + v.itemCount
  version := dataset.version + 1

def flushDataset (loaded changed stored : Dataset) : Dataset where
  itemCount := flushColumn loaded.itemCount changed.itemCount stored.itemCount
  totalBytes := flushColumn loaded.totalBytes changed.totalBytes stored.totalBytes
  nextSequence := flushColumn loaded.nextSequence changed.nextSequence stored.nextSequence
  version := flushColumn loaded.version changed.version stored.version

def sequenceCollision : Failure := .integrity "uq_dataset_items_dataset_sequence"

/-- The inserts and the update of the counters, from the loaded object. -/
def insertAppend (codec : Codec) (userId : Uuid) (v : ValidatedDatasetAppend) (dataset : Dataset)
    (s : Rows) : Except Failure (Rows × DatasetAppendReceipt) := do
  let encoded ← admitAppend codec v dataset
  let receipt := newReceipt v encoded dataset userId
  let receipts ← demand (s.receipts.insert? v.idempotencyKey receipt)
    (.integrity "uq_dataset_append_receipts_dataset_key")
  let items ← demand (s.items.insertFrom? dataset.nextSequence
    (List.zipWith (newItem codec v.idempotencyKey) v.items encoded)) sequenceCollision
  let row := flushDataset dataset (counted v encoded dataset) s.dataset
  require (row.nextSequence = row.itemCount + 1) (.integrity "ck_datasets_sequence_counter")
  require (row.itemCount ≤ 100000) (.integrity "ck_datasets_item_quota")
  require (row.totalBytes ≤ 268435456) (.integrity "ck_datasets_byte_quota")
  pure ({ dataset := row, receipts := receipts, items := items }, receipt)

structure DatasetAppendOutcome where
  receipt : DatasetAppendReceipt
  replayed : Bool

def replayReceipt (v : ValidatedDatasetAppend) (receipt : DatasetAppendReceipt) :
    Except Failure DatasetAppendOutcome := do
  require (receipt.requestDigest = v.requestDigest) (apiError 409 "DATASET_IDEMPOTENCY_CONFLICT"
    "The idempotency key was already used for a different Dataset append request.")
  pure { receipt := receipt, replayed := true }

def appendDatasetItems (codec : Codec) (s : Rows) (request : AppendRequest) :
    Except Failure (Rows × DatasetAppendOutcome) := do
  let v ← (validateDatasetAppend codec request.payload).mapError Failure.value
  match s.receipts.get? v.idempotencyKey with
  | some receipt => do
    let outcome ← replayReceipt v receipt
    pure (s, outcome)
  | none => do
    let (s', receipt) ← insertAppend codec request.userId v s.dataset s
    pure (s', { receipt := receipt, replayed := false })

end RoozDataCloud.Datasets
