import RoozDataCloud.KeyValueProtocol
import RoozDataCloud.VersionedMap
import Mathlib.Data.List.Sort

set_option autoImplicit false

/-!
# A key-value store with its objects

One store with the object storage behind it: the mutations of its records, one
after the other, and the functions that read and list them. The rows hold which
object a version has; the values are in the objects.
-/
namespace RoozDataCloud.KeyValueVaults
open KeyedTable ExecutionModels FallibleSteps KeyValueStores KeyValueProtocol VersionedMap
open Datasets (Json)

/-- `uuid4`, which gives every identifier once. -/
structure Supply where
  draw : ℕ → Uuid
  injective : Function.Injective draw

/-- An object is stored under its record and version; the rest of its key is the store's. -/
structure Vault where
  rows : Rows
  objects : Uuid × Uuid → Option (List UInt8)
  drawn : ℕ

/-- A request, with what the object storage answers to the upload and to its removal. -/
structure Request where
  payload : Json
  requiredOperation : String
  storageError : Option (String × String)
  removalFails : Bool

section Mutations
variable (codec : ValueCodec) (supply : Supply)

def mutationOf (vault : Vault) (request : Request) (v : ValidatedRequest codec) : Mutation where
  validation := v.validation
  requiredOperation := request.requiredOperation
  recordId := supply.draw vault.drawn
  versionId := supply.draw (vault.drawn + 1)
  receiptId := supply.draw (vault.drawn + 2)
  storageError := request.storageError

def objectKey (rows : Rows) (mutation : Mutation) : Uuid × Uuid :=
  (targetId mutation (findRecord mutation rows.records), mutation.versionId)

/-- The request gets as far as to upload an object. -/
def uploads (rows : Rows) (mutation : Mutation) : Bool :=
  let current := (findRecord mutation rows.records).map Prod.snd
  let checks : Except Failure Unit := do
    enforceExpectedVersion mutation.validation current
    let _ ← project rows.store current mutation.validation.operation
    storeObject mutation
  decide (mutation.validation.operation.name = mutation.requiredOperation) &&
    (findReceipt mutation rows.receipts).isNone && checks.isOk &&
    !mutation.validation.operation.tombstone

def putObject (objects : Uuid × Uuid → Option (List UInt8)) (key : Uuid × Uuid) :
    Option (Content codec) → Uuid × Uuid → Option (List UInt8)
  | some content => Function.update objects key (some content.bytes)
  | none => objects

/-- The objects that a request leaves which fails after its upload. -/
def cleanedUp (vault : Vault) (request : Request) (v : ValidatedRequest codec) (key : Uuid × Uuid) :
    Vault :=
  { vault with
    objects := if request.removalFails then putObject codec vault.objects key v.content
      else Function.update vault.objects key none
    drawn := vault.drawn + 3 }

def mutateRecord (vault : Vault) (request : Request) :
    Vault × Except Failure (KeyValueMutationReceipt × Bool) :=
  match validateKvMutation codec request.payload with
  | .error e => (vault, .error e)
  | .ok v =>
    let mutation := mutationOf codec supply vault request v
    let key := objectKey vault.rows mutation
    match mutateKeyValueRecord vault.rows mutation with
    | .ok (_, receipt, true) => (vault, .ok (receipt, true))
    | .ok (rows, receipt, false) =>
      ({ rows := rows
         objects := putObject codec vault.objects key v.content
         drawn := vault.drawn + 3 }, .ok (receipt, false))
    | .error e =>
      if uploads vault.rows mutation then (cleanedUp codec vault request v key, .error e)
      else (vault, .error e)

def step (vault : Vault) (request : Request) : Vault := (mutateRecord codec supply vault request).1

/-- A store as it is created. -/
def newVault : Vault where
  rows := { store := ⟨0, 0, 1⟩, records := .empty, versions := .empty, receipts := .empty }
  objects := fun _ => none
  drawn := 0

def after (requests : List Request) : Vault := exec (step codec supply) newVault requests

/-- The write that a request makes when it is accepted and no replay. -/
def acceptedWrite (vault : Vault) (request : Request) : List (Write String (Content codec)) :=
  match validateKvMutation codec request.payload, (mutateRecord codec supply vault request).2 with
  | .ok v, .ok (_, false) => [⟨v.key, v.content⟩]
  | _, _ => []

/-- The accepted mutations of a run, oldest first. -/
def accepted : Vault → List Request → History String (Content codec)
  | _, [] => []
  | vault, request :: requests =>
    acceptedWrite codec supply vault request ++ accepted (step codec supply vault request) requests

end Mutations

section Reads
variable (codec : ValueCodec)

structure KeyValueRecordSummary where
  key : String
  version : ℕ
  contentType : String
  encoding : String
  valueSha256 : String
  sizeBytes : ℕ
  value : Json

def recordMissing : Failure :=
  apiError 404 "KV_RECORD_NOT_FOUND" "The Key-Value record does not exist."

def getKeyValueRecord (rows : Rows) (key : String) : Except Failure (Uuid × KeyValueRecord) :=
  demand (rows.records.find? (fun _ record => record.key = key && !record.deleted)) recordMissing

def readObject (objects : Uuid × Uuid → Option (List UInt8)) (key : Uuid × Uuid) (maxBytes : ℕ) :
    Except Failure (List UInt8) := do
  let raw ← demand (objects key) (apiError 503 "STORAGE_UNAVAILABLE"
    "Object storage content could not be read.")
  require (raw.length ≤ maxBytes) (apiError 503 "STORAGE_OBJECT_TOO_LARGE"
    "The stored object exceeds the configured limit.")
  pure raw

/-- The current version of a record, if it is no tombstone. -/
def storedVersion (rows : Rows) (id : Uuid) (record : KeyValueRecord) :
    Option (Uuid × KeyValueRecordVersion) :=
  rows.versions.find? (fun _ row => row.recordId = id && row.version = record.currentVersion &&
    !row.operation.tombstone)

def keyValueRecordSummary (vault : Vault) (row : Uuid × KeyValueRecord) :
    Except Failure KeyValueRecordSummary :=
  match storedVersion vault.rows row.1 row.2 with
  | some (versionId, ⟨_, _, .set stored⟩) => do
    let raw ← readObject vault.objects (row.1, versionId) stored.decodedBytes
    require (raw.length = stored.decodedBytes ∧ codec.sha256 raw = stored.valueSha256)
      (apiError 500 "KV_STORAGE_INTEGRITY_FAILED"
        "The Key-Value record failed storage integrity verification.")
    let value ← demand (decodeValue codec stored.encoding raw)
      (apiError 500 "KV_STORAGE_DECODE_FAILED" "The Key-Value record could not be safely decoded.")
    pure
      { key := row.2.key
        version := row.2.currentVersion
        contentType := stored.contentType
        encoding := stored.encoding
        valueSha256 := stored.valueSha256
        sizeBytes := stored.decodedBytes
        value := value }
  | _ => .error (apiError 500 "KV_STORAGE_LINEAGE_INVALID"
      "The Key-Value record storage lineage is invalid.")

/-- `GET /key-value-stores/{store_id}/records/{key}` -/
def readRecord (vault : Vault) (key : String) : Except Failure KeyValueRecordSummary := do
  let row ← getKeyValueRecord vault.rows key
  keyValueRecordSummary codec vault row

/-- `LIKE`, with a backslash for the escape. -/
def like : List Char → List Char → Bool
  | [], text => text.isEmpty
  | '%' :: pattern, text => text.tails.any (fun rest => like pattern rest)
  | '_' :: pattern, text => !text.isEmpty && like pattern text.tail
  | '\\' :: c :: pattern, text => decide (text.head? = some c) && like pattern text.tail
  | c :: pattern, text => decide (text.head? = some c) && like pattern text.tail

/-- `startswith`, which escapes nothing: an underscore stands for any character. -/
def startsWith (start key : String) : Bool := like (start.toList ++ ['%']) key.toList

def keyLe (collation : LinearOrder String) (a b : String) : Bool :=
  @decide (collation.le a b) (collation.toDecidableLE a b)

/-- What a listing asks for besides its limit. -/
structure Page where
  start : Option String
  afterKey : Option String

def Page.lists (page : Page) (collation : LinearOrder String) (key : String) : Bool :=
  page.start.all (fun start => startsWith start key) &&
    page.afterKey.all (fun last => !keyLe collation key last)

def listKeyValueRecords (collation : LinearOrder String) (rows : Rows) (page : Page) (limit : ℕ) :
    List (Uuid × KeyValueRecord) × Bool :=
  let found := ((rows.records.select (fun _ record => !record.deleted &&
    page.lists collation record.key)).insertionSort (fun a b =>
      keyLe collation a.2.key b.2.key)).take (limit + 1)
  (found.take limit, decide (limit < found.length))

/-- `GET /key-value-stores/{store_id}/records` -/
def listRecords (collation : LinearOrder String) (vault : Vault) (page : Page) (limit : ℕ) :
    Except Failure (List KeyValueRecordSummary × Bool) := do
  let (rows, more) := listKeyValueRecords collation vault.rows page limit
  let summaries ← rows.mapM (keyValueRecordSummary codec vault)
  pure (summaries, more)

end Reads
end RoozDataCloud.KeyValueVaults
