import RoozDataCloud.Datasets
import RoozDataCloud.KeyValueStores

set_option autoImplicit false

/-!
# The mutation protocol of the key-value store

The validation of a mutation request. A value that is accepted carries the fact
that its bytes are read back as the value.
-/
namespace RoozDataCloud.KeyValueProtocol
open KeyedTable ExecutionModels FallibleSteps KeyValueStores
open Datasets (Json textOf idempotencyKeyValid)

-- Members in the order of their keys, as `sort_keys` writes them. A dict has no key twice.
mutual

def sorted : Json → Json
  | .list items => .list (sortedItems items)
  | .object members => .object ((sortedMembers members).insertionSort (fun a b => a.1 ≤ b.1))
  | value => value

def sortedItems : List Json → List Json
  | [] => []
  | item :: items => sorted item :: sortedItems items

def sortedMembers : List (String × Json) → List (String × Json)
  | [] => []
  | (key, value) :: members => (key, sorted value) :: sortedMembers members

end

/-- `json.loads`, UTF-8 and Base64 besides the canonical encoding and SHA-256. What is encoded is
decoded again, and no two requests have one digest. -/
structure ValueCodec extends Datasets.Codec where
  parseJson : List UInt8 → Option Json
  encodeUtf8 : String → Option (List UInt8)
  decodeUtf8 : List UInt8 → Option String
  b64decode : String → Option (List UInt8)
  b64encode : List UInt8 → String
  parse_canonical : ∀ value bytes, canonicalJsonBytes value = some bytes →
    parseJson bytes = some (sorted value)
  decode_encode : ∀ text bytes, encodeUtf8 text = some bytes → decodeUtf8 bytes = some text
  digest_eq : ∀ request request' bytes bytes', canonicalJsonBytes request = some bytes →
    canonicalJsonBytes request' = some bytes' → sha256 bytes = sha256 bytes' →
    sorted request = sorted request'

/-- A codec that encodes no text decodes every encoded text. -/
theorem undecoded : ∀ (text : String) (bytes : List UInt8), (none : Option (List UInt8)) = some bytes →
    (none : Option String) = some text := by
  rintro text bytes ⟨⟩

/-- The value of stored bytes, by their encoding. -/
def decodeValue (codec : ValueCodec) (encoding : String) (raw : List UInt8) : Option Json :=
  if encoding = "json" then codec.parseJson raw
  else if encoding = "utf8" then (codec.decodeUtf8 raw).map .text
  else if encoding = "base64" then some (.text (codec.b64encode raw))
  else none

structure Content (codec : ValueCodec) where
  contentType : String
  encoding : String
  value : Json
  bytes : List UInt8
  readable : decodeValue codec encoding bytes = some (sorted value)

section Validation
variable (codec : ValueCodec)

def protocolError (message : String) : Failure := apiError 422 "KV_MUTATION_INVALID" message

mutual

def validateJsonValue (depth : ℕ) : Json → Except Failure Unit
  | .float finite _ => do
    require (depth ≤ 32) (protocolError "KV JSON value exceeds the maximum nesting depth.")
    require (finite = true) (protocolError "KV JSON values cannot contain NaN or Infinity.")
  | .list items => do
    require (depth ≤ 32) (protocolError "KV JSON value exceeds the maximum nesting depth.")
    validateJsonItems (depth + 1) items
  | .object members => do
    require (depth ≤ 32) (protocolError "KV JSON value exceeds the maximum nesting depth.")
    validateJsonMembers (depth + 1) members
  | _ => require (depth ≤ 32) (protocolError "KV JSON value exceeds the maximum nesting depth.")

def validateJsonItems (depth : ℕ) : List Json → Except Failure Unit
  | [] => pure ()
  | item :: items => do
    validateJsonValue depth item
    validateJsonItems depth items

def validateJsonMembers (depth : ℕ) : List (String × Json) → Except Failure Unit
  | [] => pure ()
  | (_, item) :: members => do
    validateJsonValue depth item
    validateJsonMembers depth members

end

def notEncodable : Failure := protocolError "KV mutation cannot be canonically JSON encoded."

def jsonContent (contentType : String) (value : Json) : Except Failure (Content codec) :=
  match h : codec.canonicalJsonBytes value with
  | some bytes => do
    validateJsonValue 0 value
    pure ⟨contentType, "json", value, bytes, codec.parse_canonical value bytes h⟩
  | none => do
    validateJsonValue 0 value
    .error notEncodable

def utf8Content (contentType : String) : Json → Except Failure (Content codec)
  | .text text =>
    match h : codec.encodeUtf8 text with
    | some bytes => pure ⟨contentType, "utf8", .text text, bytes, by
        simp [decodeValue, codec.decode_encode text bytes h, sorted]⟩
    -- `UnicodeEncodeError`, which nothing catches
    | none => .error (.value "'utf-8' codec can't encode character: surrogates not allowed")
  | _ => .error (protocolError "KV UTF-8 value must be a string.")

def base64Content (contentType : String) : Json → Except Failure (Content codec)
  | .text text =>
    match codec.b64decode text with
    | some bytes =>
      if h : text = codec.b64encode bytes then
        pure ⟨contentType, "base64", .text text, bytes, by simp [decodeValue, h, sorted]⟩
      else .error (protocolError "KV binary value is not canonical base64.")
    | none => .error (protocolError "KV binary value is not canonical base64.")
  | _ => .error (protocolError "KV base64 value must be a string.")

def contentEncodings : List (String × String) :=
  [("application/json", "json"), ("text/plain; charset=utf-8", "utf8"),
    ("application/octet-stream", "base64")]

def decodedSetValue (contentType encoding value : Option Json) : Except Failure (Content codec) := do
  let contentType ← demand ((textOf contentType).filter (fun name =>
    (contentEncodings.lookup name).isSome)) (protocolError "KV content_type is unsupported.")
  let encoding ← demand ((textOf encoding).filter (fun name =>
    contentEncodings.lookup contentType = some name))
    (protocolError "KV content_type and encoding do not match.")
  let value := value.getD .null
  let content ← if encoding = "json" then jsonContent codec contentType value
    else if encoding = "utf8" then utf8Content codec contentType value
    else base64Content codec contentType value
  require (content.bytes.length ≤ 1048576)
    (protocolError "KV value exceeds the maximum decoded size.")
  pure content

def expectedVersion : Option Json → Except Failure (Option ℕ)
  | none => pure none
  | some .null => pure none
  | some (.int n) => do
    require (0 ≤ n ∧ n ≤ 9223372036854775807) (protocolError "KV expected_version is invalid.")
    pure (some n.toNat)
  | some _ => .error (protocolError "KV expected_version is invalid.")

/-- `^[A-Za-z0-9][A-Za-z0-9._:-]{0,255}$` -/
def logicalKeyValid (key : String) : Bool :=
  match key.toList with
  | [] => false
  | c :: rest => c.isAlphanum && decide (rest.length ≤ 255) &&
    rest.all (fun c => c.isAlphanum || decide (c ∈ ['.', '_', ':', '-']))

def schemaVersion : String := "rdc.kv-write/v1"

def deleteFields : List String :=
  ["schema_version", "idempotency_key", "operation", "key", "expected_version"]

def setFields : List String := deleteFields ++ ["content_type", "encoding", "value"]

/-- A validated request. A delete has no content. -/
structure ValidatedRequest where
  request : Json
  idempotencyKey : String
  requestDigest : String
  key : String
  expectedVersion : Option ℕ
  content : Option (Content codec)

def Content.stored {codec : ValueCodec} (content : Content codec) : StoredValue where
  contentType := content.contentType
  encoding := content.encoding
  valueSha256 := codec.sha256 content.bytes
  decodedBytes := content.bytes.length

def operationOf : Option (Content codec) → Operation
  | some content => .set content.stored
  | none => .delete

def ValidatedRequest.validation {codec : ValueCodec} (v : ValidatedRequest codec) :
    ValidatedKVMutation where
  idempotencyKey := v.idempotencyKey
  requestDigest := v.requestDigest
  operation := operationOf codec v.content
  key := v.key
  expectedVersion := v.expectedVersion

def normalizedRequest (idempotencyKey key : String) (expected : Option ℕ)
    (content : Option (Content codec)) : Json :=
  .object ([("schema_version", .text schemaVersion), ("idempotency_key", .text idempotencyKey),
      ("operation", .text (operationOf codec content).name), ("key", .text key),
      ("expected_version", expected.elim .null (fun n => .int n))] ++
    content.elim [] (fun content => [("content_type", .text content.contentType),
      ("encoding", .text content.encoding), ("value", content.value)]))

def requestContent (members : List (String × Json)) : Bool → Except Failure (Option (Content codec))
  | true => do
    let content ← decodedSetValue codec (members.lookup "content_type") (members.lookup "encoding")
      (members.lookup "value")
    pure (some content)
  | false => pure none

def validateMembers (members : List (String × Json)) (set : Bool) :
    Except Failure (ValidatedRequest codec) := do
  let fields := if set then setFields else deleteFields
  require ((∀ key ∈ members.map Prod.fst, key ∈ fields) ∧ ∀ key ∈ fields, key ∈ members.map Prod.fst)
    (protocolError "KV mutation request fields are invalid.")
  require (textOf (members.lookup "schema_version") = some schemaVersion)
    (protocolError "KV mutation schema version is unsupported.")
  let idempotencyKey ← demand ((textOf (members.lookup "idempotency_key")).filter
    idempotencyKeyValid) (protocolError "KV mutation idempotency key is invalid.")
  let key ← demand ((textOf (members.lookup "key")).filter logicalKeyValid)
    (protocolError "KV logical key is invalid.")
  let expected ← expectedVersion (members.lookup "expected_version")
  let content ← requestContent codec members set
  let request := normalizedRequest codec idempotencyKey key expected content
  let encoded ← demand (codec.canonicalJsonBytes request) notEncodable
  require (encoded.length ≤ 1572864)
    (protocolError "KV mutation envelope exceeds the maximum encoded size.")
  pure ⟨request, idempotencyKey, codec.sha256 encoded, key, expected, content⟩

def validateKvMutation : Json → Except Failure (ValidatedRequest codec)
  | .object members =>
    match textOf (members.lookup "operation") with
    | some "set" => validateMembers codec members true
    | some "delete" => validateMembers codec members false
    | _ => .error (protocolError "KV operation is unsupported.")
  | _ => .error (protocolError "KV mutation request must be an object.")

end Validation

section Digests
variable {codec : ValueCodec} {payload payload' : Json} {v v' : ValidatedRequest codec}

theorem validateKvMutation_digest (h : validateKvMutation codec payload = .ok v) :
    ∃ bytes, codec.canonicalJsonBytes v.request = some bytes ∧
      v.requestDigest = codec.sha256 bytes := by
  have hmembers : ∀ members set, validateMembers codec members set = .ok v →
      ∃ bytes, codec.canonicalJsonBytes v.request = some bytes ∧
        v.requestDigest = codec.sha256 bytes := by
    intro members set hvalid
    simp only [validateMembers, bind_ok, demand_ok, pure_ok] at hvalid
    obtain ⟨-, -, -, -, _, -, _, -, _, -, _, -, encoded, hencoded, -, -, rfl⟩ := hvalid
    exact ⟨encoded, hencoded, rfl⟩
  cases payload with
  | object members =>
    simp only [validateKvMutation] at h
    split at h
    · exact hmembers members true h
    · exact hmembers members false h
    · cases h
  | _ => cases h

/-- Requests with one digest have the same body. -/
theorem request_of_digest (h : validateKvMutation codec payload = .ok v)
    (h' : validateKvMutation codec payload' = .ok v') (hdigest : v.requestDigest = v'.requestDigest) :
    sorted v.request = sorted v'.request := by
  obtain ⟨bytes, hbytes, hv⟩ := validateKvMutation_digest h
  obtain ⟨bytes', hbytes', hv'⟩ := validateKvMutation_digest h'
  exact codec.digest_eq _ _ bytes bytes' hbytes hbytes' (hv.symm.trans (hdigest.trans hv'))

end Digests
end RoozDataCloud.KeyValueProtocol
