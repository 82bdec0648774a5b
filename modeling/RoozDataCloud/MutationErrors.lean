import RoozDataCloud.FallibleSteps
import RoozDataCloud.PythonValues

set_option autoImplicit false

/-!
# Errors of the mutation validators

The API and the worker validate a key-value mutation with two copies of one
function. Every encoding of a text is inside a `try` but one: a UTF-8 value is
encoded outside, so a lone surrogate in it raises a `UnicodeEncodeError`.
-/
namespace RoozDataCloud.MutationErrors
open FallibleSteps PythonValues

/-- `KVProtocolError`, or the `UnicodeEncodeError` that nothing catches. -/
inductive MutationError where
  | protocol (message : String)
  | unicodeEncode
  deriving DecidableEq

/-- Base64 and SHA-256 of the standard library; `b64decode` validates. -/
structure Encodings where
  b64decode : List UInt8 → Option (List UInt8)
  b64encode : List UInt8 → List UInt8
  sha256 : List UInt8 → String

def fail {α : Type} (message : String) : Except MutationError α := .error (.protocol message)

section Steps

def jsonTooDeep : MutationError := .protocol "KV JSON value exceeds the maximum nesting depth."

mutual

def validateJsonValue (depth : ℕ) : Value → Except MutationError Unit
  | .float finite _ => do
    require (depth ≤ 32) jsonTooDeep
    require (finite = true) (.protocol "KV JSON values cannot contain NaN or Infinity.")
  | .list items => do
    require (depth ≤ 32) jsonTooDeep
    validateJsonItems (depth + 1) items
  | .dict members => do
    require (depth ≤ 32) jsonTooDeep
    validateJsonMembers (depth + 1) members
  | _ => require (depth ≤ 32) jsonTooDeep

def validateJsonItems (depth : ℕ) : List Value → Except MutationError Unit
  | [] => pure ()
  | item :: items => do
    validateJsonValue depth item
    validateJsonItems depth items

def validateJsonMembers (depth : ℕ) : List (Key × Value) → Except MutationError Unit
  | [] => pure ()
  | (.text _, item) :: members => do
    validateJsonValue depth item
    validateJsonMembers depth members
  | (.other _, _) :: _ => fail "KV JSON object keys must be strings."

end

def canonicalJsonBytes (value : Value) : Except MutationError (List UInt8) :=
  demand ((dumps value).bind encodeUtf8)
    (.protocol "KV mutation cannot be canonically JSON encoded.")

def expectedVersion : Value → Except MutationError (Option ℕ)
  | .none => pure none
  | .int n => do
    require (0 ≤ n ∧ n ≤ 9223372036854775807) (.protocol "KV expected_version is invalid.")
    pure (some n.toNat)
  | _ => fail "KV expected_version is invalid."

/-- `^[A-Za-z0-9][A-Za-z0-9._:-]{0,n}$` -/
def safeKey (n : ℕ) : Text → Bool
  | [] => false
  | c :: rest => alphanumeric c && decide (rest.length ≤ n) &&
    rest.all (fun c => alphanumeric c || decide (c ∈ points "._:-"))
where
  alphanumeric (c : CodePoint) : Bool :=
    decide ((48 ≤ c.val ∧ c.val ≤ 57) ∨ (65 ≤ c.val ∧ c.val ≤ 90) ∨ (97 ≤ c.val ∧ c.val ≤ 122))

def contentEncodings : List (Text × Text) :=
  [(points "application/json", points "json"),
    (points "text/plain; charset=utf-8", points "utf8"),
    (points "application/octet-stream", points "base64")]

variable (lib : Encodings)

def utf8Value (value : Value) : Except MutationError (Value × List UInt8) := do
  let text ← demand (text? value) (.protocol "KV UTF-8 value must be a string.")
  let bytes ← demand (encodeUtf8 text) .unicodeEncode
  pure (value, bytes)

def base64Value (value : Value) : Except MutationError (Value × List UInt8) := do
  let text ← demand (text? value) (.protocol "KV base64 value must be a string.")
  let bytes ← demand ((encodeAscii text).bind lib.b64decode)
    (.protocol "KV binary value is not canonical base64.")
  require (encodeAscii text = some (lib.b64encode bytes))
    (.protocol "KV binary value is not canonical base64.")
  pure (value, bytes)

def jsonValue (value : Value) : Except MutationError (Value × List UInt8) := do
  validateJsonValue 0 value
  let bytes ← canonicalJsonBytes value
  pure (value, bytes)

/-- `_decoded_set_value` -/
def decodedSetValue (contentType encoding value : Value) :
    Except MutationError (Text × Text × Value × List UInt8) := do
  let contentType ← demand ((text? contentType).filter (fun name =>
    (contentEncodings.lookup name).isSome)) (.protocol "KV content_type is unsupported.")
  let encoding ← demand ((text? encoding).filter (fun name =>
    contentEncodings.lookup contentType = some name))
    (.protocol "KV content_type and encoding do not match.")
  let (normalized, bytes) ←
    if encoding = points "json" then jsonValue value
    else if encoding = points "utf8" then utf8Value value
    else base64Value lib value
  require (bytes.length ≤ 1048576) (.protocol "KV value exceeds the maximum decoded size.")
  pure (contentType, encoding, normalized, bytes)

end Steps

section Validation
variable (lib : Encodings)

def schemaVersion : Text := points "rdc.kv-write/v1"

def deleteFields : List String :=
  ["schema_version", "idempotency_key", "operation", "key", "expected_version"]

def setFields : List String := deleteFields ++ ["content_type", "encoding", "value"]

/-- `set(value) == fields` -/
def hasFields (members : List (Key × Value)) (fields : List String) : Bool :=
  members.all (fun entry => fields.any (fun field => entry.1 = .text (points field))) &&
    fields.all (fun field => (members.lookup (.text (points field))).isSome)

/-- Whether the operation is a set or a delete. -/
def isSet (members : List (Key × Value)) : Except MutationError Bool :=
  if text? (get members "operation") = some (points "set") then pure true
  else if text? (get members "operation") = some (points "delete") then pure false
  else fail "KV operation is unsupported."

/-- What the value of a set comes to. A delete has none. -/
structure Content where
  contentType : Text
  encoding : Text
  value : Value
  bytes : List UInt8

def contentOf (members : List (Key × Value)) : Bool → Except MutationError (Option Content)
  | true => do
    let (contentType, encoding, value, bytes) ← decodedSetValue lib (get members "content_type")
      (get members "encoding") (get members "value")
    pure (some ⟨contentType, encoding, value, bytes⟩)
  | false => pure none

def entry (name : String) (value : Value) : Key × Value := (.text (points name), value)

def normalizedRequest (idempotencyKey key : Text) (expected : Option ℕ) (content : Option Content) :
    List (Key × Value) :=
  let operation := if content.isSome then points "set" else points "delete"
  [entry "schema_version" (.text schemaVersion), entry "idempotency_key" (.text idempotencyKey),
    entry "operation" (.text operation), entry "key" (.text key),
    entry "expected_version" (expected.elim .none (fun n => .int n))] ++
  content.elim [] (fun content =>
    [entry "content_type" (.text content.contentType), entry "encoding" (.text content.encoding),
      entry "value" content.value])

/-- What the two copies have computed before they return. -/
structure Checked where
  request : List (Key × Value)
  encoded : List UInt8
  idempotencyKey : Text
  key : Text
  expectedVersion : Option ℕ
  content : Option Content

/-- The text of the two copies but for what they return. -/
def checkedMutation : Value → Except MutationError Checked
  | .dict members => do
    let set ← isSet members
    require (hasFields members (if set then setFields else deleteFields) = true)
      (.protocol "KV mutation request fields are invalid.")
    require (text? (get members "schema_version") = some schemaVersion)
      (.protocol "KV mutation schema version is unsupported.")
    let idempotencyKey ← demand ((text? (get members "idempotency_key")).filter (safeKey 127))
      (.protocol "KV mutation idempotency key is invalid.")
    let key ← demand ((text? (get members "key")).filter (fun key =>
      decide (key.length ≤ 256) && safeKey 255 key)) (.protocol "KV logical key is invalid.")
    let expected ← expectedVersion (get members "expected_version")
    let content ← contentOf lib members set
    let request := normalizedRequest idempotencyKey key expected content
    let encoded ← canonicalJsonBytes (.dict request)
    require (encoded.length ≤ 1572864)
      (.protocol "KV mutation envelope exceeds the maximum encoded size.")
    pure ⟨request, encoded, idempotencyKey, key, expected, content⟩
  | _ => fail "KV mutation request must be an object."

/-- The result of the API. -/
structure ValidatedKVMutation where
  request : List (Key × Value)
  schemaVersion : Text
  idempotencyKey : Text
  requestDigest : String
  operation : Text
  key : Text
  expectedVersion : Option ℕ
  contentType : Option Text
  encoding : Option Text
  valueSha256 : Option String
  decodedBytes : ℕ
  valueBytes : Option (List UInt8)

def operationName (content : Option Content) : Text :=
  if content.isSome then points "set" else points "delete"

/-- `validate_kv_mutation` of the API -/
def validateKvMutation (value : Value) : Except MutationError ValidatedKVMutation := do
  let checked ← checkedMutation lib value
  pure
    { request := checked.request
      schemaVersion := schemaVersion
      idempotencyKey := checked.idempotencyKey
      requestDigest := lib.sha256 checked.encoded
      operation := operationName checked.content
      key := checked.key
      expectedVersion := checked.expectedVersion
      contentType := checked.content.map (·.contentType)
      encoding := checked.content.map (·.encoding)
      valueSha256 := checked.content.map (fun content => lib.sha256 content.bytes)
      decodedBytes := checked.content.elim 0 (fun content => content.bytes.length)
      valueBytes := checked.content.map (·.bytes) }

/-- The result of the worker. -/
structure WorkerMutation where
  request : List (Key × Value)
  requestDigest : String
  operation : Text
  key : Text
  expectedVersion : Option ℕ
  contentType : Option Text
  encoding : Option Text
  valueSha256 : Option String
  decodedBytes : ℕ
  persisted : Bool
  workerWriteEnabled : Bool
  objectStorageWriteEnabled : Bool

/-- `validate_kv_mutation` of the worker, which reads the content type and the encoding from the
request that it has normalised. -/
def workerValidateKvMutation (value : Value) : Except MutationError WorkerMutation := do
  let checked ← checkedMutation lib value
  let normalized := fun name => if checked.content.isSome then text? (get checked.request name)
    else none
  pure
    { request := checked.request
      requestDigest := lib.sha256 checked.encoded
      operation := operationName checked.content
      key := checked.key
      expectedVersion := checked.expectedVersion
      contentType := normalized "content_type"
      encoding := normalized "encoding"
      valueSha256 := checked.content.map (fun content => lib.sha256 content.bytes)
      decodedBytes := checked.content.elim 0 (fun content => content.bytes.length)
      persisted := false
      workerWriteEnabled := false
      objectStorageWriteEnabled := false }

end Validation

section Discipline
variable {lib : Encodings} {members : List (Key × Value)}

/-- The function returns or raises its protocol error. -/
def Disciplined {α : Type} (result : Except MutationError α) : Prop :=
  (∃ value, result = .ok value) ∨ ∃ message, result = .error (.protocol message)

theorem disciplined_iff {α : Type} {result : Except MutationError α} :
    Disciplined result ↔ result ≠ .error .unicodeEncode := by
  unfold Disciplined
  cases result with
  | ok value => simp
  | error e => cases e <;> simp

mutual

theorem validateJsonValue_error (depth : ℕ) : (value : Value) →
    validateJsonValue depth value ≠ .error .unicodeEncode
  | .none | .bool _ | .int _ | .text _ => by
    simp [validateJsonValue, require_error, jsonTooDeep]
  | .float _ _ => by simp [validateJsonValue, bind_error, require_error, jsonTooDeep]
  | .list items => by
    have hitems := validateJsonItems_error (depth + 1) items
    simp [validateJsonValue, bind_error, require_error, jsonTooDeep, hitems]
  | .dict members => by
    have hmembers := validateJsonMembers_error (depth + 1) members
    simp [validateJsonValue, bind_error, require_error, jsonTooDeep, hmembers]

theorem validateJsonItems_error (depth : ℕ) : (items : List Value) →
    validateJsonItems depth items ≠ .error .unicodeEncode
  | [] => by simp [validateJsonItems, pure_error]
  | item :: items => by
    have hitem := validateJsonValue_error depth item
    have hitems := validateJsonItems_error depth items
    simp [validateJsonItems, bind_error, hitem, hitems]

theorem validateJsonMembers_error (depth : ℕ) : (members : List (Key × Value)) →
    validateJsonMembers depth members ≠ .error .unicodeEncode
  | [] => by simp [validateJsonMembers, pure_error]
  | (.text _, item) :: members => by
    have hitem := validateJsonValue_error depth item
    have hmembers := validateJsonMembers_error depth members
    simp [validateJsonMembers, bind_error, hitem, hmembers]
  | (.other _, _) :: _ => by simp [validateJsonMembers, fail]

end

theorem canonicalJsonBytes_error (value : Value) :
    canonicalJsonBytes value ≠ .error .unicodeEncode := by
  simp [canonicalJsonBytes, demand_error]

theorem jsonValue_error (value : Value) : jsonValue value ≠ .error .unicodeEncode := by
  simp only [jsonValue, bind_error, pure_error, validateJsonValue_error, canonicalJsonBytes_error,
    and_false, or_false, exists_false, ne_eq, not_false_eq_true]

theorem base64Value_error (value : Value) : base64Value lib value ≠ .error .unicodeEncode := by
  simp only [base64Value, bind_error, demand_error, require_error, pure_error, reduceCtorEq,
    and_false, or_false, exists_false, ne_eq, not_false_eq_true]

theorem utf8Value_error {value : Value} : utf8Value value = .error .unicodeEncode ↔
    ∃ text, value = .text text ∧ ∃ c ∈ text, surrogate c = true := by
  simp only [utf8Value, bind_error, demand_error, demand_ok, pure_error, and_false, or_false,
    exists_false, reduceCtorEq, false_or, and_true, encodeUtf8_none]
  constructor
  · rintro ⟨text, htext, hsurrogate⟩
    cases value with
    | text s =>
      obtain rfl := Option.some.inj htext
      exact ⟨s, rfl, hsurrogate⟩
    | _ => cases htext
  · rintro ⟨text, rfl, hsurrogate⟩
    exact ⟨text, rfl, hsurrogate⟩

theorem expectedVersion_error (value : Value) :
    expectedVersion value ≠ .error .unicodeEncode := by
  cases value <;> simp only [expectedVersion, fail, bind_error, require_error, pure_error,
    reduceCtorEq, and_false, or_false, exists_false, ne_eq, not_false_eq_true, Except.error.injEq]

theorem isSet_error : isSet members ≠ .error .unicodeEncode := by
  unfold isSet
  split
  · simp [pure_error]
  · split <;> simp [pure_error, fail]

theorem contentType_utf8 {name : Text} (h : contentEncodings.lookup name = some (points "utf8")) :
    name = points "text/plain; charset=utf-8" := by
  have hothers : points "json" ≠ points "utf8" ∧ points "base64" ≠ points "utf8" := by
    decide +kernel
  obtain ⟨before, behind, hsplit, -⟩ := List.lookup_eq_some_iff.1 h
  have hmem : (name, points "utf8") ∈ contentEncodings :=
    hsplit ▸ List.mem_append_right before List.mem_cons_self
  simp only [contentEncodings, List.mem_cons, Prod.mk.injEq, List.not_mem_nil, or_false] at hmem
  rcases hmem with ⟨-, heq⟩ | ⟨hname, -⟩ | ⟨-, heq⟩
  · exact absurd heq.symm hothers.1
  · exact hname
  · exact absurd heq.symm hothers.2

theorem decodedSetValue_error {contentType encoding value : Value} :
    decodedSetValue lib contentType encoding value = .error .unicodeEncode ↔
      text? contentType = some (points "text/plain; charset=utf-8") ∧
        text? encoding = some (points "utf8") ∧
        ∃ text, value = .text text ∧ ∃ c ∈ text, surrogate c = true := by
  have hutf8 : contentEncodings.lookup (points "text/plain; charset=utf-8") =
      some (points "utf8") := by decide +kernel
  have hother : points "utf8" ≠ points "json" := by decide +kernel
  -- the size check behind the value has a message of its own
  have hsized : ∀ {name encoding : Text} {x : Except MutationError (Value × List UInt8)},
      (do
        let (normalized, bytes) ← x
        require (bytes.length ≤ 1048576)
          (MutationError.protocol "KV value exceeds the maximum decoded size.")
        pure (name, encoding, normalized, bytes)) = .error .unicodeEncode ↔
      x = .error .unicodeEncode := by
    intro name encoding x
    simp only [bind_error, require_error, pure_error, reduceCtorEq, and_false, or_false,
      exists_false]
  simp only [decodedSetValue, bind_error, demand_error, demand_ok, reduceCtorEq, and_false,
    false_or, Option.filter_eq_some_iff]
  constructor
  · rintro ⟨name, ⟨hname, -⟩, encoding, ⟨hencoding, hpair⟩, h⟩
    split at h
    next => exact absurd (hsized.1 h) (jsonValue_error value)
    next =>
      split at h
      next heq =>
        obtain rfl := heq
        refine ⟨?_, hencoding, utf8Value_error.1 (hsized.1 h)⟩
        rw [hname, contentType_utf8 (of_decide_eq_true hpair)]
      next => exact absurd (hsized.1 h) (base64Value_error value)
  · rintro ⟨hname, hencoding, hvalue⟩
    refine ⟨_, ⟨hname, by rw [hutf8]; rfl⟩, _, ⟨hencoding, decide_eq_true hutf8⟩, ?_⟩
    rw [if_neg hother, if_pos rfl]
    exact hsized.2 (utf8Value_error.2 hvalue)

/-- A request that is acceptable up to a UTF-8 value with a lone surrogate. -/
structure SurrogateSet (members : List (Key × Value)) : Prop where
  operation : text? (get members "operation") = some (points "set")
  fields : hasFields members setFields = true
  schema : text? (get members "schema_version") = some schemaVersion
  idempotencyKey : (text? (get members "idempotency_key")).any (safeKey 127) = true
  key : (text? (get members "key")).any (fun key =>
    decide (key.length ≤ 256) && safeKey 255 key) = true
  expected : (expectedVersion (get members "expected_version")).isOk = true
  contentType : text? (get members "content_type") = some (points "text/plain; charset=utf-8")
  encoding : text? (get members "encoding") = some (points "utf8")
  value : ∃ text, get members "value" = .text text ∧ ∃ c ∈ text, surrogate c = true

theorem contentOf_error {set : Bool} : contentOf lib members set = .error .unicodeEncode ↔
    set = true ∧ text? (get members "content_type") = some (points "text/plain; charset=utf-8") ∧
      text? (get members "encoding") = some (points "utf8") ∧
      ∃ text, get members "value" = .text text ∧ ∃ c ∈ text, surrogate c = true := by
  cases set with
  | true =>
    rw [← @decodedSetValue_error lib]
    simp only [contentOf, bind_error, pure_error, and_false, exists_false, or_false, true_and]
  | false => simp only [contentOf, pure_error, reduceCtorEq, false_and]

theorem checkedMutation_error {value : Value} :
    checkedMutation lib value = .error .unicodeEncode ↔
      ∃ members, value = .dict members ∧ SurrogateSet members := by
  constructor
  · intro h
    cases value with
    | dict members =>
      simp only [checkedMutation, bind_error, demand_error, demand_ok, require_error, require_ok,
        pure_error, reduceCtorEq, and_false, or_false, false_or, exists_false, exists_const,
        isSet_error, expectedVersion_error, canonicalJsonBytes_error, contentOf_error] at h
      obtain ⟨set, hset, hfields, hschema, identifier, hidentifier, key, hkey, expected, hexpected,
        rfl, hcontent, hencoding, hvalue⟩ := h
      have hoperation : text? (get members "operation") = some (points "set") := by
        unfold isSet at hset
        split at hset
        next hop => exact hop
        next =>
          split at hset
          · cases hset
          · cases hset
      refine ⟨members, rfl, hoperation, hfields, hschema, ?_, ?_, isOk_iff.2 ⟨expected, hexpected⟩,
        hcontent, hencoding, hvalue⟩
      · obtain ⟨hsome, hsafe⟩ := Option.filter_eq_some_iff.1 hidentifier
        rw [hsome]
        exact hsafe
      · obtain ⟨hsome, hsafe⟩ := Option.filter_eq_some_iff.1 hkey
        rw [hsome]
        exact hsafe
    | _ => simp [checkedMutation, fail] at h
  · rintro ⟨members, rfl, h⟩
    obtain ⟨expected, hexpected⟩ := isOk_iff.1 h.expected
    have hset : isSet members = .ok true := by
      rw [isSet, if_pos h.operation]
      rfl
    have hany : ∀ {o : Option Text} {p : Text → Bool}, o.any p = true →
        ∃ text, o.filter p = some text := by
      intro o p ho
      cases o with
      | none => cases ho
      | some text => exact ⟨text, Option.filter_eq_some_iff.2 ⟨rfl, ho⟩⟩
    obtain ⟨identifier, hidentifier⟩ := hany h.idempotencyKey
    obtain ⟨key, hkey⟩ := hany h.key
    simp only [checkedMutation, bind_error, demand_error, demand_ok, require_error, require_ok,
      pure_error, reduceCtorEq, and_false, or_false, false_or, exists_false, exists_const,
      isSet_error, expectedVersion_error, canonicalJsonBytes_error, contentOf_error]
    exact ⟨true, hset, h.fields, h.schema, identifier, hidentifier, key, hkey, expected, hexpected,
      rfl, h.contentType, h.encoding, h.value⟩

end Discipline

section Agreement
variable (lib : Encodings)

/-- What both copies return of a mutation, with its canonical bytes. -/
structure Mutation where
  request : List (Key × Value)
  canonical : Except MutationError (List UInt8)
  requestDigest : String
  operation : Text
  key : Text
  expectedVersion : Option ℕ
  contentType : Option Text
  encoding : Option Text
  valueSha256 : Option String
  decodedBytes : ℕ

def ValidatedKVMutation.mutation (m : ValidatedKVMutation) : Mutation :=
  ⟨m.request, canonicalJsonBytes (.dict m.request), m.requestDigest, m.operation, m.key,
    m.expectedVersion, m.contentType, m.encoding, m.valueSha256, m.decodedBytes⟩

def WorkerMutation.mutation (m : WorkerMutation) : Mutation :=
  ⟨m.request, canonicalJsonBytes (.dict m.request), m.requestDigest, m.operation, m.key,
    m.expectedVersion, m.contentType, m.encoding, m.valueSha256, m.decodedBytes⟩

theorem normalizedRequest_contentType (idempotencyKey key : Text) (expected : Option ℕ)
    (content : Content) :
    get (normalizedRequest idempotencyKey key expected (some content)) "content_type" =
      .text content.contentType := by
  rfl

theorem normalizedRequest_encoding (idempotencyKey key : Text) (expected : Option ℕ)
    (content : Content) :
    get (normalizedRequest idempotencyKey key expected (some content)) "encoding" =
      .text content.encoding := by
  rfl

theorem checkedMutation_request {value : Value} {checked : Checked}
    (h : checkedMutation lib value = .ok checked) :
    checked.request = normalizedRequest checked.idempotencyKey checked.key checked.expectedVersion
      checked.content := by
  cases value with
  | dict members =>
    simp only [checkedMutation, bind_ok, demand_ok, require_ok, pure_ok, exists_const] at h
    obtain ⟨-, -, -, -, _, -, _, -, _, -, _, -, _, -, -, rfl⟩ := h
    rfl
  | _ => cases h

theorem copies_agree (value : Value) :
    (validateKvMutation lib value).map ValidatedKVMutation.mutation =
      (workerValidateKvMutation lib value).map WorkerMutation.mutation := by
  cases hchecked : checkedMutation lib value with
  | error e => simp only [validateKvMutation, workerValidateKvMutation, hchecked]; rfl
  | ok checked =>
    have hrequest := checkedMutation_request lib hchecked
    simp only [validateKvMutation, workerValidateKvMutation, hchecked]
    change Except.ok _ = Except.ok _
    cases hcontent : checked.content with
    | none => simp [ValidatedKVMutation.mutation, WorkerMutation.mutation]
    | some content =>
      rw [hcontent] at hrequest
      simp [ValidatedKVMutation.mutation, WorkerMutation.mutation, hrequest,
        normalizedRequest_contentType, normalizedRequest_encoding, text?]

theorem validateKvMutation_error {value : Value} :
    validateKvMutation lib value = .error .unicodeEncode ↔
      checkedMutation lib value = .error .unicodeEncode := by
  simp only [validateKvMutation, bind_error, pure_error, and_false, exists_false, or_false]

theorem workerValidateKvMutation_error {value : Value} :
    workerValidateKvMutation lib value = .error .unicodeEncode ↔
      checkedMutation lib value = .error .unicodeEncode := by
  simp only [workerValidateKvMutation, bind_error, pure_error, and_false, exists_false, or_false]

/-- Both copies return or raise their protocol error, and agree, unless the value is a set of a
UTF-8 text with a lone surrogate. -/
theorem validators_disciplined_iff (value : Value) :
    (Disciplined (validateKvMutation lib value) ∧
        Disciplined (workerValidateKvMutation lib value) ∧
        (validateKvMutation lib value).map ValidatedKVMutation.mutation =
          (workerValidateKvMutation lib value).map WorkerMutation.mutation) ↔
      ¬ ∃ members, value = .dict members ∧ SurrogateSet members := by
  rw [← @checkedMutation_error lib, disciplined_iff, disciplined_iff, ne_eq, ne_eq,
    validateKvMutation_error, workerValidateKvMutation_error]
  constructor
  · exact And.left
  · intro h
    exact ⟨h, h, copies_agree lib value⟩

theorem surrogate_lt : 55296 < 1114112 := by decide

def surrogateRequest : Value :=
  .dict [entry "schema_version" (.text schemaVersion), entry "idempotency_key" (.text (points "k")),
    entry "operation" (.text (points "set")), entry "key" (.text (points "a")),
    entry "expected_version" .none,
    entry "content_type" (.text (points "text/plain; charset=utf-8")),
    entry "encoding" (.text (points "utf8")), entry "value" (.text [⟨55296, surrogate_lt⟩])]

/-- Encodings that leave the bytes as they are. No UTF-8 value reads them. -/
def identityEncodings : Encodings where
  b64decode bytes := some bytes
  b64encode bytes := bytes
  sha256 _ := ""

/-- Neither copy returns or raises its protocol error for it. -/
theorem surrogate_escapes :
    ¬ Disciplined (validateKvMutation identityEncodings surrogateRequest) ∧
      ¬ Disciplined (workerValidateKvMutation identityEncodings surrogateRequest) := by
  have hchecked : checkedMutation identityEncodings surrogateRequest = .error .unicodeEncode := by
    rfl
  simp [disciplined_iff, validateKvMutation_error, workerValidateKvMutation_error, hchecked]

end Agreement
end RoozDataCloud.MutationErrors
