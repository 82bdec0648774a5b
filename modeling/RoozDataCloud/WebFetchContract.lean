import RoozDataCloud.EgressBroker
import RoozDataCloud.JsonTexts

set_option autoImplicit false

/-!
# The web fetch contract of the worker

The worker parses the fetches that a Run asks for into an envelope with a digest,
and adapts the broker's output to that envelope.
-/
namespace RoozDataCloud.WebFetchContract
open FallibleSteps JsonDocuments WorkerEgress EgressBroker JsonTexts
open Datasets (Json)

/-- `hexSha256` is the digest of the UTF-8 encoding of a text. -/
structure WorkerLibrary extends WebLibrary where
  isSpace : Char → Bool
  hexSha256 : List Char → String
  collisionFree : ∀ text text', hexSha256 text = hexSha256 text' → text = text'
  upper_capital : ∀ text, text.toList.all Char.isUpper = true → upper text = text

def contractError (message : String) : Raised := ⟨.webFetchContract, message⟩

/-- The length of the UTF-8 encoding of a text. -/
def utf8Length (text : List Char) : ℕ := (text.map Char.utf8Size).sum

/-- `text.startswith(start)` -/
def startsWith (text start : String) : Bool := start.toList.isPrefixOf text.toList

section Values
variable (tooDeep notFinite : Raised)

-- The walk over a JSON value that the worker's protocols make, each with its own messages.
mutual

def jsonChecked (depth : ℕ) : Json → Except Raised Unit
  | .float finite _ => do
    require (depth ≤ 32) tooDeep
    require (finite = true) notFinite
  | .list items => do
    require (depth ≤ 32) tooDeep
    jsonCheckedItems (depth + 1) items
  | .object members => do
    require (depth ≤ 32) tooDeep
    jsonCheckedMembers (depth + 1) members
  | _ => require (depth ≤ 32) tooDeep

def jsonCheckedItems (depth : ℕ) : List Json → Except Raised Unit
  | [] => pure ()
  | item :: items => do
    jsonChecked depth item
    jsonCheckedItems depth items

def jsonCheckedMembers (depth : ℕ) : Members → Except Raised Unit
  | [] => pure ()
  | (_, value) :: members => do
    jsonChecked depth value
    jsonCheckedMembers depth members

end
end Values

structure WebFetchRequest where
  requestId : String
  method : String
  url : String

def WebFetchRequest.asBrokerRequest (request : WebFetchRequest) : Json :=
  .object [("id", .text request.requestId), ("method", .text request.method),
    ("url", .text request.url)]

structure WebFetchEnvelope where
  requests : List WebFetchRequest

def WebFetchEnvelope.asDict (envelope : WebFetchEnvelope) : Json :=
  .object [("schema_version", .text "rdc.web-fetch/v1"),
    ("requests", .list (envelope.requests.map WebFetchRequest.asBrokerRequest))]

/-- `_canonical_bytes`, as a text -/
def canonicalText (value : Json) : List Char := dumps false value

section Envelopes
variable (lib : WorkerLibrary)

def WebFetchEnvelope.digest (envelope : WebFetchEnvelope) : String :=
  lib.hexSha256 (canonicalText envelope.asDict)

def normalizeRequest (raw : Json) : Except Raised WebFetchRequest := do
  let fieldsInvalid := contractError "Web-fetch requests require exactly id, method, and url."
  let members ← demand (object? raw) fieldsInvalid
  require (hasExactly members ["id", "method", "url"] = true) fieldsInvalid
  let requestId ← demand ((text? (member members "id")).filter requestIdValid)
    (contractError "Web-fetch request id is invalid.")
  let method ← demand (text? (member members "method"))
    (contractError "Web-fetch method must be a string.")
  let method := lib.upper method
  require (method ∈ ["GET", "HEAD"]) (contractError "Web-fetch method must be GET or HEAD.")
  let url ← demand (text? (member members "url")) (contractError "Web-fetch URL is invalid.")
  require (url ≠ "" ∧ url.length ≤ 8192) (contractError "Web-fetch URL is invalid.")
  require (startsWith url "https://" = true)
    (contractError "Web-fetch URL must use lowercase https://.")
  let parsed ← demand (lib.urlsplit url) (contractError "Web-fetch URL is malformed.")
  require (parsed.hostname.getD "" ≠ "") (contractError "Web-fetch URL requires a hostname.")
  require (parsed.username = none ∧ parsed.password = none)
    (contractError "Web-fetch URL credentials are not allowed.")
  pure { requestId, method, url }

def parseWebFetchEnvelope (raw : Json) : Except Raised WebFetchEnvelope := do
  let fieldsInvalid :=
    contractError "Web-fetch envelope requires exactly schema_version and requests."
  let members ← demand (object? raw) fieldsInvalid
  require (hasExactly members ["schema_version", "requests"] = true) fieldsInvalid
  require (member members "schema_version" = .text "rdc.web-fetch/v1")
    (contractError "Unsupported web-fetch schema version.")
  let requests ← demand (list? (member members "requests"))
    (contractError "Web-fetch requests must be a list.")
  require (1 ≤ requests.length ∧ requests.length ≤ 32)
    (contractError "Web-fetch request count is outside the safe range.")
  let normalized ← requests.mapM (normalizeRequest lib)
  require (normalized.map WebFetchRequest.requestId).Nodup
    (contractError "Web-fetch request ids must be unique.")
  let envelope : WebFetchEnvelope := { requests := normalized }
  require (utf8Length (canonicalText envelope.asDict) ≤ 65536)
    (contractError "Web-fetch envelope cannot exceed 64 KiB.")
  pure envelope

end Envelopes

/-- `_SHA256` -/
def sha256Valid (text : String) : Bool :=
  decide (text.length = 64) &&
    text.toList.all (fun c => c.isDigit || decide (c ∈ ['a', 'b', 'c', 'd', 'e', 'f']))

/-- An integer, which no boolean is, from `low` on. -/
def intFrom (low : ℤ) (value : Json) : Option ℤ := (int? value).filter (fun n => decide (low ≤ n))

/-- The encoding and the value of a result's body. -/
def bodyContent (text encoded : Json) : Except Raised (String × Json) := do
  require (text = .null ∨ encoded = .null)
    (contractError "Broker result cannot contain text and base64 bodies together.")
  if text ≠ .null then
    let _ ← demand (text? text) (contractError "Broker text body is invalid.")
    pure ("text", text)
  else if encoded ≠ .null then
    let _ ← demand (text? encoded) (contractError "Broker base64 body is invalid.")
    pure ("base64", encoded)
  else pure ("none", .null)

def resultBody (raw : Members) : Except Raised Json := do
  let size ← demand (intFrom 0 (member raw "size_bytes"))
    (contractError "Broker result size is invalid.")
  let digest ← demand ((text? (member raw "body_sha256")).filter sha256Valid)
    (contractError "Broker result body digest is invalid.")
  let (encoding, value) ← bodyContent (member raw "body_text") (member raw "body_base64")
  pure (.object [("encoding", .text encoding), ("value", value), ("size_bytes", .int size),
    ("sha256", .text digest)])

section Results
variable (lib : WorkerLibrary)

def safeHeader (headers : Members) (entry : String × Json) : Except Raised Members := do
  let unsupported := contractError "Broker returned an unsupported response header."
  let value ← demand (text? entry.2) unsupported
  require (lib.casefold entry.1 ∈ safeHeaderNames) unsupported
  pure (assign headers (lib.casefold entry.1) (.text (String.ofList (value.toList.take 2048))))

/-- The result of one fetch, against its request. -/
def adaptResult (request : WebFetchRequest) (raw : Json) : Except Raised Json := do
  let members ← demand (object? raw) (contractError "Broker result must be an object.")
  require (member members "id" = .text request.requestId)
    (contractError "Broker result id mismatch.")
  require (member members "method" = .text request.method)
    (contractError "Broker result method mismatch.")
  let url ← demand ((text? (member members "url")).filter (startsWith · "https://"))
    (contractError "Broker final URL is invalid.")
  let status ← demand ((intFrom 100 (member members "status")).filter (· ≤ 599))
    (contractError "Broker HTTP status is invalid.")
  let headers ← demand (object? (member members "headers"))
    (contractError "Broker headers are invalid.")
  let safe ← headers.foldlM (safeHeader lib) []
  let body ← resultBody members
  pure (.object [("id", .text request.requestId), ("method", .text request.method),
    ("url", .text url), ("status", .int status), ("headers", .object safe), ("body", body)])

def budgetKeys : List String := ["bytes_received", "max_requests", "max_total_bytes", "requests_used"]

def adaptBudget (raw : Members) : Except Raised Members := do
  require (hasExactly raw budgetKeys = true) (contractError "Broker budget metadata is invalid.")
  budgetKeys.mapM (fun key => do
    let value ← demand (intFrom 0 (member raw key))
      (contractError "Broker budget value is invalid.")
    pure (key, .int value))

def phase1jBrokerResultAdapter (requestEnvelope output : Json) : Except Raised Members := do
  let envelope ← parseWebFetchEnvelope lib requestEnvelope
  let members ← demand (object? output) (contractError "Broker output must be an object.")
  let missing := contractError "Broker output is missing result or budget metadata."
  let rawResults ← demand (list? (member members "_rdc_web_results")) missing
  let rawBudget ← demand (object? (member members "_rdc_web_budget")) missing
  require (rawResults.length = envelope.requests.length)
    (contractError "Broker result count does not match the request envelope.")
  let results ← (envelope.requests.zip rawResults).mapM (fun pair => adaptResult lib pair.1 pair.2)
  let budget ← adaptBudget rawBudget
  pure [("schema_version", .text "rdc.web-fetch-result/v1"),
    ("request_digest", .text (envelope.digest lib)), ("results", .list results),
    ("budget", .object budget)]

end Results
end RoozDataCloud.WebFetchContract
