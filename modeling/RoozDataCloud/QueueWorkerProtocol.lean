import RoozDataCloud.CapabilityAgreement
import RoozDataCloud.WebFetchContract

set_option autoImplicit false

/-!
# The worker's side of a claimed queue request

The worker checks a claim once more, builds the fetch of its URL, and hands the adapted
result of the broker to the agent. The contract and this module digest the same envelope,
one without `ensure_ascii` and one with it, so a result is taken exactly when the URL has
printable ASCII characters only.
-/
namespace RoozDataCloud.QueueWorkerProtocol
open FallibleSteps JsonDocuments WorkerEgress JsonTexts WebFetchContract
open Datasets (Json)

def boundaryError (message : String) : Raised := ⟨.queueBoundary, message⟩

/-- `_json_value` -/
def jsonValue : Json → Except Raised Unit :=
  jsonChecked (boundaryError "Queue user data exceeds the maximum nesting depth.")
    (boundaryError "Queue user data contains a non-finite number.") 0

section Claims
variable (lib : WorkerLibrary)

def urlInvalid : Raised := boundaryError "Queue request URL is invalid."

def httpsUrl (value : Json) : Except Raised String := do
  let url ← demand (text? value) urlInvalid
  require (1 ≤ url.length ∧ url.length ≤ 2048) urlInvalid
  let parsed ← demand (lib.urlsplit url) urlInvalid
  let port ← demand parsed.port urlInvalid
  require (parsed.scheme = "https") urlInvalid
  let hostname ← demand (parsed.hostname.filter (· ≠ "")) urlInvalid
  require (parsed.username = none ∧ parsed.password = none) urlInvalid
  require (port = none ∨ port = some 443) urlInvalid
  require (url.toList.any lib.isSpace = false) urlInvalid
  require (lib.isIpAddress hostname = false)
    (boundaryError "Queue request URL cannot use an IP literal.")
  pure url

/-- `str(UUID(str(value)))` -/
def uuidOf (value : Json) : Option String := (lib.parseUuid (lib.str value)).map lib.uuidText

def claimFields : List String :=
  ["id", "queue_id", "url", "user_data", "attempt_count", "claim_token"]

def validateQueueClaimResult (value : Json) (expectedQueueId : String) : Except Raised Members := do
  let fieldsInvalid := boundaryError "Queue claim result fields are invalid."
  let members ← demand (object? value) fieldsInvalid
  require (hasExactly members claimFields = true) fieldsInvalid
  let identifiersInvalid := boundaryError "Queue claim identifiers are invalid."
  let requestId ← demand (uuidOf lib (member members "id")) identifiersInvalid
  let queueId ← demand (uuidOf lib (member members "queue_id")) identifiersInvalid
  let claimToken ← demand (uuidOf lib (member members "claim_token")) identifiersInvalid
  require (queueId = expectedQueueId) (boundaryError "Queue claim is outside the bound Queue.")
  let attemptCount ← demand ((intFrom 1 (member members "attempt_count")).filter (· ≤ 100))
    (boundaryError "Queue claim attempt count is invalid.")
  jsonValue (member members "user_data")
  require (utf8Length (dumps false (member members "user_data")) ≤ 65536)
    (boundaryError "Queue user data exceeds the worker limit.")
  let url ← httpsUrl lib (member members "url")
  pure [("schema_version", .text "rdc.queue-worker-claim/v1"), ("request_id", .text requestId),
    ("queue_id", .text queueId), ("url", .text url), ("user_data", member members "user_data"),
    ("attempt_count", .int attemptCount), ("claim_token", .text claimToken)]

/-- The envelope of one fetch. -/
def fetchDocument (url : String) : Json :=
  .object [("schema_version", .text "rdc.web-fetch/v1"),
    ("requests", .list [.object [("id", .text "queue-request"), ("method", .text "GET"),
      ("url", .text url)]])]

def queueHttpFetchEnvelope (claim : Members) : Except Raised Json := do
  require (member claim "schema_version" = .text "rdc.queue-worker-claim/v1")
    (boundaryError "Queue HTTP acquisition requires a validated claim.")
  let _ ← demand (lib.parseUuid (lib.str ((claim.lookup "request_id").getD (.text ""))))
    (boundaryError "Queue HTTP acquisition request id is invalid.")
  let url ← httpsUrl lib (member claim "url")
  pure (fetchDocument url)

def resultFields : List String := ["schema_version", "request_digest", "results", "budget"]

/-- The one result of a fetch, as an object. -/
def onlyResult : Json → Option Members
  | .list [.object result] => some result
  | _ => none

def queueHttpAgentResult (claim : Members) (webFetchResult : Json) : Except Raised Members := do
  let envelope ← queueHttpFetchEnvelope lib claim
  let expectedDigest := lib.hexSha256 (dumps true envelope)
  let envelopeInvalid := boundaryError "Queue HTTP result envelope is invalid."
  let members ← demand (object? webFetchResult) envelopeInvalid
  require (hasExactly members resultFields = true ∧
    member members "schema_version" = .text "rdc.web-fetch-result/v1" ∧
    member members "request_digest" = .text expectedDigest) envelopeInvalid
  let resultInvalid := boundaryError "Queue HTTP result does not match its claim."
  let result ← demand (onlyResult (member members "results")) resultInvalid
  require (member result "id" = .text "queue-request" ∧ member result "method" = .text "GET")
    resultInvalid
  let budget ← demand (object? (member members "budget")) resultInvalid
  pure [("schema_version", .text "rdc.queue-http-result/v1"),
    ("request_id", .text (lib.str (member claim "request_id"))),
    ("queue_id", .text (lib.str (member claim "queue_id"))),
    ("response", .object result), ("budget", .object budget)]

end Claims

section Results
variable {lib : WorkerLibrary} {value output : Json} {expected url : String} {claim result : Members}

theorem validateQueueClaimResult_ok (h : validateQueueClaimResult lib value expected = .ok claim) :
    ∃ requestId claimToken url userData attempts,
      httpsUrl lib (.text url) = .ok url ∧
        claim = [("schema_version", .text "rdc.queue-worker-claim/v1"),
          ("request_id", .text (lib.uuidText requestId)), ("queue_id", .text expected),
          ("url", .text url), ("user_data", userData), ("attempt_count", .int attempts),
          ("claim_token", .text claimToken)] := by
  simp only [validateQueueClaimResult, bind_ok, demand_ok, require_ok, pure_ok, exists_const] at h
  obtain ⟨members, -, -, requestId, hrequest, queueId, -, claimToken, -, rfl, attempts, -, -, -, -,
    url, hurl, rfl⟩ := h
  obtain ⟨id, -, rfl⟩ := Option.map_eq_some_iff.1 hrequest
  have htext : member members "url" = .text url := by
    simp only [httpsUrl, bind_ok, demand_ok, require_ok, pure_ok, exists_const] at hurl
    obtain ⟨read, hread, -, -, -, -, -, -, -, -, -, -, -, -, rfl⟩ := hurl
    exact text?_eq.1 hread
  rw [htext] at hurl
  exact ⟨id, claimToken, url, _, attempts, hurl, rfl⟩

theorem fetchDocument_plain (url : String) :
    plainDocument (fetchDocument url) = plainText url := by
  have hfixed : plainText "schema_version" = true ∧ plainText "rdc.web-fetch/v1" = true ∧
      plainText "requests" = true ∧ plainText "id" = true ∧ plainText "queue-request" = true ∧
      plainText "method" = true ∧ plainText "GET" = true ∧ plainText "url" = true := by
    decide
  simp [fetchDocument, plainDocument, plainMembers, plainItems, hfixed]

theorem digests_agree (lib : WorkerLibrary) (url : String) :
    lib.hexSha256 (canonicalText (fetchDocument url)) = lib.hexSha256 (dumps true (fetchDocument url)) ↔
      plainText url = true := by
  have hoptions := dumps_options (v := fetchDocument url) rfl
  rw [fetchDocument_plain] at hoptions
  rw [← hoptions]
  constructor
  · intro h
    exact (lib.collisionFree _ _ h).symm
  · intro h
    rw [canonicalText, h]

theorem normalizeRequest_ok {members : Members} {request : WebFetchRequest}
    (h : normalizeRequest lib (.object members) = .ok request) :
    member members "id" = .text request.requestId ∧
      (∃ method, member members "method" = .text method ∧ request.method = lib.upper method) ∧
      member members "url" = .text request.url := by
  simp only [normalizeRequest, bind_ok, demand_ok, require_ok, pure_ok, exists_const,
    Option.filter_eq_some_iff, text?_eq] at h
  obtain ⟨read, hread, -, requestId, ⟨hid, -⟩, method, hmethod, -, url, hurl, -, -, -, -, -, -, rfl⟩ := h
  cases hread
  exact ⟨hid, ⟨method, hmethod, rfl⟩, hurl⟩

theorem parse_fetchDocument {envelope : WebFetchEnvelope}
    (h : parseWebFetchEnvelope lib (fetchDocument url) = .ok envelope) :
    envelope = { requests := [⟨"queue-request", "GET", url⟩] } := by
  simp only [parseWebFetchEnvelope, fetchDocument, bind_ok, demand_ok, require_ok, pure_ok,
    exists_const, object?_eq] at h
  obtain ⟨members, hmembers, -, -, requests, hrequests, -, normalized, hnormalized, -, -, rfl⟩ := h
  cases hmembers
  obtain rfl := (Option.some.inj hrequests).symm
  simp only [List.mapM_cons, List.mapM_nil, bind_ok, pure_ok] at hnormalized
  obtain ⟨request, hrequest, _, rfl, rfl⟩ := hnormalized
  obtain ⟨hid, ⟨method, hmethod, hupper⟩, hurl⟩ := normalizeRequest_ok hrequest
  have hget : lib.upper "GET" = "GET" := lib.upper_capital "GET" (by decide)
  obtain rfl := Json.text.inj hmethod
  cases request with
  | mk requestId method url' =>
    obtain rfl := Json.text.inj hid
    obtain rfl := Json.text.inj hurl
    simp only [hget] at hupper
    rw [hupper]

theorem adapter_fetchDocument
    (h : phase1jBrokerResultAdapter lib (fetchDocument url) output = .ok result) :
    ∃ response budget, member response "id" = .text "queue-request" ∧
      member response "method" = .text "GET" ∧
      result = [("schema_version", .text "rdc.web-fetch-result/v1"),
        ("request_digest", .text (lib.hexSha256 (canonicalText (fetchDocument url)))),
        ("results", .list [.object response]), ("budget", .object budget)] := by
  simp only [phase1jBrokerResultAdapter, bind_ok, demand_ok, require_ok, pure_ok, exists_const] at h
  obtain ⟨envelope, henvelope, members, -, raws, -, rawBudget, -, hcount, results, hresults, budget,
    -, rfl⟩ := h
  obtain rfl := parse_fetchDocument henvelope
  obtain ⟨raw, rfl⟩ := List.length_eq_one_iff.1 hcount
  simp only [List.zip_cons_cons, List.zip_nil_right, List.mapM_cons, List.mapM_nil, bind_ok,
    pure_ok] at hresults
  obtain ⟨adapted, hadapted, _, rfl, rfl⟩ := hresults
  simp only [adaptResult, bind_ok, demand_ok, require_ok, pure_ok, exists_const] at hadapted
  obtain ⟨_, -, -, -, _, -, _, -, _, -, _, -, _, -, rfl⟩ := hadapted
  exact ⟨_, budget, rfl, rfl, rfl⟩

theorem adapter_digest {raw : Json} (h : phase1jBrokerResultAdapter lib raw output = .ok result) :
    ∃ envelope, parseWebFetchEnvelope lib raw = .ok envelope ∧
      member result "request_digest" = .text (envelope.digest lib) := by
  simp only [phase1jBrokerResultAdapter, bind_ok, demand_ok, require_ok, pure_ok, exists_const] at h
  obtain ⟨envelope, henvelope, _, -, _, -, _, -, -, _, -, _, -, rfl⟩ := h
  exact ⟨envelope, henvelope, rfl⟩

theorem envelope_built (h : validateQueueClaimResult lib value expected = .ok claim) :
    ∃ url, member claim "url" = .text url ∧
      queueHttpFetchEnvelope lib claim = .ok (fetchDocument url) := by
  obtain ⟨requestId, claimToken, url, userData, attempts, hurl, rfl⟩ :=
    validateQueueClaimResult_ok h
  have hparsed : lib.parseUuid (lib.str (.text (lib.uuidText requestId))) = some requestId := by
    rw [lib.str_text, lib.parse_uuidText]
  refine ⟨url, rfl, ?_⟩
  simp only [queueHttpFetchEnvelope, bind_ok, demand_ok, require_ok, pure_ok, exists_const]
  exact ⟨rfl, requestId, hparsed, url, hurl, rfl⟩

theorem queueHttpAgentResult_iff {envelope : Json} {digest : String} {response budget : Members}
    (henvelope : queueHttpFetchEnvelope lib claim = .ok envelope)
    (hid : member response "id" = .text "queue-request")
    (hmethod : member response "method" = .text "GET") {input : Members} :
    queueHttpAgentResult lib claim (.object [("schema_version", .text "rdc.web-fetch-result/v1"),
        ("request_digest", .text digest), ("results", .list [.object response]),
        ("budget", .object budget)]) = .ok input ↔
      digest = lib.hexSha256 (dumps true envelope) ∧
        [("schema_version", .text "rdc.queue-http-result/v1"),
          ("request_id", .text (lib.str (member claim "request_id"))),
          ("queue_id", .text (lib.str (member claim "queue_id"))),
          ("response", .object response), ("budget", .object budget)] = input := by
  simp only [queueHttpAgentResult, bind_ok, demand_ok, require_ok, pure_ok, exists_const]
  constructor
  · rintro ⟨_, hbuilt, members, hmembers, ⟨-, -, hdigest⟩, taken, htaken, -, budget', hbudget, rfl⟩
    obtain rfl := Except.ok.inj (henvelope.symm.trans hbuilt)
    cases hmembers
    cases htaken
    cases hbudget
    exact ⟨Json.text.inj hdigest, rfl⟩
  · rintro ⟨rfl, rfl⟩
    exact ⟨envelope, henvelope, _, rfl, ⟨rfl, rfl, rfl⟩, response, rfl, ⟨hid, hmethod⟩, budget,
      rfl, rfl⟩

/-- For every checked claim the envelope is built. A result that the adapter accepts for it carries
the envelope's digest, and the agent's input is built from it exactly when the URL is plain. -/
theorem queue_http_result_accepted_iff (h : validateQueueClaimResult lib value expected = .ok claim) :
    ∃ url, member claim "url" = .text url ∧
      queueHttpFetchEnvelope lib claim = .ok (fetchDocument url) ∧
      ∀ output result, phase1jBrokerResultAdapter lib (fetchDocument url) output = .ok result →
        (∃ envelope, parseWebFetchEnvelope lib (fetchDocument url) = .ok envelope ∧
            member result "request_digest" = .text (envelope.digest lib)) ∧
          ((∃ input, queueHttpAgentResult lib claim (.object result) = .ok input ∧
              member result "results" = .list [member input "response"] ∧
              member result "budget" = member input "budget") ↔
            plainText url = true) := by
  obtain ⟨url, hurl, hbuilt⟩ := envelope_built h
  refine ⟨url, hurl, hbuilt, ?_⟩
  intro output result hadapted
  have hdigest := adapter_digest hadapted
  obtain ⟨response, budget, hid, hmethod, rfl⟩ := adapter_fetchDocument hadapted
  refine ⟨hdigest, ?_⟩
  rw [← digests_agree lib url]
  constructor
  · rintro ⟨input, hinput, -, -⟩
    exact ((queueHttpAgentResult_iff hbuilt hid hmethod).1 hinput).1
  · intro hagree
    exact ⟨_, (queueHttpAgentResult_iff hbuilt hid hmethod).2 ⟨hagree, rfl⟩, rfl, rfl⟩

end Results

section Samples
open CapabilityAgreement (smallEncoding silentCodec strokes)

/-- Every URL is one of the host `example.org`, and a text is its own digest. -/
def sampleLibrary : WorkerLibrary where
  toEncoding := smallEncoding silentCodec
  strip := id
  upper := id
  lower := id
  casefold := id
  isIpAddress := fun _ => false
  isGlobal := fun _ => true
  encodeIdna := some
  urlsplit := fun _ => some ⟨"https", none, none, some "example.org", some none, "/", ""⟩
  urlunsplit := fun _ _ path _ => path
  urljoin := fun _ url => some url
  decodeText := fun _ _ => .ok ""
  isSpace := Char.isWhitespace
  hexSha256 := String.ofList
  collisionFree := fun _ _ h => String.ofList_injective h
  upper_capital := fun _ _ => rfl

def sampleRequest (url : String) : Json :=
  .object [("id", .text (strokes 1)), ("queue_id", .text (strokes 2)), ("url", .text url),
    ("user_data", .object []), ("attempt_count", .int 1), ("claim_token", .text (strokes 3))]

/-- The broker's output for one fetch without a body. -/
def sampleOutput (url : String) : Json :=
  .object [("_rdc_web_results", .list [.object [("id", .text "queue-request"),
      ("method", .text "GET"), ("url", .text url), ("status", .int 200), ("headers", .object []),
      ("size_bytes", .int 0), ("body_sha256", .text (String.ofList (List.replicate 64 '0')))]]),
    ("_rdc_web_budget", .object [("requests_used", .int 1), ("bytes_received", .int 0),
      ("max_requests", .int 8), ("max_total_bytes", .int 4194304)])]

/-- The adapted result of the fetch of a request, with its claim. -/
def sampleFetch (url : String) : Except Raised (Members × Members) := do
  let claim ← validateQueueClaimResult sampleLibrary (sampleRequest url) (strokes 2)
  let envelope ← queueHttpFetchEnvelope sampleLibrary claim
  let result ← phase1jBrokerResultAdapter sampleLibrary envelope (sampleOutput url)
  pure (claim, result)

theorem plainFetch_ok : (sampleFetch "https://example.org/").isOk = true := by
  decide +kernel

theorem plain_url_accepted : ∃ claim result input,
    sampleFetch "https://example.org/" = .ok (claim, result) ∧
      queueHttpAgentResult sampleLibrary claim (.object result) = .ok input := by
  obtain ⟨⟨claim, result⟩, hfetch⟩ : ∃ pair, sampleFetch "https://example.org/" = .ok pair :=
    ⟨_, okValue_eq _ plainFetch_ok⟩
  have hsteps := hfetch
  simp only [sampleFetch, bind_ok, pure_ok, Prod.mk.injEq] at hsteps
  obtain ⟨_, hclaim, envelope, henvelope, _, hresult, rfl, rfl⟩ := hsteps
  obtain ⟨url, hurl, hbuilt, haccepted⟩ := queue_http_result_accepted_iff hclaim
  obtain rfl := Except.ok.inj (hbuilt.symm.trans henvelope)
  have hsame : (validateQueueClaimResult sampleLibrary (sampleRequest "https://example.org/")
      (strokes 2)).map (member · "url") = .ok (.text "https://example.org/") := rfl
  rw [hclaim, Except.map, hurl] at hsame
  obtain rfl := Json.text.inj (Except.ok.inj hsame)
  obtain ⟨input, hinput, -⟩ := (haccepted _ _ hresult).2.2 (by decide)
  exact ⟨_, _, input, hfetch, hinput⟩

/-- The fetch is adapted, and its result is not taken. -/
def refused (url : String) : Bool :=
  match sampleFetch url with
  | .ok (claim, result) => match queueHttpAgentResult sampleLibrary claim (.object result) with
    | .error raised => raised = boundaryError "Queue HTTP result envelope is invalid."
    | .ok _ => false
  | .error _ => false

theorem escaped_url_refused : refused "https://example.org/é" = true := by
  decide +kernel

end Samples
end RoozDataCloud.QueueWorkerProtocol
