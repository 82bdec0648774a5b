import RoozDataCloud.ExceptionalRuns
import RoozDataCloud.WorkerEgress

set_option autoImplicit false

/-!
# The egress broker

The broker fetches for a workload that has no network. The resolver and the servers
may answer anything, and may answer differently each time: they see everything that
has been asked of them. What the broker has asked is kept when it raises.
-/
namespace RoozDataCloud.EgressBroker
open ExceptionalRuns FallibleSteps JsonDocuments SandboxSettings WorkerEgress
open EgressBindings (sortedSet)
open Datasets (Json)

/-- A component of an answer of the resolver. -/
inductive Component where
  | tuple (items : List String)
  | scalar (text : String)

abbrev Record := List Component

/-- The address of a record that has one, at its fifth place. -/
def recordAddress (record : Record) : Option String :=
  match record.drop 4 with
  | .tuple (address :: _) :: _ => some address
  | _ => none

/-- `dict[key] = value` -/
def assign {α : Type} (entries : List (String × α)) (key : String) (value : α) :
    List (String × α) :=
  if entries.any (fun entry => entry.1 = key) then
    entries.map (fun entry => if entry.1 = key then (key, value) else entry)
  else entries ++ [(key, value)]

/-- Addresses that may be connected to. -/
structure PublicAddresses (web : WebLibrary) where
  items : List String
  nonempty : items ≠ []
  global : ∀ address ∈ items, web.isIpAddress address = true ∧ web.isGlobal address = true

structure ValidatedTarget (web : WebLibrary) where
  url : String
  hostname : String
  addresses : PublicAddresses web

/-- A pinned HTTPS connection. -/
structure Connection where
  hostname : String
  address : String
  port : ℕ
  tlsServerName : Option String
  connectTimeout : ℤ
  requestTimeout : ℤ

/-- One request that is sent upstream, for the fetch of `requestId`. -/
structure Upstream (web : WebLibrary) where
  requestId : String
  target : ValidatedTarget web
  connection : Connection
  method : String
  path : String
  authorization : Option String

inductive Event (web : WebLibrary) where
  | lookup (hostname : String) (answer : Except Raised (List Record))
  | request (message : Upstream web)

/-- The body is read up to a number of bytes. -/
structure ServerResponse where
  status : ℕ
  headers : List (String × String)
  read : ℕ → Except Raised (List UInt8)

/-- The resolver and the servers, by what has been asked before, the last first. -/
structure World (web : WebLibrary) where
  resolve : List (Event web) → String → Except Raised (List Record)
  serve : List (Event web) → Upstream web → Except Raised ServerResponse

/-- `budget`, and what has been asked. -/
structure BrokerState (web : WebLibrary) where
  requests : ℕ
  bytes : ℕ
  history : List (Event web)

abbrev Broker (web : WebLibrary) := Prog Raised (BrokerState web)

structure BrokerResponse where
  requestId : String
  method : String
  url : String
  status : ℕ
  headers : List (String × String)
  bodyText : Option String
  bodyBase64 : Option String
  sizeBytes : ℕ
  bodySha256 : String

def redirectStatuses : List ℕ := [301, 302, 303, 307, 308]

def textualTypes : List String :=
  ["text/", "application/json", "application/xml", "application/xhtml+xml",
    "application/javascript"]

def safeHeaderNames : List String :=
  ["content-type", "content-length", "etag", "last-modified", "cache-control"]

/-- `_REQUEST_ID` -/
def requestIdValid (id : String) : Bool :=
  match id.toList with
  | [] => false
  | c :: rest => c.isAlphanum && decide (rest.length ≤ 63) &&
    rest.all (fun c => c.isAlphanum || decide (c ∈ ['.', '_', '-']))

/-- `text.strip(c)` for a text of one character. -/
def stripChar (c : Char) (text : String) : String :=
  String.ofList ((text.toList.dropWhile (· = c)).rdropWhile (· = c))

section Addresses
variable (web : WebLibrary)

def requireGlobalAddress (value : String) : Except Raised Unit := do
  require (web.isIpAddress value = true)
    (egressError "DNS resolver returned an invalid IP address.")
  require (web.isGlobal value = true)
    (egressError "Egress destination resolved to a non-global network address.")

/-- The addresses of an answer, if each is global. -/
def usableAddresses (records : List Record) : Except Raised (List String) := do
  let addresses := records.filterMap recordAddress
  addresses.forM (requireGlobalAddress web)
  require (addresses ≠ []) (egressError "Egress hostname resolved to no usable addresses.")
  pure (sortedSet addresses)

variable {web}

theorem usableAddresses_ok {records : List Record} {items : List String}
    (h : usableAddresses web records = .ok items) :
    items = sortedSet (records.filterMap recordAddress) ∧ items ≠ [] ∧
      ∀ address ∈ records.filterMap recordAddress,
        web.isIpAddress address = true ∧ web.isGlobal address = true := by
  simp only [usableAddresses, bind_ok, require_ok, pure_ok] at h
  obtain ⟨_, hglobal, _, hnonempty, rfl⟩ := h
  refine ⟨rfl, fun hempty => hnonempty ?_, fun address haddress => ?_⟩
  · exact List.eq_nil_iff_forall_not_mem.2 (fun address haddress =>
      List.not_mem_nil (hempty ▸ mem_sortedSet.2 haddress))
  · have haccepted := forM_ok.1 hglobal address haddress
    simpa only [requireGlobalAddress, bind_ok, require_ok, exists_const] using haccepted

variable (web) in
def publicAddresses (records : List Record) : Except Raised (PublicAddresses web) :=
  match h : usableAddresses web records with
  | .error raised => .error raised
  | .ok items => .ok
    { items := items
      nonempty := (usableAddresses_ok h).2.1
      global := by
        obtain ⟨rfl, -, hglobal⟩ := usableAddresses_ok h
        exact fun address haddress => hglobal address (mem_sortedSet.1 haddress) }

theorem publicAddresses_ok {records : List Record} {addresses : PublicAddresses web}
    (h : publicAddresses web records = .ok addresses) :
    usableAddresses web records = .ok addresses.items := by
  unfold publicAddresses at h
  split at h
  · cases h
  · next items hitems =>
    cases h
    exact hitems

end Addresses

section Requests
variable {web : WebLibrary} (world : World web) (policy : EgressPolicy web)

/-- What the resolver says now. An `OSError` is a denied target. -/
def lookup (hostname : String) : Broker web (List Record) := do
  let state ← get
  let answer := world.resolve state.history hostname
  set { state with history := .lookup hostname answer :: state.history }
  match answer with
  | .ok records => pure records
  | .error raised => throw (if raised.cls = .os then
      egressError "Egress hostname DNS resolution failed." else raised)

def resolvePublicAddresses (hostname : String) : Broker web (PublicAddresses web) := do
  let records ← lookup world hostname
  check (publicAddresses web records)

def urlInvalid : Raised := ⟨.value, "Invalid URL"⟩

/-- The host and the port of a URL that the policy allows, before its addresses are looked up. -/
def allowedTarget (url : String) : Except Raised (SplitUrl × String × Option ℕ) := do
  let parsed ← demand (web.urlsplit url) (egressError "Egress URL is invalid.")
  require (web.casefold parsed.scheme = "https") (egressError "Phase 1J permits HTTPS URLs only.")
  require (parsed.username = none ∧ parsed.password = none)
    (egressError "Credentials in egress URLs are not allowed.")
  let name ← demand (parsed.hostname.filter (· ≠ ""))
    (egressError "Egress URL is missing a hostname.")
  let host ← normalizeHostname web name
  require (host ∈ policy.allowedHosts)
    (egressError "Egress hostname is not operator-allowlisted.")
  let port ← demand parsed.port (egressError "Egress URL contains an invalid port.")
  require (port = none ∨ port = some 443) (egressError "Phase 1J permits HTTPS port 443 only.")
  pure (parsed, host, port)

def targetNetloc (host : String) : Option ℕ → String
  | none => host
  | some port => host ++ ":" ++ toString port

def validateTarget (url : String) : Broker web (ValidatedTarget web) := do
  let (parsed, host, port) ← check (allowedTarget policy url)
  let addresses ← resolvePublicAddresses world host
  pure
    { url := web.urlunsplit "https" (targetNetloc host port)
        (if parsed.path = "" then "/" else parsed.path) parsed.query
      hostname := host
      addresses := addresses }

/-- `_default_connection` -/
def defaultConnection (target : ValidatedTarget web) : Connection where
  hostname := target.hostname
  address := target.addresses.items.head target.addresses.nonempty
  port := 443
  tlsServerName := some target.hostname
  connectTimeout := policy.limits.connectTimeoutSeconds
  requestTimeout := policy.limits.requestTimeoutSeconds

variable (web) in
def safeHeaders (headers : List (String × String)) : List (String × String) :=
  headers.foldl (fun result (key, value) =>
    if web.casefold key ∈ safeHeaderNames then
      assign result (web.casefold key) (String.ofList (value.toList.take 2048))
    else result) []

variable (web) in
/-- `response.getheader(name)`: the values of a header, joined. -/
def header (headers : List (String × String)) (name : String) : Option String :=
  match headers.filter (fun entry => web.lower entry.1 = web.lower name) with
  | [] => none
  | entries => some (", ".intercalate (entries.map Prod.snd))

variable (web) in
/-- The charset of a content type. -/
def charset (contentType : String) : String :=
  (((contentType.toList.splitOn ';').drop 1).findSome? (fun item =>
    match (web.strip (String.ofList item)).toList.span (· ≠ '=') with
    | (name, '=' :: value) =>
      let value := web.strip (String.ofList value)
      if web.casefold (String.ofList name) = "charset" ∧ value ≠ "" then
        some (stripChar (Char.ofNat 39) (stripChar (Char.ofNat 34) value))
      else none
    | _ => none)).getD "utf-8"

variable (web) in
/-- `_decode_body` -/
def decodeBody (body : List UInt8) (contentType : String) :
    Except Raised (Option String × Option String) :=
  if textualTypes.any (fun type => type.toList.isPrefixOf (web.casefold contentType).toList) then
    match web.decodeText (charset web contentType) body with
    | .ok text => .ok (some text, none)
    | .error raised => .error (if raised.cls = .lookup then
        egressError "Response declared an unsupported charset." else raised)
  else .ok (none, some (web.b64encode body))

def authorizationValid : Option String → Bool
  | none => true
  | some text => decide (text ≠ "") && decide (text.length ≤ 8192) &&
    decide ('\r' ∉ text.toList) && decide ('\n' ∉ text.toList)

def brokeredFailure (raised : Raised) : Raised :=
  if raised.cls = .os ∨ raised.cls = .http then egressError "Brokered HTTPS request failed."
  else raised

/-- The request is sent, whatever comes of it. -/
def send (message : Upstream web) : Broker web ServerResponse := do
  let state ← get
  set { state with history := .request message :: state.history }
  match world.serve state.history message with
  | .ok response => pure response
  | .error raised => throw (brokeredFailure raised)

structure Received where
  status : ℕ
  headers : List (String × String)
  body : List UInt8
  location : Option String

/-- What the broker takes from a response. -/
def receive (method : String) (response : ServerResponse) : Except Raised Received := do
  let headers := safeHeaders web response.headers
  let encoding := web.casefold ((header web response.headers "Content-Encoding").getD "identity")
  require (encoding = "" ∨ encoding = "identity")
    (egressError "Compressed web-egress responses are not accepted in Phase 1J.")
  if response.status ∈ redirectStatuses then
    pure ⟨response.status, headers, [], header web response.headers "Location"⟩
  else if method = "HEAD" then pure ⟨response.status, headers, [], none⟩
  else do
    let body ← (response.read (policy.limits.maxResponseBytes.toNat + 1)).mapError brokeredFailure
    require ((body.length : ℤ) ≤ policy.limits.maxResponseBytes)
      (egressError "Web-egress response exceeded the per-response byte limit.")
    pure ⟨response.status, headers, body, none⟩

/-- The path of the request, if it may be sent. -/
def requestPath (target : ValidatedTarget web) (authorization : Option String) :
    Except Raised String := do
  let parsed ← demand (web.urlsplit target.url) urlInvalid
  require (authorizationValid authorization = true)
    (egressError "Broker Authorization credential is invalid.")
  let path := if parsed.path = "" then "/" else parsed.path
  pure (if parsed.query = "" then path else path ++ "?" ++ parsed.query)

def requestOnce (requestId : String) (target : ValidatedTarget web) (method : String)
    (authorization : Option String) : Broker web Received := do
  let path ← check (requestPath target authorization)
  let response ← send world
    { requestId := requestId
      target := target
      connection := defaultConnection policy target
      method := method
      path := path
      authorization := authorization }
  check (receive policy method response)

end Requests

/-- One entry of the request list, and the credential it is fetched with. -/
structure Fetch where
  requestId : String
  method : String
  url : String
  authorization : Option String

section Fetching
variable {web : WebLibrary} (world : World web) (policy : EgressPolicy web)

variable (web) in
/-- The response to a body that has been received. -/
def brokerResponse (fetch : Fetch) (url : String) (received : Received) :
    Except Raised BrokerResponse := do
  let (bodyText, bodyBase64) ← decodeBody web received.body
    ((received.headers.lookup "content-type").getD "")
  pure
    { requestId := fetch.requestId
      method := fetch.method
      url := url
      status := received.status
      headers := received.headers
      bodyText := bodyText
      bodyBase64 := bodyBase64
      sizeBytes := received.body.length
      bodySha256 := web.sha256 received.body }

/-- A body that is kept within the total. -/
def returnBody (fetch : Fetch) (url : String) (received : Received) : Broker web BrokerResponse := do
  modify (fun state => { state with bytes := state.bytes + received.body.length })
  let state ← get
  check (require ((state.bytes : ℤ) ≤ policy.limits.maxTotalBytes)
    (egressError "Web-egress total byte budget was exceeded."))
  check (brokerResponse web fetch url received)

/-- The request of one round, within the request budget. -/
def attempt (fetch : Fetch) (method url : String) : Broker web (String × Received) := do
  let state ← get
  check (require ((state.requests : ℤ) < policy.limits.maxRequests)
    (egressError "Web-egress request budget was exceeded."))
  let target ← validateTarget world policy url
  modify (fun state => { state with requests := state.requests + 1 })
  let received ← requestOnce world policy fetch.requestId target method fetch.authorization
  pure (target.url, received)

/-- One round of the loop of `_fetch`: a redirect from a URL to a location, or the response. -/
def fetchRound (fetch : Fetch) (method url : String) :
    Broker web ((String × String) ⊕ BrokerResponse) := do
  let (url, received) ← attempt world policy fetch method url
  if received.status ∈ redirectStatuses then
    let location ← check (demand (received.location.filter (· ≠ ""))
      (egressError "Redirect response did not include Location."))
    pure (.inl (url, location))
  else
    let response ← returnBody policy fetch url received
    pure (.inr response)

/-- The loop of `_fetch`, while `left` redirects may still be followed. -/
def follow (fetch : Fetch) (method : String) : (left : ℕ) → (url : String) →
    Broker web BrokerResponse
  | 0, url => do
    match ← fetchRound world policy fetch method url with
    | .inl _ => throw (egressError "Web-egress redirect budget was exceeded.")
    | .inr response => pure response
  | left + 1, url => do
    match ← fetchRound world policy fetch method url with
    | .inl (base, location) =>
      let next ← check (demand (web.urljoin base location) urlInvalid)
      follow fetch method left next
    | .inr response => pure response

/-- `_fetch` -/
def fetchOne (fetch : Fetch) : Broker web BrokerResponse := do
  let method := web.upper (web.strip fetch.method)
  check (require (method ∈ policy.allowedMethods)
    (egressError "Broker request method is not allowed by the active policy."))
  follow world policy fetch method policy.limits.maxRedirects.toNat fetch.url

variable (web) in
/-- `str(raw.get(key, default))` -/
def textField (members : Members) (key default : String) : String :=
  ((members.lookup key).map web.str).getD default

variable (web) in
/-- An entry of the request list whose id has not been seen. -/
def requestedFetch (authorization : Option String) (seen : List String) :
    Json → Except Raised Fetch
  | .object members => do
    let requestId := textField web members "id" ""
    require (requestIdValid requestId = true) (egressError "Web request id is invalid.")
    require (requestId ∉ seen) (egressError "Web request ids must be unique.")
    let method := web.upper (textField web members "method" "GET")
    require (method ∈ ["GET", "HEAD"]) (egressError "Phase 1J permits GET and HEAD only.")
    let url := textField web members "url" ""
    require (url ≠ "") (egressError "Web request URL cannot be blank.")
    pure ⟨requestId, method, url, authorization⟩
  | _ => .error (egressError "Each web request must be an object.")

/-- The loop over the request list. -/
def fetchAll (authorization : Option String) : (seen : List String) →
    (responses : List BrokerResponse) → List Json → Broker web (List BrokerResponse)
  | _, responses, [] => pure responses
  | seen, responses, raw :: rest => do
    let fetch ← check (requestedFetch web authorization seen raw)
    let response ← fetchOne world policy fetch
    fetchAll authorization (fetch.requestId :: seen) (responses ++ [response]) rest

end Fetching

/-- The result of the broker: the input without its requests, the responses and the budget. -/
structure BrokerOutput where
  input : Members
  responses : List BrokerResponse
  requestsUsed : ℕ
  bytesReceived : ℕ

section Brokering
variable {web : WebLibrary} (world : World web) (policy : EgressPolicy web)

/-- The request list of an input. -/
def rawRequests (input : Members) : Except Raised (List Json) := do
  let requests ← match input.lookup "_rdc_web_requests" with
    | none => pure []
    | some (.list requests) => pure requests
    | some _ => .error (egressError "_rdc_web_requests must be a list.")
  require ((requests.length : ℤ) ≤ policy.limits.maxRequests)
    (egressError "Requested web fetches exceed the request budget.")
  pure requests

def brokerWebRequests (input : Members) (authorization : Option String) :
    Broker web BrokerOutput := do
  let requests ← check (rawRequests policy input)
  modify (fun state => { state with requests := 0, bytes := 0 })
  let responses ← fetchAll world policy authorization [] [] requests
  let state ← get
  pure
    { input := input.filter (fun entry => entry.1 ≠ "_rdc_web_requests")
      responses := responses
      requestsUsed := state.requests
      bytesReceived := state.bytes }

/-- One call of the broker, with what it leaves behind. -/
def brokerCall (input : Members) (authorization : Option String) :
    Except Raised BrokerOutput × BrokerState web :=
  outcome (brokerWebRequests world policy input authorization) ⟨0, 0, []⟩

end Brokering
end RoozDataCloud.EgressBroker
