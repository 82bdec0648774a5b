import RoozDataCloud.EgressBroker

set_option autoImplicit false
set_option mvcgen.warning false

/-!
# What the broker can reach

Whatever the resolver and the servers answer, a call of the broker stays within its
policy: in the number of its requests and redirects, in the hosts and addresses it
connects to, and in the bytes that it returns.
-/
namespace RoozDataCloud.BrokerContainment
open ExceptionalRuns SandboxSettings WorkerEgress EgressBroker
open EgressBindings (sortedSet)
open FallibleSteps
open Std.Do

variable {web : WebLibrary} {world : World web} {policy : EgressPolicy web}

/-- A request to an allowed host over HTTPS, right after the resolver has named global addresses
only for it. -/
structure Permitted (policy : EgressPolicy web) (message : Upstream web)
    (earlier : List (Event web)) : Prop where
  host : message.target.hostname ∈ policy.allowedHosts
  https : message.connection.tlsServerName = some message.target.hostname
  port : message.connection.port = 443
  url : ∃ netloc path query, message.target.url = web.urlunsplit "https" netloc path query ∧
    (netloc = message.target.hostname ∨ netloc = message.target.hostname ++ ":443")
  resolved : ∃ records before,
    earlier = .lookup message.target.hostname (.ok records) :: before ∧
      message.connection.address ∈ records.filterMap recordAddress ∧
      ∀ address ∈ records.filterMap recordAddress,
        web.isIpAddress address = true ∧ web.isGlobal address = true

/-- Every request of a history was permitted when it was sent. -/
def AllPermitted (policy : EgressPolicy web) : List (Event web) → Prop
  | [] => True
  | .lookup _ _ :: earlier => AllPermitted policy earlier
  | .request message :: earlier => Permitted policy message earlier ∧ AllPermitted policy earlier

def upstream (history : List (Event web)) : List (Upstream web) :=
  history.filterMap (fun
    | .request message => some message
    | .lookup _ _ => none)

/-- The requests of one fetch. -/
def sentFor (id : String) (history : List (Event web)) : ℕ :=
  (upstream history).countP (fun message => message.requestId = id)

@[simp]
theorem upstream_lookup (hostname : String) (answer : Except Raised (List Record))
    (history : List (Event web)) : upstream (.lookup hostname answer :: history) = upstream history :=
  rfl

@[simp]
theorem upstream_request (message : Upstream web) (history : List (Event web)) :
    upstream (.request message :: history) = message :: upstream history := rfl

@[simp]
theorem sentFor_lookup (id hostname : String) (answer : Except Raised (List Record))
    (history : List (Event web)) :
    sentFor id (.lookup hostname answer :: history) = sentFor id history := rfl

@[simp]
theorem sentFor_request (id : String) (message : Upstream web) (history : List (Event web)) :
    sentFor id (.request message :: history) =
      sentFor id history + if message.requestId = id then 1 else 0 := by
  simp [sentFor, List.countP_cons]

theorem lookup_spec (hostname : String) (s₀ : BrokerState web) :
    ⦃fun s => ⌜s = s₀⌝⦄ lookup world hostname
    ⦃post⟨fun records s => ⌜s = { s₀ with history := .lookup hostname (.ok records) :: s₀.history }⌝,
      fun _ s => ⌜∃ answer, s = { s₀ with history := .lookup hostname answer :: s₀.history }⌝⟩⦄ := by
  mvcgen [lookup]
  all_goals simp_all

theorem allowedTarget_ok {url : String} {found : SplitUrl × String × Option ℕ}
    (h : allowedTarget policy url = .ok found) :
    found.2.1 ∈ policy.allowedHosts ∧ (found.2.2 = none ∨ found.2.2 = some 443) := by
  simp only [allowedTarget, bind_ok, require_ok, pure_ok] at h
  obtain ⟨_, -, _, -, _, -, _, -, _, -, _, hhost, _, -, _, hport, rfl⟩ := h
  exact ⟨hhost, hport⟩

/-- The target is allowed and its addresses are those that the resolver has named. -/
structure Resolved (policy : EgressPolicy web) (target : ValidatedTarget web)
    (answer : List Record) : Prop where
  host : target.hostname ∈ policy.allowedHosts
  url : ∃ netloc path query, target.url = web.urlunsplit "https" netloc path query ∧
    (netloc = target.hostname ∨ netloc = target.hostname ++ ":443")
  addresses : usableAddresses web answer = .ok target.addresses.items

theorem validateTarget_spec (url : String) (s₀ : BrokerState web) :
    ⦃fun s => ⌜s = s₀⌝⦄ validateTarget world policy url
    ⦃post⟨fun target s => ⌜∃ records, Resolved policy target records ∧
        s = { s₀ with history := .lookup target.hostname (.ok records) :: s₀.history }⌝,
      fun _ s => ⌜s = s₀ ∨ ∃ hostname answer,
        s = { s₀ with history := .lookup hostname answer :: s₀.history }⌝⟩⦄ := by
  mvcgen [validateTarget, resolvePublicAddresses, lookup_spec, check_spec]
  case vc1 hs _ _ hallowed records _ hlookup _ _ haddresses =>
    obtain ⟨hhost, hport⟩ := allowedTarget_ok hallowed.1
    refine ⟨records, ⟨hhost, ⟨_, _, _, rfl, ?_⟩, publicAddresses_ok haddresses.1⟩, ?_⟩
    · rcases hport with hport | hport
      · exact .inl (by rw [hport]; rfl)
      · exact .inr (by rw [hport]; exact String.append_assoc ..)
    · rw [haddresses.2, hlookup, hallowed.2, hs]
  case vc2 hs _ _ hallowed _ _ hlookup _ _ =>
    rintro rfl
    exact .inr ⟨_, _, by rw [hlookup, hallowed.2, hs]⟩
  case vc3 hs _ _ hallowed _ _ =>
    rintro ⟨answer, rfl⟩
    exact .inr ⟨_, answer, by rw [hallowed.2, hs]⟩
  case vc4 hs _ _ =>
    rintro rfl
    exact .inl hs

/-- A request for a fetch, over the connection that is pinned to its target. -/
structure SentTo (policy : EgressPolicy web) (id : String) (target : ValidatedTarget web)
    (message : Upstream web) : Prop where
  requestId : message.requestId = id
  connection : message.connection = defaultConnection policy target
  target : message.target = target

theorem send_spec (message : Upstream web) (s₀ : BrokerState web) :
    ⦃fun s => ⌜s = s₀⌝⦄ send world message
    ⦃post⟨fun _ s => ⌜s = { s₀ with history := .request message :: s₀.history }⌝,
      fun _ s => ⌜s = { s₀ with history := .request message :: s₀.history }⌝⟩⦄ := by
  mvcgen [send]
  all_goals simp_all

theorem requestOnce_spec (id method : String) (target : ValidatedTarget web)
    (authorization : Option String) (s₀ : BrokerState web) :
    ⦃fun s => ⌜s = s₀⌝⦄ requestOnce world policy id target method authorization
    ⦃post⟨fun _ s => ⌜∃ message, SentTo policy id target message ∧
        s = { s₀ with history := .request message :: s₀.history }⌝,
      fun _ s => ⌜s = s₀ ∨ ∃ message, SentTo policy id target message ∧
        s = { s₀ with history := .request message :: s₀.history }⌝⟩⦄ := by
  mvcgen [requestOnce, send_spec, check_spec]
  case vc1 hs _ _ hpath _ _ hsent _ _ =>
    rintro - rfl
    exact ⟨_, ⟨rfl, rfl, rfl⟩, by rw [hsent, hpath.2, hs]⟩
  case vc2 hs _ _ hpath _ _ hsent _ _ =>
    rintro rfl
    exact .inr ⟨_, ⟨rfl, rfl, rfl⟩, by rw [hsent, hpath.2, hs]⟩
  case vc3 hs _ _ hpath _ _ =>
    rintro rfl
    exact .inr ⟨_, ⟨rfl, rfl, rfl⟩, by rw [hpath.2, hs]⟩
  case vc4 hs _ _ =>
    rintro rfl
    exact .inl hs

theorem Resolved.permitted {target : ValidatedTarget web} {records : List Record} {id : String}
    {message : Upstream web} (h : Resolved policy target records)
    (hsent : SentTo policy id target message) (before : List (Event web)) :
    Permitted policy message (.lookup target.hostname (.ok records) :: before) := by
  obtain ⟨hitems, -, hglobal⟩ := usableAddresses_ok h.addresses
  obtain ⟨-, hconnection, rfl⟩ := hsent
  have haddress : message.connection.address ∈ message.target.addresses.items := by
    rw [hconnection]
    exact List.head_mem _
  rw [hitems, mem_sortedSet] at haddress
  exact ⟨h.host, by rw [hconnection]; rfl, by rw [hconnection]; rfl, h.url,
    records, before, rfl, haddress, hglobal⟩

/-- The bounds on what has been asked, however a call ends. -/
structure Contained (policy : EgressPolicy web) (s : BrokerState web) : Prop where
  permitted : AllPermitted policy s.history
  sent : (upstream s.history).length ≤ s.requests
  requests : (s.requests : ℤ) ≤ policy.limits.maxRequests
  asked : (s.history.length : ℤ) ≤ 2 * policy.limits.maxRequests
  redirects : ∀ id, (sentFor id s.history : ℤ) ≤ policy.limits.maxRedirects + 1

/-- Between two rounds every lookup has been followed by its request, and nothing has been sent for
an id that has not been seen. -/
structure Between (policy : EgressPolicy web) (seen : List String) (s : BrokerState web) : Prop where
  contained : Contained policy s
  paired : s.history.length ≤ 2 * s.requests
  fresh : ∀ id, id ∉ seen → sentFor id s.history = 0

/-- The body that a response was made from. -/
structure Carries (web : WebLibrary) (response : BrokerResponse) (body : List UInt8) : Prop where
  size : response.sizeBytes = body.length
  digest : response.bodySha256 = web.sha256 body
  content : ∃ contentType, decodeBody web body contentType =
    .ok (response.bodyText, response.bodyBase64)

theorem brokerResponse_ok {fetch : Fetch} {url : String} {received : Received}
    {response : BrokerResponse} (h : brokerResponse web fetch url received = .ok response) :
    Carries web response received.body := by
  simp only [brokerResponse, bind_ok, pure_ok] at h
  obtain ⟨⟨bodyText, bodyBase64⟩, hdecoded, rfl⟩ := h
  exact ⟨rfl, rfl, _, hdecoded⟩

/-- The bytes are those of the bodies that are returned, and stay within the total. -/
def Total (policy : EgressPolicy web) (responses : List BrokerResponse) (s : BrokerState web) :
    Prop :=
  ∃ bodies, List.Forall₂ (Carries web) responses bodies ∧
    s.bytes = (bodies.map List.length).sum ∧ (s.bytes : ℤ) ≤ policy.limits.maxTotalBytes

theorem Total.append {responses : List BrokerResponse} {s : BrokerState web}
    (h : Total policy responses s) {response : BrokerResponse} {body : List UInt8}
    (hcarries : Carries web response body)
    (hwithin : ((s.bytes + body.length : ℕ) : ℤ) ≤ policy.limits.maxTotalBytes) :
    Total policy (responses ++ [response]) { s with bytes := s.bytes + body.length } := by
  obtain ⟨bodies, hbodies, hbytes, -⟩ := h
  refine ⟨bodies ++ [body], ?_, ?_, hwithin⟩
  · exact List.rel_append hbodies (.cons hcarries .nil)
  · simp [hbytes]

section Rounds
variable {seen : List String} {s : BrokerState web}

/-- The state before a round for an id, when `left` redirects may still be followed. -/
structure Ready (policy : EgressPolicy web) (seen : List String) (id : String) (left : ℕ)
    (responses : List BrokerResponse) (s : BrokerState web) : Prop where
  between : Between policy seen s
  seen : id ∈ seen
  left : sentFor id s.history + left ≤ policy.limits.maxRedirects.toNat
  total : Total policy responses s

/-- The state after a round that was answered. -/
structure Answered (policy : EgressPolicy web) (seen : List String) (id : String) (left : ℕ)
    (responses : List BrokerResponse) (s : BrokerState web) : Prop where
  between : Between policy seen s
  left : sentFor id s.history + left ≤ policy.limits.maxRedirects.toNat + 1
  total : Total policy responses s

theorem Between.looked (h : Between policy seen s) (hbudget : (s.requests : ℤ) < policy.limits.maxRequests)
    (hostname : String) (answer : Except Raised (List Record)) :
    Contained policy { s with history := .lookup hostname answer :: s.history } := by
  have hpaired := h.paired
  refine ⟨h.contained.permitted, h.contained.sent, h.contained.requests, ?_, h.contained.redirects⟩
  rw [List.length_cons]
  omega

theorem Between.counted (h : Between policy seen s)
    (hbudget : (s.requests : ℤ) < policy.limits.maxRequests) (hostname : String)
    (answer : Except Raised (List Record)) :
    Contained policy { s with
      requests := s.requests + 1, history := .lookup hostname answer :: s.history } := by
  have hlooked := h.looked hbudget hostname answer
  refine ⟨hlooked.permitted, ?_, ?_, hlooked.asked, hlooked.redirects⟩
  · exact Nat.le_succ_of_le hlooked.sent
  · push_cast
    omega

theorem Ready.sent {id : String} {left : ℕ} {responses : List BrokerResponse}
    (h : Ready policy seen id left responses s)
    (hbudget : (s.requests : ℤ) < policy.limits.maxRequests) {target : ValidatedTarget web}
    {records : List Record} (hresolved : Resolved policy target records) {message : Upstream web}
    (hsent : SentTo policy id target message) :
    Between policy seen { s with
      requests := s.requests + 1
      history := .request message :: .lookup target.hostname (.ok records) :: s.history } := by
  have hcounted := h.between.counted hbudget target.hostname (.ok records)
  have hpaired := h.between.paired
  have hsafe := policy.limits_safe.redirects.1
  have hleft := h.left
  refine ⟨⟨⟨hresolved.permitted hsent s.history, hcounted.permitted⟩, ?_, hcounted.requests, ?_, ?_⟩,
    ?_, ?_⟩
  · have := h.between.contained.sent
    simp only [upstream_request, upstream_lookup, List.length_cons]
    omega
  · simp only [List.length_cons]
    omega
  · intro other
    have hother := h.between.contained.redirects other
    simp only [sentFor_request, sentFor_lookup, hsent.requestId]
    split
    · next heq =>
      subst heq
      omega
    · omega
  · simp only [List.length_cons]
    omega
  · intro other hother
    have hne : id ≠ other := fun heq => hother (heq ▸ h.seen)
    simp only [sentFor_request, sentFor_lookup, hsent.requestId, hne, if_false]
    exact h.between.fresh other hother

end Rounds

section Runs
variable {seen : List String}

theorem returnBody_spec (fetch : Fetch) (url : String) (received : Received) (s₀ : BrokerState web) :
    ⦃fun s => ⌜s = s₀⌝⦄ returnBody policy fetch url received
    ⦃post⟨fun response s => ⌜Carries web response received.body ∧
        (s.bytes : ℤ) ≤ policy.limits.maxTotalBytes ∧
        s = { s₀ with bytes := s₀.bytes + received.body.length }⌝,
      fun _ s => ⌜s = { s₀ with bytes := s₀.bytes + received.body.length }⌝⟩⦄ := by
  mvcgen [returnBody, check_spec]
  case vc1 hs _ _ _ hwithin _ _ =>
    subst hs
    obtain ⟨hbytes, rfl⟩ := hwithin
    rintro hresponse rfl
    exact ⟨brokerResponse_ok hresponse, require_ok.1 hbytes, rfl⟩
  case vc2 hs _ _ _ hwithin _ _ =>
    subst hs
    obtain ⟨-, rfl⟩ := hwithin
    rintro rfl
    rfl
  case vc3 hs _ _ _ =>
    subst hs
    rintro rfl
    rfl

theorem Between.received {s : BrokerState web} (h : Between policy seen s) (bytes : ℕ) :
    Between policy seen { s with bytes := bytes } :=
  ⟨⟨h.contained.permitted, h.contained.sent, h.contained.requests, h.contained.asked,
    h.contained.redirects⟩, h.paired, h.fresh⟩

variable (world policy seen)

theorem attempt_spec (fetch : Fetch) (method url : String) (left : ℕ)
    (responses : List BrokerResponse) :
    ⦃fun s => ⌜Ready policy seen fetch.requestId left responses s⌝⦄
    attempt world policy fetch method url
    ⦃post⟨fun _ s => ⌜Answered policy seen fetch.requestId left responses s⌝,
      fun _ s => ⌜Contained policy s⌝⟩⦄ := by
  mvcgen [attempt, validateTarget_spec, requestOnce_spec, check_spec]
  case vc1 hready _ _ hbudget _ _ htarget _ _ _ hsent =>
    obtain ⟨rfl, hb⟩ := And.intro hbudget.2 (require_ok.1 hbudget.1)
    obtain ⟨records, hresolved, rfl⟩ := htarget
    obtain ⟨message, hmessage, rfl⟩ := hsent
    refine ⟨hready.sent hb hresolved hmessage, ?_, hready.total⟩
    have hleft := hready.left
    change sentFor _ (.request message :: .lookup _ _ :: _) + left ≤ _
    simp only [sentFor_request, sentFor_lookup, hmessage.requestId, if_true]
    omega
  case vc2 hready _ _ hbudget _ _ htarget _ _ _ =>
    obtain ⟨rfl, hb⟩ := And.intro hbudget.2 (require_ok.1 hbudget.1)
    obtain ⟨records, hresolved, rfl⟩ := htarget
    rintro (rfl | ⟨message, hmessage, rfl⟩)
    · exact hready.between.counted hb _ _
    · exact (hready.sent hb hresolved hmessage).contained
  case vc3 hready _ _ hbudget _ _ =>
    obtain ⟨rfl, hb⟩ := And.intro hbudget.2 (require_ok.1 hbudget.1)
    rintro (rfl | ⟨hostname, answer, rfl⟩)
    · exact hready.between.contained
    · exact hready.between.looked hb hostname answer
  case vc4 hready _ _ =>
    rintro rfl
    exact hready.between.contained

theorem fetchRound_spec (fetch : Fetch) (method url : String) (left : ℕ)
    (responses : List BrokerResponse) :
    ⦃fun s => ⌜Ready policy seen fetch.requestId left responses s⌝⦄
    fetchRound world policy fetch method url
    ⦃post⟨fun found s => ⌜match found with
        | .inl _ => Answered policy seen fetch.requestId left responses s
        | .inr response => Between policy seen s ∧ Total policy (responses ++ [response]) s⌝,
      fun _ s => ⌜Contained policy s⌝⟩⦄ := by
  have hattempt := attempt_spec world policy seen fetch method url left responses
  mvcgen [fetchRound, hattempt, returnBody_spec, check_spec]
  case vc2 hround _ _ hlocation =>
    obtain ⟨-, rfl⟩ := hlocation
    exact hround
  case vc3 hround _ _ =>
    rintro rfl
    exact hround.between.contained
  case vc4 hround _ _ hreturned =>
    obtain ⟨hcarries, hwithin, rfl⟩ := hreturned
    exact ⟨hround.between.received _, hround.total.append hcarries hwithin⟩
  case vc5 hround _ _ =>
    rintro rfl
    exact (hround.between.received _).contained

theorem follow_spec (fetch : Fetch) (method : String) (left : ℕ)
    (responses : List BrokerResponse) (url : String) :
    ⦃fun s => ⌜Ready policy seen fetch.requestId left responses s⌝⦄
    follow world policy fetch method left url
    ⦃post⟨fun response s => ⌜Between policy seen s ∧ Total policy (responses ++ [response]) s⌝,
      fun _ s => ⌜Contained policy s⌝⟩⦄ := by
  -- On the redirects that may still be followed; each round uses up one of them.
  induction left generalizing url with
  | zero =>
    have hround := fetchRound_spec world policy seen fetch method url 0 responses
    rw [follow]
    mvcgen [hround]
    case vc2 hanswered => exact hanswered.between.contained
  | succ left ih =>
    have hround := fetchRound_spec world policy seen fetch method url (left + 1)
      responses
    rw [follow]
    mvcgen [hround, check_spec, ih]
    case vc2 hready _ _ _ _ _ hanswered _ _ hnext =>
      obtain ⟨-, rfl⟩ := hnext
      have hleft := hanswered.left
      exact ⟨hanswered.between, hready.seen, by omega, hanswered.total⟩
    case vc3 hanswered _ _ =>
      rintro rfl
      exact hanswered.between.contained

theorem fetchOne_spec (fetch : Fetch) (responses : List BrokerResponse) :
    ⦃fun s => ⌜Between policy seen s ∧ fetch.requestId ∉ seen ∧ Total policy responses s⌝⦄
    fetchOne world policy fetch
    ⦃post⟨fun response s => ⌜Between policy (fetch.requestId :: seen) s ∧
        Total policy (responses ++ [response]) s⌝,
      fun _ s => ⌜Contained policy s⌝⟩⦄ := by
  have hfollow := follow_spec world policy (fetch.requestId :: seen) fetch
    (web.upper (web.strip fetch.method)) policy.limits.maxRedirects.toNat responses fetch.url
  mvcgen [fetchOne, check_spec, hfollow]
  case vc1 hbefore _ _ hmethod =>
    obtain ⟨-, rfl⟩ := hmethod
    obtain ⟨hbetween, hnew, htotal⟩ := hbefore
    refine ⟨⟨hbetween.contained, hbetween.paired, fun id hid => hbetween.fresh id ?_⟩,
      List.mem_cons_self, ?_, htotal⟩
    · exact fun hseen => hid (List.mem_cons_of_mem _ hseen)
    · rw [hbetween.fresh _ hnew, Nat.zero_add]
  case vc2 hbefore _ _ =>
    rintro rfl
    exact hbefore.1.contained

theorem requestedFetch_fresh {authorization : Option String} {raw : Datasets.Json} {fetch : Fetch}
    (h : requestedFetch web authorization seen raw = .ok fetch) : fetch.requestId ∉ seen := by
  cases raw with
  | object members =>
    simp only [requestedFetch, bind_ok, require_ok, pure_ok] at h
    obtain ⟨_, -, _, hnew, _, -, _, -, rfl⟩ := h
    exact hnew
  | _ => cases h

theorem fetchAll_spec (authorization : Option String) (responses : List BrokerResponse)
    (requests : List Datasets.Json) :
    ⦃fun s => ⌜Between policy seen s ∧ Total policy responses s⌝⦄
    fetchAll world policy authorization seen responses requests
    ⦃post⟨fun responses s => ⌜Contained policy s ∧ Total policy responses s⌝,
      fun _ s => ⌜Contained policy s⌝⟩⦄ := by
  induction requests generalizing seen responses with
  | nil =>
    mvcgen [fetchAll]
    case vc1 hbefore => exact ⟨hbefore.1.contained, hbefore.2⟩
  | cons raw rest ih =>
    rw [fetchAll]
    have hone := fun fetch => fetchOne_spec world policy seen fetch responses
    mvcgen [check_spec, hone, ih]
    case vc1 hbefore _ _ hfetch =>
      obtain ⟨hnew, rfl⟩ := hfetch
      exact ⟨hbefore.1, requestedFetch_fresh seen hnew, hbefore.2⟩
    case vc3 hbefore _ _ =>
      rintro rfl
      exact hbefore.1.contained

theorem between_start : Between policy seen ⟨0, 0, []⟩ := by
  have hrequests := policy.limits_safe.requests.1
  have hredirects := policy.limits_safe.redirects.1
  refine ⟨⟨trivial, le_rfl, ?_, ?_, fun id => ?_⟩, le_rfl, fun _ _ => rfl⟩
  · change (0 : ℤ) ≤ _
    omega
  · change (0 : ℤ) ≤ _
    omega
  · change (0 : ℤ) ≤ _
    omega

theorem brokerWebRequests_spec (input : JsonDocuments.Members) (authorization : Option String) :
    ⦃fun s => ⌜s = ⟨0, 0, []⟩⌝⦄ brokerWebRequests world policy input authorization
    ⦃post⟨fun output s => ⌜Contained policy s ∧ Total policy output.responses s⌝,
      fun _ s => ⌜Contained policy s⌝⟩⦄ := by
  have hall := fetchAll_spec world policy [] authorization []
  mvcgen [brokerWebRequests, check_spec, hall]
  case vc1 hstart _ _ hrequests _ =>
    obtain ⟨-, rfl⟩ := hrequests
    subst hstart
    have htotal := policy.limits_safe.total
    have hresponse := policy.limits_safe.response
    refine ⟨between_start policy [], [], .nil, rfl, ?_⟩
    change (0 : ℤ) ≤ _
    omega
  case vc2 hstart _ _ =>
    rintro rfl
    subst hstart
    exact (between_start policy []).contained

end Runs

/-- In one call of the broker, however it ends, every request is permitted when it is sent, and
their number is bounded in all and for each fetch; so is the number of questions to the
environment. The bodies of a call that returns stay within the total. -/
theorem broker_contained (world : World web) (policy : EgressPolicy web)
    (input : JsonDocuments.Members) (authorization : Option String) :
    let call := brokerCall world policy input authorization
    ((upstream call.2.history).length : ℤ) ≤ policy.limits.maxRequests ∧
      AllPermitted policy call.2.history ∧
      (∀ id, (sentFor id call.2.history : ℤ) ≤ policy.limits.maxRedirects + 1) ∧
      (call.2.history.length : ℤ) ≤ 2 * policy.limits.maxRequests ∧
      ∀ output, call.1 = .ok output → ∃ bodies, List.Forall₂ (Carries web) output.responses bodies ∧
        (((bodies.map List.length).sum : ℕ) : ℤ) ≤ policy.limits.maxTotalBytes := by
  intro call
  obtain ⟨hreturned, hraised⟩ :=
    outcome_rule (brokerWebRequests_spec world policy input authorization) rfl
  have hcontained : Contained policy call.2 := by
    rcases hcall : call with ⟨raised | output, s⟩
    · exact hraised raised s hcall
    · exact (hreturned output s hcall).1
  have hsent := hcontained.sent
  have hrequests := hcontained.requests
  refine ⟨by omega, hcontained.permitted, hcontained.redirects, hcontained.asked, ?_⟩
  intro output houtput
  obtain ⟨bodies, hbodies, hbytes, hwithin⟩ := (hreturned output call.2 (Prod.ext houtput rfl)).2
  exact ⟨bodies, hbodies, hbytes ▸ hwithin⟩

end RoozDataCloud.BrokerContainment
