import RoozDataCloud.EgressBindings
import Mathlib.Data.List.Dedup
import Mathlib.Data.String.Basic

set_option autoImplicit false

/-!
# The egress policy of the worker

The worker builds its own policy, with its own rules for host names, and takes a
target only after every address that the resolver gives for it is a global one.
-/
namespace RoozDataCloud.WorkerEgress
open FallibleSteps JsonDocuments SandboxSettings
open EgressBindings (sortedSet)
open Datasets (Json)

/-- The exceptions that the worker tells apart; `http` is `HTTPException`, and `shutdown` is no
`Exception`. -/
inductive ErrorClass where
  | sandboxPolicy | browserRuntime | egressPolicy | browserEgressPolicy | workerProtocol
  | webFetchContract | queueBoundary | keyValueBoundary | datasetProtocol | browserNavigation
  | browserPolicy | jsonDecode | unicode | value | type | lookup | http | os | runtime | other
  | shutdown
  deriving DecidableEq

structure Raised where
  cls : ErrorClass
  message : String
  deriving DecidableEq

def egressError (message : String) : Raised := ⟨.egressPolicy, message⟩

/-- What `urlsplit` reads from a URL. `port` is `none` where reading it raises. -/
structure SplitUrl where
  scheme : String
  username : Option String
  password : Option String
  hostname : Option String
  port : Option (Option ℕ)
  path : String
  query : String

/-- The texts, addresses and URLs of the worker's standard library. `encodeIdna` is the IDNA codec,
whose output is ASCII. -/
structure WebLibrary extends Encoding where
  strip : String → String
  upper : String → String
  lower : String → String
  casefold : String → String
  isIpAddress : String → Bool
  isGlobal : String → Bool
  encodeIdna : String → Option String
  urlsplit : String → Option SplitUrl
  urlunsplit : (scheme netloc path query : String) → String
  urljoin : String → String → Option String
  decodeText : (charset : String) → List UInt8 → Except Raised String

def forbiddenSuffixes : List String :=
  [".example", ".internal", ".invalid", ".local", ".localhost", ".test"]

/-- `text.endswith(suffixes)` -/
def endsWithAny (text : String) (suffixes : List String) : Bool :=
  suffixes.any (fun suffix => suffix.toList.isSuffixOf text.toList)

/-- `host.split(".")` -/
def labels (host : String) : List (List Char) := host.toList.splitOn '.'

def labelCharacter (c : Char) : Bool := c.isAlphanum || c == '-'

def checkLabel (label : List Char) : Except Raised Unit := do
  require (label ≠ [] ∧ label.length ≤ 63)
    (egressError "Egress hostname contains an invalid label.")
  require (label.head? ≠ some '-' ∧ label.getLast? ≠ some '-')
    (egressError "Egress hostname label cannot start or end with '-'.")
  require (label.all labelCharacter = true)
    (egressError "Egress hostname contains unsupported characters.")

theorem mem_sortedSet {items : List String} {item : String} :
    item ∈ sortedSet items ↔ item ∈ items := by
  simp [sortedSet]

theorem sortedSet_strict (items : List String) : (sortedSet items).Pairwise (· < ·) := by
  have hsorted := List.pairwise_insertionSort (· ≤ ·) items.dedup
  have hnodup : (sortedSet items).Nodup :=
    ((List.perm_insertionSort _ _).nodup_iff).2 items.nodup_dedup
  exact (hsorted.and hnodup).imp (fun h => lt_of_le_of_ne h.1 h.2)

section Policies
variable (web : WebLibrary)

def normalizeHostname (value : String) : Except Raised String := do
  let candidate := web.foldHost value
  require (candidate ≠ "") (egressError "Egress hostname cannot be blank.")
  require ('*' ∉ candidate.toList) (egressError "Wildcard egress hostnames are not allowed.")
  require (web.isIpAddress candidate = false)
    (egressError "IP-literal egress destinations are not allowed.")
  let normalized ← demand (web.encodeIdna candidate)
    (egressError "Egress hostname is not valid IDNA.")
  require (normalized.length ≤ 253) (egressError "Egress hostname is too long.")
  require (2 ≤ (labels normalized).length)
    (egressError "Single-label egress hostnames are not allowed.")
  require (normalized ≠ "localhost" ∧ endsWithAny normalized forbiddenSuffixes = false)
    (egressError "Special-use egress hostnames are not allowed.")
  (labels normalized).forM checkLabel
  pure normalized

end Policies

/-- The bounds that `EgressPolicy.create` keeps its limits in. -/
structure SafeLimits (limits : EgressLimits) : Prop where
  requests : 1 ≤ limits.maxRequests ∧ limits.maxRequests ≤ 32
  response : 1024 ≤ limits.maxResponseBytes ∧ limits.maxResponseBytes ≤ 8388608
  total : limits.maxResponseBytes ≤ limits.maxTotalBytes ∧ limits.maxTotalBytes ≤ 33554432
  redirects : 0 ≤ limits.maxRedirects ∧ limits.maxRedirects ≤ 5
  connect : 1 ≤ limits.connectTimeoutSeconds ∧ limits.connectTimeoutSeconds ≤ 15
  request : 1 ≤ limits.requestTimeoutSeconds ∧ limits.requestTimeoutSeconds ≤ 30

/-- A policy is built by `create` only. -/
structure EgressPolicy (web : WebLibrary) where
  allowedHosts : List String
  allowedMethods : List String
  limits : EgressLimits
  hosts_normal : ∀ host ∈ allowedHosts, ∃ name, normalizeHostname web name = .ok host
  hosts_sorted : allowedHosts.Pairwise (· < ·)
  hosts_count : allowedHosts ≠ [] ∧ allowedHosts.length ≤ 32
  methods_sorted : allowedMethods.Pairwise (· < ·)
  methods_safe : allowedMethods ≠ [] ∧ ∀ method ∈ allowedMethods, method ∈ ["GET", "HEAD"]
  limits_safe : SafeLimits limits

def checkLimits (limits : EgressLimits) : Except Raised Unit := do
  require (1 ≤ limits.maxRequests ∧ limits.maxRequests ≤ 32)
    (egressError "Egress request budget is outside the safe range.")
  require (1024 ≤ limits.maxResponseBytes ∧ limits.maxResponseBytes ≤ 8388608)
    (egressError "Per-response egress byte limit is outside the safe range.")
  require (limits.maxResponseBytes ≤ limits.maxTotalBytes ∧ limits.maxTotalBytes ≤ 33554432)
    (egressError "Total egress byte limit must cover one response and stay bounded.")
  require (0 ≤ limits.maxRedirects ∧ limits.maxRedirects ≤ 5)
    (egressError "Redirect budget is outside the safe range.")
  require (1 ≤ limits.connectTimeoutSeconds ∧ limits.connectTimeoutSeconds ≤ 15)
    (egressError "Connect timeout is outside the safe range.")
  require (1 ≤ limits.requestTimeoutSeconds ∧ limits.requestTimeoutSeconds ≤ 30)
    (egressError "Request timeout is outside the safe range.")

theorem checkLimits_ok {limits : EgressLimits} {u : Unit} :
    checkLimits limits = .ok u ↔ SafeLimits limits := by
  simp only [checkLimits, bind_ok, require_ok, exists_const]
  constructor
  · rintro ⟨hrequests, hresponse, htotal, hredirects, hconnect, hrequest⟩
    exact ⟨hrequests, hresponse, htotal, hredirects, hconnect, hrequest⟩
  · rintro ⟨hrequests, hresponse, htotal, hredirects, hconnect, hrequest⟩
    exact ⟨hrequests, hresponse, htotal, hredirects, hconnect, hrequest⟩

section Creation
variable (web : WebLibrary)

/-- The checks of `EgressPolicy.create`, with the hosts and the methods of the policy. -/
def checkedFields (allowedHosts allowedMethods : List String) (limits : EgressLimits) :
    Except Raised (List String × List String) := do
  let normalized ← allowedHosts.mapM (normalizeHostname web)
  let hosts := sortedSet normalized
  let methods := sortedSet (allowedMethods.map (fun method => web.upper (web.strip method)))
  require (hosts ≠ []) (egressError "Egress allowlist cannot be empty.")
  require (hosts.length ≤ 32) (egressError "Egress allowlist cannot exceed 32 hosts.")
  require (methods ≠ [] ∧ ∀ method ∈ methods, method ∈ ["GET", "HEAD"])
    (egressError "Egress methods must be GET or HEAD.")
  checkLimits limits
  pure (hosts, methods)

variable {web} {hosts methods normal normalMethods : List String} {limits : EgressLimits}

theorem checkedFields_ok (h : checkedFields web hosts methods limits = .ok (normal, normalMethods)) :
    (∃ normalized, hosts.mapM (normalizeHostname web) = .ok normalized ∧
        normal = sortedSet normalized) ∧
      normalMethods = sortedSet (methods.map (fun method => web.upper (web.strip method))) ∧
      (normal ≠ [] ∧ normal.length ≤ 32) ∧
      (normalMethods ≠ [] ∧ ∀ method ∈ normalMethods, method ∈ ["GET", "HEAD"]) ∧
      SafeLimits limits := by
  simp only [checkedFields, bind_ok, require_ok, pure_ok, exists_const, Prod.mk.injEq] at h
  obtain ⟨normalized, hnormalized, hnonempty, hcount, hmethods, _, hlimits, rfl, rfl⟩ := h
  exact ⟨⟨normalized, hnormalized, rfl⟩, rfl, ⟨hnonempty, hcount⟩, hmethods, checkLimits_ok.1 hlimits⟩

variable (web hosts methods limits) in
def EgressPolicy.create : Except Raised (EgressPolicy web) :=
  match h : checkedFields web hosts methods limits with
  | .error raised => .error raised
  | .ok (normal, normalMethods) => .ok
    { allowedHosts := normal
      allowedMethods := normalMethods
      limits := limits
      hosts_normal := by
        obtain ⟨⟨normalized, hnormalized, rfl⟩, -⟩ := checkedFields_ok h
        intro host hhost
        obtain ⟨name, -, hname⟩ := mapM_ok hnormalized (mem_sortedSet.1 hhost)
        exact ⟨name, hname⟩
      hosts_sorted := by
        obtain ⟨⟨normalized, -, rfl⟩, -⟩ := checkedFields_ok h
        exact sortedSet_strict normalized
      hosts_count := (checkedFields_ok h).2.2.1
      methods_sorted := by
        rw [(checkedFields_ok h).2.1]
        exact sortedSet_strict _
      methods_safe := (checkedFields_ok h).2.2.2.1
      limits_safe := (checkedFields_ok h).2.2.2.2 }

/-- A policy that is created has the fields that were checked. -/
theorem create_ok {policy : EgressPolicy web} :
    EgressPolicy.create web hosts methods limits = .ok policy ↔
      checkedFields web hosts methods limits = .ok (policy.allowedHosts, policy.allowedMethods) ∧
        policy.limits = limits := by
  unfold EgressPolicy.create
  split
  · next raised herror =>
    simp [herror]
  · next normal normalMethods hok =>
    cases policy
    simp only [Except.ok.injEq, EgressPolicy.mk.injEq]
    constructor
    · rintro ⟨rfl, rfl, rfl⟩
      exact ⟨hok, rfl⟩
    · rintro ⟨hfields, rfl⟩
      have hpair := Except.ok.inj (hok.symm.trans hfields)
      exact ⟨congrArg Prod.fst hpair, congrArg Prod.snd hpair, rfl⟩

end Creation
end RoozDataCloud.WorkerEgress
