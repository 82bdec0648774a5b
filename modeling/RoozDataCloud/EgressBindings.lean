import RoozDataCloud.SandboxSettings

set_option autoImplicit false

/-!
# Egress policies bound to runs

The protocol validation of a policy, and the check of the policy and the receipt that
a run has been bound to.
-/
namespace RoozDataCloud.EgressBindings
open ExecutionModels JsonDocuments SandboxSettings FallibleSteps
open Datasets (Json)

/-- `sorted(set(items))` -/
def sortedSet (items : List String) : List String := items.dedup.insertionSort (· ≤ ·)

structure ValidatedEgressPolicy where
  allowedHosts : List String
  allowedMethods : List String
  limits : EgressLimits
  policyDigest : String

def canonicalPolicy (hosts methods : List String) (limits : EgressLimits) : Json :=
  .object [("allowed_hosts", texts hosts), ("allowed_methods", texts methods),
    ("connect_timeout_seconds", .int limits.connectTimeoutSeconds),
    ("max_redirects", .int limits.maxRedirects), ("max_requests", .int limits.maxRequests),
    ("max_response_bytes", .int limits.maxResponseBytes),
    ("max_total_bytes", .int limits.maxTotalBytes),
    ("request_timeout_seconds", .int limits.requestTimeoutSeconds),
    ("schema_version", .text "rdc.egress-policy/v1")]

/-- The message of an `EgressPolicyProtocolError` stands for it; those of a host name are one. -/
def validateEgressPolicy (e : Encoding) (allowedHosts allowedMethods : List String)
    (limits : EgressLimits) : Except String ValidatedEgressPolicy := do
  let normalized ← demand (allowedHosts.mapM e.normalizeHostname)
    "Allowed host is not a valid hostname."
  let hosts := sortedSet normalized
  let methods := sortedSet (allowedMethods.map String.toUpper)
  require (hosts ≠ [] ∧ hosts.length = allowedHosts.length)
    "Allowed hosts must be unique and non-empty."
  require (methods ≠ [] ∧ methods.length = allowedMethods.length ∧
      ∀ method ∈ methods, method ∈ ["GET", "HEAD"])
    "Allowed methods must be unique GET or HEAD values."
  require (limits.maxResponseBytes ≤ limits.maxTotalBytes)
    "max_total_bytes must be at least max_response_bytes."
  pure
    { allowedHosts := hosts
      allowedMethods := methods
      limits := limits
      policyDigest := e.canonicalFingerprint (canonicalPolicy hosts methods limits) }

def textList? (value : Json) : Option (List String) := (list? value).bind (·.mapM text?)

def receiptFields : List String :=
  ["schema_version", "policy_id", "revision_id", "revision_number", "policy_digest",
    "runtime_policy_digest", "credential_configured", "binding_digest"]

def withoutDigest (receipt : Members) : Members :=
  receipt.filter (fun entry => entry.1 ≠ "binding_digest")

def requiredRuntime : Members :=
  [("schema_version", .text "rdc.egress/v1"), ("mode", .text "brokered"),
    ("allowed_schemes", texts ["https"]), ("deny_ip_literals", .bool true),
    ("require_global_dns", .bool true), ("revalidate_redirects", .bool true),
    ("container_network", .text "none")]

/-- The numbers of a stored policy, each at least the minimum. -/
def storedLimits (stored : Members) : Option EgressLimits := do
  let maxRequests ← (int? (member stored "max_requests")).filter (1 ≤ ·)
  let maxResponseBytes ← (int? (member stored "max_response_bytes")).filter (65536 ≤ ·)
  let maxTotalBytes ← (int? (member stored "max_total_bytes")).filter (65536 ≤ ·)
  let maxRedirects ← (int? (member stored "max_redirects")).filter (0 ≤ ·)
  let connectTimeoutSeconds ← (int? (member stored "connect_timeout_seconds")).filter (1 ≤ ·)
  let requestTimeoutSeconds ← (int? (member stored "request_timeout_seconds")).filter (1 ≤ ·)
  pure ⟨maxRequests, maxResponseBytes, maxTotalBytes, maxRedirects, connectTimeoutSeconds,
    requestTimeoutSeconds⟩

def EgressLimits.within (a b : EgressLimits) : Prop :=
  a.maxRequests ≤ b.maxRequests ∧ a.maxResponseBytes ≤ b.maxResponseBytes ∧
    a.maxTotalBytes ≤ b.maxTotalBytes ∧ a.maxRedirects ≤ b.maxRedirects ∧
    a.connectTimeoutSeconds ≤ b.connectTimeoutSeconds ∧
    a.requestTimeoutSeconds ≤ b.requestTimeoutSeconds

instance decidableWithin (a b : EgressLimits) : Decidable (EgressLimits.within a b) :=
  inferInstanceAs (Decidable (_ ∧ _ ∧ _ ∧ _ ∧ _ ∧ _))

section Binding
variable {e : Encoding} (settings : Settings e)

def checkReceipt (receipt : Members) : Except String Unit := do
  require (hasExactly receipt receiptFields = true) "Unexpected Project egress-policy receipt fields."
  require (text? (member receipt "schema_version") = some "rdc.run-egress-policy-receipt/v1" ∧
      (bool? (member receipt "credential_configured")).isSome = true ∧
      (int? (member receipt "revision_number")).any (1 ≤ ·) = true)
    "Invalid Project egress-policy receipt."
  require ((e.parseUuid (e.str (member receipt "policy_id"))).isSome = true ∧
      (e.parseUuid (e.str (member receipt "revision_id"))).isSome = true)
    "Invalid Project egress-policy identifiers."
  require (member receipt "binding_digest" =
      .text (e.canonicalFingerprint (.object (withoutDigest receipt))))
    "Project egress-policy binding digest mismatch."

/-- The policy of a stored runtime envelope, within the ceiling of the settings. -/
def storedRuntime (stored : Members) : Except String (List String × List String × EgressLimits) := do
  require (requiredRuntime.all (fun entry => same (member stored entry.1) entry.2) = true)
    "Unsafe Project egress-policy runtime envelope."
  let hosts ← demand ((textList? (member stored "allowed_hosts")).filter (fun hosts =>
    hosts ≠ [] && hosts = sortedSet hosts)) "Invalid Project egress-policy hosts or methods."
  let methods ← demand ((textList? (member stored "allowed_methods")).filter (fun methods =>
    methods ≠ [] && methods = sortedSet methods && methods.all (["GET", "HEAD"].contains ·)))
    "Invalid Project egress-policy hosts or methods."
  require (∀ host ∈ hosts, host ∈ settings.webEgressAllowedHosts)
    "Project egress policy exceeds the host ceiling."
  let limits ← demand ((storedLimits stored).filter (EgressLimits.within · settings.webEgress))
    "Project egress policy exceeds a numeric ceiling."
  pure (hosts, methods, limits)

/-- `_bound_egress_policy`: the policy with the digest of its binding, if the run has one. The
message of a `ValueError` stands for it. -/
def boundEgressPolicy (input : Members) : Except String (Option (Members × String)) :=
  match member input "project_egress_policy", member input "project_egress_policy_receipt" with
  | .null, .null => pure none
  | .object stored, .object receipt => do
    checkReceipt (e := e) receipt
    let (hosts, methods, limits) ← storedRuntime settings stored
    require (member receipt "runtime_policy_digest" =
      .text (e.canonicalFingerprint (.object stored))) "Project runtime-policy digest mismatch."
    let validated ← (validateEgressPolicy e hosts methods limits).mapError
      (fun _ => "Project policy revision failed protocol validation.")
    require (validated.allowedHosts = hosts ∧ validated.allowedMethods = methods ∧
        member receipt "policy_digest" = .text validated.policyDigest)
      "Project policy-revision digest mismatch."
    pure (some (stored, e.str (member receipt "binding_digest")))
  | _, _ => .error "Incomplete Project egress-policy binding."

end Binding
end RoozDataCloud.EgressBindings
