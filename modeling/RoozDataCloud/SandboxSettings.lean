import RoozDataCloud.JsonDocuments
import RoozDataCloud.KeyValueProtocol

set_option autoImplicit false

/-!
# The sandbox settings

The gates and limits of the canary, with what the settings validator has checked of
them, and the policies that are built from them.
-/
namespace RoozDataCloud.SandboxSettings
open ExecutionModels JsonDocuments
open Datasets (Json)

/-- Texts of values and their digests, and what the standard library makes of texts: `str`, `int`,
`UUID`, the host of a URL, and a host name without blanks, final dots and upper case, in its ASCII
form, or as a public name. -/
structure Encoding extends KeyValueProtocol.ValueCodec where
  canonicalFingerprint : Json → String
  str : Json → String
  intOf : Json → Option ℤ
  uuidText : Uuid → String
  parseUuid : String → Option Uuid
  urlHostname : String → Option String
  foldHost : String → String
  asciiHostname : String → Option String
  navigationHostname : String → Except String String
  normalizeHostname : String → Option String
  str_text : ∀ s, str (.text s) = s
  intOf_int : ∀ n, intOf (.int n) = some n
  parse_uuidText : ∀ id, parseUuid (uuidText id) = some id
  uuidText_nonempty : ∀ id, uuidText id ≠ ""
  normalize_stable : ∀ host ascii again, normalizeHostname host = some ascii →
    normalizeHostname ascii = some again → again = ascii

inductive ActivationMode where
  | disabled | canary
  deriving DecidableEq

structure EgressLimits where
  maxRequests : ℤ
  maxResponseBytes : ℤ
  maxTotalBytes : ℤ
  maxRedirects : ℤ
  connectTimeoutSeconds : ℤ
  requestTimeoutSeconds : ℤ
  deriving DecidableEq

structure BrowserLimits where
  maxPages : ℤ
  maxActions : ℤ
  navigationTimeoutSeconds : ℤ
  maxDomBytes : ℤ
  maxScreenshotBytes : ℤ

/-- Ceilings on what a workload may ask for. -/
structure ResourceLimits where
  memoryMb : ℤ
  cpuMillis : ℤ
  pids : ℤ
  ephemeralDiskMb : ℤ
  buildSeconds : ℤ
  runSeconds : ℤ

def ResourceLimits.within (a b : ResourceLimits) : Prop :=
  a.memoryMb ≤ b.memoryMb ∧ a.cpuMillis ≤ b.cpuMillis ∧ a.pids ≤ b.pids ∧
    a.ephemeralDiskMb ≤ b.ephemeralDiskMb ∧ a.buildSeconds ≤ b.buildSeconds ∧
    a.runSeconds ≤ b.runSeconds

/-- The settings that the sandbox reads. The texts are stripped, as every reader strips them. The
facts are what the validator of the settings has checked. -/
structure Settings (e : Encoding) where
  sandboxExecutionEnabled : Bool
  sandboxRequiredProfile : String
  sandboxMax : ResourceLimits
  sandboxMaxOutputBytes : ℤ
  sandboxActivationMode : ActivationMode
  canaryAgentVersionId : String
  canaryWorkerName : String
  canaryMax : ResourceLimits
  webEgressEnabled : Bool
  webEgressAllowedHosts : List String
  webEgress : EgressLimits
  browserEnabled : Bool
  browserLiveNavigationEnabled : Bool
  browser : BrowserLimits
  datasetWritesEnabled : Bool
  keyValueStoreEnabled : Bool
  requestQueueEnabled : Bool
  requestQueueHttpEnabled : Bool
  requestQueueBrowserEnabled : Bool
  requestQueueDatasetEnabled : Bool
  requestQueueKeyValueStoreEnabled : Bool
  workerLeaseSeconds : ℕ
  canary_within : canaryMax.within sandboxMax
  canary_mode : sandboxActivationMode = .canary → sandboxExecutionEnabled = true ∧
    canaryWorkerName ≠ "" ∧ (e.parseUuid canaryAgentVersionId).isSome = true
  hosts_folded : ∀ host ∈ webEgressAllowedHosts, e.foldHost host = host
  hosts_sorted : webEgressAllowedHosts.Pairwise (· < ·)
  webEgress_gate : webEgressEnabled = true →
    sandboxActivationMode = .canary ∧ webEgressAllowedHosts ≠ []
  browser_gate : browserEnabled = true → webEgressEnabled = true
  navigation_gate : browserLiveNavigationEnabled = true → browserEnabled = true
  dataset_gate : datasetWritesEnabled = true → sandboxActivationMode = .canary
  keyValueStore_gate : keyValueStoreEnabled = true → sandboxActivationMode = .canary
  requestQueue_gate : requestQueueEnabled = true → sandboxActivationMode = .canary
  requestQueueHttp_gate : requestQueueHttpEnabled = true →
    requestQueueEnabled = true ∧ webEgressEnabled = true
  requestQueueBrowser_gate : requestQueueBrowserEnabled = true →
    requestQueueEnabled = true ∧ browserLiveNavigationEnabled = true
  requestQueueDataset_gate : requestQueueDatasetEnabled = true →
    requestQueueEnabled = true ∧ datasetWritesEnabled = true
  requestQueueKeyValueStore_gate : requestQueueKeyValueStoreEnabled = true →
    requestQueueEnabled = true ∧ keyValueStoreEnabled = true

def texts (items : List String) : Json := .list (items.map .text)

/-- The policy that the broker enforces. -/
def runtimeEgressPayload (methods hosts : List String) (limits : EgressLimits) : Members :=
  [("schema_version", .text "rdc.egress/v1"), ("mode", .text "brokered"),
    ("allowed_schemes", texts ["https"]), ("allowed_methods", texts methods),
    ("allowed_hosts", texts hosts), ("deny_ip_literals", .bool true),
    ("require_global_dns", .bool true), ("revalidate_redirects", .bool true),
    ("container_network", .text "none"), ("max_requests", .int limits.maxRequests),
    ("max_response_bytes", .int limits.maxResponseBytes),
    ("max_total_bytes", .int limits.maxTotalBytes), ("max_redirects", .int limits.maxRedirects),
    ("connect_timeout_seconds", .int limits.connectTimeoutSeconds),
    ("request_timeout_seconds", .int limits.requestTimeoutSeconds)]

section Policies
variable {e : Encoding} (settings : Settings e)

/-- `_egress_policy_payload`, and `_web_egress_policy_payload`. -/
def egressPolicyPayload : Members :=
  runtimeEgressPayload ["GET", "HEAD"] settings.webEgressAllowedHosts settings.webEgress

def browserPolicyPayload : Members :=
  [("schema_version", .text "rdc.browser-policy/v1"), ("enabled", .bool settings.browserEnabled),
    ("allowed_hosts", texts (settings.webEgressAllowedHosts.insertionSort (· ≤ ·))),
    ("max_pages", .int settings.browser.maxPages),
    ("max_actions", .int settings.browser.maxActions),
    ("navigation_timeout_seconds", .int settings.browser.navigationTimeoutSeconds),
    ("max_dom_bytes", .int settings.browser.maxDomBytes),
    ("max_screenshot_bytes", .int settings.browser.maxScreenshotBytes),
    ("agent_container_network", .text "none"), ("project_secrets_available", .bool false),
    ("persistent_profile", .bool false), ("downloads_enabled", .bool false),
    ("uploads_enabled", .bool false), ("remote_cdp_enabled", .bool false)]

/-- `_browser_egress_policy_payload` of the policy in effect. -/
def browserEgressPolicyPayload (effective : Members) : Members :=
  [("schema_version", .text "rdc.browser-egress-policy/v1"), ("mode", .text "gateway-live-canary"),
    ("allowed_schemes", texts ["https"]), ("allowed_methods", member effective "allowed_methods"),
    ("allowed_resource_types", texts ["document", "fetch", "font", "image", "script", "stylesheet",
      "xhr"]),
    ("allowed_hosts", member effective "allowed_hosts"), ("deny_ip_literals", .bool true),
    ("require_global_dns", .bool true), ("pin_validated_address", .bool true),
    ("revalidate_redirects", .bool true), ("revalidate_subresources", .bool true),
    ("strip_request_headers", texts ["authorization", "cookie", "proxy-authorization"]),
    ("strip_response_headers", texts ["set-cookie"]), ("service_workers_enabled", .bool false),
    ("websockets_enabled", .bool false), ("webrtc_enabled", .bool false),
    ("proxy_override_enabled", .bool false), ("persistent_cookies_enabled", .bool false),
    ("max_requests", member effective "max_requests"),
    ("max_resource_bytes", member effective "max_response_bytes"),
    ("max_total_bytes", member effective "max_total_bytes"),
    ("max_redirects", member effective "max_redirects"),
    ("connect_timeout_seconds", member effective "connect_timeout_seconds"),
    ("request_timeout_seconds", member effective "request_timeout_seconds"),
    ("transport_wired", .bool true), ("browser_network", .text "none")]

end Policies
end RoozDataCloud.SandboxSettings
