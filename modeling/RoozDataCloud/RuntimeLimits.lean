import RoozDataCloud.CapabilityAgreement
import Mathlib.Algebra.Order.Ring.Rat
import Mathlib.Tactic.Linarith

set_option autoImplicit false

/-!
# The limits that a run is executed under

A request may ask for less memory, CPU and time than the manifest allows, and the run
stores what it asked for. The policy of the claim is made of the manifest, and the worker
passes the policy to the container.
-/
namespace RoozDataCloud.RuntimeLimits
open KeyedTable ExecutionModels JsonDocuments SandboxSettings WorkerCapabilities CanaryActivation
open RunIntents CapabilityAgreement FallibleSteps
open Datasets (Json)

/-- The resources of a manifest that was stored with its version. -/
structure ManifestResources where
  memoryMb : ℤ
  cpuUnits : ℤ
  timeoutSeconds : ℤ
  maxProcesses : ℤ
  ephemeralDiskMb : ℤ
  memory_range : 128 ≤ memoryMb ∧ memoryMb ≤ 32768
  cpu_range : 100 ≤ cpuUnits ∧ cpuUnits ≤ 16000
  timeout_range : 1 ≤ timeoutSeconds ∧ timeoutSeconds ≤ 86400
  processes_range : 1 ≤ maxProcesses ∧ maxProcesses ≤ 4096
  disk_range : 64 ≤ ephemeralDiskMb ∧ ephemeralDiskMb ≤ 102400

def ManifestResources.document (resources : ManifestResources) : Json :=
  .object [("memoryMb", .int resources.memoryMb), ("cpuUnits", .int resources.cpuUnits),
    ("timeoutSeconds", .int resources.timeoutSeconds), ("maxProcesses", .int resources.maxProcesses),
    ("ephemeralDiskMb", .int resources.ephemeralDiskMb)]

/-- A version of an Agent, with its validated resources. -/
structure StoredVersion extends Version where
  resources : ManifestResources
  resources_eq : member manifest "resources" = resources.document

/-- What the container is started with. -/
structure ContainerLimits where
  pids : ℤ
  memoryMb : ℤ
  cpus : ℚ
  timeoutSeconds : ℤ

/-- The limits that `run_agent` reads from the policy, which holds numbers. -/
def containerLimits (e : Encoding) (policy : Members) : Option ContainerLimits := do
  let cpuMillis ← (policy.lookup "cpu_millis").bind e.intOf
  let pids ← (policy.lookup "pids").bind int?
  let memoryMb ← (policy.lookup "memory_mb").bind int?
  let timeoutSeconds ← (policy.lookup "timeout_seconds").bind e.intOf
  pure ⟨pids, memoryMb, max (1 / 10) (cpuMillis / 1000), timeoutSeconds⟩

/-- The files and names of a container. -/
structure Container where
  containerdAddress : String
  namespaceName : String
  name : String
  label : String
  seccompProfile : String
  apparmorProfile : String
  inputPath : String
  outputDir : String
  envPath : String
  imageRef : String
  entrypoint : List String

/-- The command of `run_agent`; `number` is `str` of a float. -/
def command (number : ℚ → String) (container : Container) (limits : ContainerLimits) : List String :=
  ["nerdctl", "--address", container.containerdAddress, "--namespace", container.namespaceName, "run",
    "--rm", "--name", container.name, "--label", container.label, "--pull", "never", "--user",
    "65532:65532", "--read-only", "--security-opt", "no-new-privileges", "--security-opt",
    "seccomp=" ++ container.seccompProfile, "--security-opt",
    "apparmor=" ++ container.apparmorProfile, "--cap-drop", "ALL", "--pids-limit",
    toString limits.pids, "--memory", toString limits.memoryMb ++ "m", "--cpus", number limits.cpus,
    "--network", "none", "--tmpfs", "/tmp:rw,noexec,nosuid,nodev,size=64m", "--mount",
    "type=bind,src=" ++ container.inputPath ++ ",dst=/rdc/input/input.json,ro", "--mount",
    "type=bind,src=" ++ container.outputDir ++ ",dst=/rdc/output,rw", "--env-file", container.envPath,
    "--env", "RDC_INPUT_PATH=/rdc/input/input.json", "--env",
    "RDC_OUTPUT_PATH=/rdc/output/output.json", container.imageRef] ++ container.entrypoint

/-- `run_agent`: the command, and how long it may take. -/
def runAgent (e : Encoding) (number : ℚ → String) (container : Container) (policy : Members) :
    Option (List String × ℤ) := do
  let limits ← containerLimits e policy
  pure (command number container limits, limits.timeoutSeconds)

section Limits
variable {e : Encoding}

/-- The container has at most the memory, CPU and time of a configuration. -/
def ContainerLimits.within (limits : ContainerLimits) (runtime : RuntimeConfiguration) : Prop :=
  limits.memoryMb ≤ runtime.memoryMb ∧ limits.cpus ≤ runtime.cpuMillis / 1000 ∧
    limits.timeoutSeconds ≤ runtime.timeoutSeconds

/-- So has the policy. -/
def policyWithin (policy : Members) (runtime : RuntimeConfiguration) : Prop :=
  ∃ memoryMb cpuMillis timeoutSeconds, policy.lookup "memory_mb" = some (.int memoryMb) ∧
    policy.lookup "cpu_millis" = some (.int cpuMillis) ∧
    policy.lookup "timeout_seconds" = some (.int timeoutSeconds) ∧
    memoryMb ≤ runtime.memoryMb ∧ cpuMillis ≤ runtime.cpuMillis ∧
    timeoutSeconds ≤ runtime.timeoutSeconds

/-- The request asks for no less memory and CPU than the manifest allows, and for no less time than
what is left of it under the ceiling of the sandbox. -/
structure Unreduced (settings : Settings e) (resources : ManifestResources) (runtime : RuntimeRequest) :
    Prop where
  memory : ∀ n, runtime.memoryMb = some n → resources.memoryMb ≤ n
  cpu : ∀ n, runtime.cpuMillis = some n → resources.cpuUnits ≤ n
  timeout : ∀ n, runtime.timeoutSeconds = some n →
    min resources.timeoutSeconds settings.sandboxMax.runSeconds ≤ n

theorem manifestResource_eq (version : StoredVersion) {key : String} {n : ℤ}
    (h : manifestResource version.manifest key = .ok n) :
    (key = "memoryMb" → n = version.resources.memoryMb) ∧
      (key = "cpuUnits" → n = version.resources.cpuUnits) ∧
      (key = "timeoutSeconds" → n = version.resources.timeoutSeconds) := by
  simp only [manifestResource, version.resources_eq, ManifestResources.document, object?, bind_ok,
    demand_ok, Option.some.injEq] at h
  obtain ⟨resources, rfl, hn⟩ := h
  refine ⟨?_, ?_, ?_⟩ <;> rintro rfl <;>
    simpa [member, List.lookup_cons, int?, eq_comm] using hn

theorem effectiveLimit_ok {name : String} {supplied : Option ℤ} {maximum value : ℤ}
    (h : effectiveLimit name supplied maximum = .ok value) :
    value = supplied.getD maximum ∧ value ≤ maximum := by
  simp only [effectiveLimit, bind_ok, require_ok, pure_ok] at h
  obtain ⟨-, hle, rfl⟩ := h
  exact ⟨rfl, hle⟩

/-- What is stored for a run: what it asked for, or what the manifest allows. -/
structure Configured (resources : ManifestResources) (request : RuntimeRequest)
    (runtime : RuntimeConfiguration) : Prop where
  memory : runtime.memoryMb = request.memoryMb.getD resources.memoryMb
  cpu : runtime.cpuMillis = request.cpuMillis.getD resources.cpuUnits
  timeout : runtime.timeoutSeconds = request.timeoutSeconds.getD resources.timeoutSeconds
  memory_le : runtime.memoryMb ≤ resources.memoryMb
  cpu_le : runtime.cpuMillis ≤ resources.cpuUnits
  timeout_le : runtime.timeoutSeconds ≤ resources.timeoutSeconds

theorem createRun_configured {settings : Settings e} {rows : ProjectRows e} {version : StoredVersion}
    {request : CreateRunRequest} {intent : RunIntent}
    (h : createRun settings rows version.toVersion request = .ok intent) :
    Configured version.resources request.runtime intent.runtime := by
  simp only [createRun, bind_ok, pure_ok] at h
  obtain ⟨-, -, -, -, runtime, hruntime, -, -, -, -, rfl⟩ := h
  simp only [runtimeConfiguration, bind_ok, pure_ok] at hruntime
  obtain ⟨memoryMax, hmemoryMax, cpuMax, hcpuMax, timeoutMax, htimeoutMax, memoryMb, hmemory, cpuMillis,
    hcpu, timeoutSeconds, htimeout, rfl⟩ := hruntime
  obtain rfl := (manifestResource_eq version hmemoryMax).1 rfl
  obtain rfl := (manifestResource_eq version hcpuMax).2.1 rfl
  obtain rfl := (manifestResource_eq version htimeoutMax).2.2 rfl
  obtain ⟨hmemory, hmemoryLe⟩ := effectiveLimit_ok hmemory
  obtain ⟨hcpu, hcpuLe⟩ := effectiveLimit_ok hcpu
  obtain ⟨htimeout, htimeoutLe⟩ := effectiveLimit_ok htimeout
  exact ⟨hmemory, hcpu, htimeout, hmemoryLe, hcpuLe, htimeoutLe⟩

/-- The policy of a claim has the limits of the manifest, and the ceiling on the time. -/
structure Policed (settings : Settings e) (resources : ManifestResources) (policy : Members) : Prop where
  memory : policy.lookup "memory_mb" = some (.int resources.memoryMb)
  cpu : policy.lookup "cpu_millis" = some (.int resources.cpuUnits)
  pids : policy.lookup "pids" = some (.int resources.maxProcesses)
  timeout : policy.lookup "timeout_seconds" =
    some (.int (min resources.timeoutSeconds settings.sandboxMax.runSeconds))

theorem sandboxResources_stored {settings : Settings e} {resources : ManifestResources}
    {members : Members} {r : Resources} (hmembers : resources.document = .object members)
    (h : sandboxResources settings members = some r) :
    r = ⟨resources.memoryMb, resources.cpuUnits, resources.maxProcesses, resources.ephemeralDiskMb,
      resources.timeoutSeconds⟩ := by
  obtain rfl := Json.object.inj hmembers
  simpa [sandboxResources, requestedResources, resource, List.lookup_cons, e.intOf_int, eq_comm] using h

theorem sandboxClaimPolicy_policed {settings : Settings e} {worker : SandboxWorker}
    {version : StoredVersion} {intent : RunIntent} {runId : Uuid} {artifact : Option Json}
    {policy : Members} (h : sandboxClaimPolicy settings worker
      (runClaimPayload (e := e) version.toVersion intent runId .runStart artifact) = .ok (some policy)) :
    Policed settings version.resources policy := by
  unfold sandboxClaimPolicy at h
  split at h
  next attestation a hattested hadmitted =>
    obtain ⟨capabilities, hadmits⟩ := (admitted_iff settings).1 hadmitted
    split at h
    · simp only [bind_ok, demand_ok, pure_ok] at h
      obtain ⟨r, hr, h⟩ := h
      split at h
      · obtain rfl := Option.some.inj h
        have hresources : version.resources.document = .object a.resources :=
          version.resources_eq.symm.trans hadmits.resources_eq
        have hkind : a.features.workKind = .runStart := hadmits.workKind
        obtain rfl := sandboxResources_stored hresources hr
        refine ⟨rfl, rfl, rfl, ?_⟩
        simp [policyMembers, List.lookup_cons, hkind, timeoutCeiling]
      · cases h
    · cases h
  next => cases h

/-- The limits of a container whose policy is made of the manifest. -/
def claimedLimits (settings : Settings e) (resources : ManifestResources) : ContainerLimits :=
  ⟨resources.maxProcesses, resources.memoryMb, max (1 / 10) (resources.cpuUnits / 1000),
    min resources.timeoutSeconds settings.sandboxMax.runSeconds⟩

theorem Policed.container {settings : Settings e} {resources : ManifestResources} {policy : Members}
    (h : Policed settings resources policy) :
    containerLimits e policy = some (claimedLimits settings resources) := by
  simp [containerLimits, claimedLimits, h.memory, h.cpu, h.pids, h.timeout, e.intOf_int, int?]

theorem cpus_le_iff {resources : ManifestResources} {cpuMillis : ℤ} :
    max (1 / 10 : ℚ) (resources.cpuUnits / 1000) ≤ cpuMillis / 1000 ↔
      resources.cpuUnits ≤ cpuMillis := by
  have hleast : (100 : ℚ) ≤ resources.cpuUnits := by exact_mod_cast resources.cpu_range.1
  rw [max_eq_right (by linarith), div_le_div_iff_of_pos_right (by norm_num)]
  exact Int.cast_le

theorem le_getD {supplied : Option ℤ} {bound maximum : ℤ} (h : bound ≤ maximum) :
    bound ≤ supplied.getD maximum ↔ ∀ n, supplied = some n → bound ≤ n := by
  cases supplied <;> simp [h]

theorem configured_unreduced {settings : Settings e} {resources : ManifestResources}
    {request : RuntimeRequest} {runtime : RuntimeConfiguration}
    (h : Configured resources request runtime) :
    (resources.memoryMb ≤ runtime.memoryMb ∧ resources.cpuUnits ≤ runtime.cpuMillis ∧
      min resources.timeoutSeconds settings.sandboxMax.runSeconds ≤ runtime.timeoutSeconds) ↔
    Unreduced settings resources request := by
  rw [h.memory, h.cpu, h.timeout, le_getD le_rfl, le_getD le_rfl, le_getD (min_le_left _ _)]
  exact ⟨fun ⟨hmemory, hcpu, htimeout⟩ => ⟨hmemory, hcpu, htimeout⟩,
    fun ⟨hmemory, hcpu, htimeout⟩ => ⟨hmemory, hcpu, htimeout⟩⟩

/-- What a run stores is within the manifest. The policy of its claim and the container are within
what it stores exactly when the request has not reduced a limit. -/
theorem overrides_effective_iff (settings : Settings e) (rows : ProjectRows e) (version : StoredVersion)
    (request : CreateRunRequest) (intent : RunIntent)
    (h : createRun settings rows version.toVersion request = .ok intent) (settings' : Settings e)
    (worker : SandboxWorker) (runId : Uuid) (artifact : Option Json) (policy : Members)
    (hpolicy : sandboxClaimPolicy settings' worker
      (runClaimPayload (e := e) version.toVersion intent runId .runStart artifact) = .ok (some policy))
    (number : ℚ → String) (container : Container) :
    (intent.runtime.memoryMb ≤ version.resources.memoryMb ∧
      intent.runtime.cpuMillis ≤ version.resources.cpuUnits ∧
      intent.runtime.timeoutSeconds ≤ version.resources.timeoutSeconds) ∧
    ∃ limits, runAgent e number container policy =
        some (command number container limits, limits.timeoutSeconds) ∧
      (policyWithin policy intent.runtime ∧ limits.within intent.runtime ↔
        Unreduced settings' version.resources request.runtime) := by
  have hconfigured := createRun_configured h
  have hpoliced := sandboxClaimPolicy_policed hpolicy
  refine ⟨⟨hconfigured.memory_le, hconfigured.cpu_le, hconfigured.timeout_le⟩,
    claimedLimits settings' version.resources, ?_, ?_⟩
  · rw [runAgent, hpoliced.container]
    rfl
  · rw [← configured_unreduced hconfigured]
    constructor
    · rintro ⟨-, hmemory, hcpus, htimeout⟩
      exact ⟨hmemory, cpus_le_iff.1 hcpus, htimeout⟩
    · rintro ⟨hmemory, hcpus, htimeout⟩
      exact ⟨⟨_, _, _, hpoliced.memory, hpoliced.cpu, hpoliced.timeout, hmemory, hcpus, htimeout⟩,
        hmemory, cpus_le_iff.2 hcpus, htimeout⟩

end Limits

section Reduced

/-- A version with 256 MB, and a run of it that asks for half of that. -/
def wideVersion : StoredVersion where
  id := 1
  manifest := [("capabilities", smallCapabilities "none" true),
    ("resources", .object [("memoryMb", .int 256), ("cpuUnits", .int 250), ("timeoutSeconds", .int 60),
      ("maxProcesses", .int 32), ("ephemeralDiskMb", .int 128)]), ("secrets", .list [])]
  resources :=
    { memoryMb := 256
      cpuUnits := 250
      timeoutSeconds := 60
      maxProcesses := 32
      ephemeralDiskMb := 128
      memory_range := by decide
      cpu_range := by decide
      timeout_range := by decide
      processes_range := by decide
      disk_range := by decide }
  resources_eq := rfl

def halfMemory : CreateRunRequest := { queueRequest with runtime := ⟨some 128, none, none⟩ }

def halfIntent : Except Failure RunIntent :=
  createRun (smallSettings silentCodec) (smallRows _) wideVersion.toVersion halfMemory

theorem halfIntent_ok : halfIntent.isOk = true := by
  decide +kernel

def halfRun : RunIntent := okValue _ halfIntent_ok

def halfClaim : Except Failure (Option Members) :=
  sandboxClaimPolicy (smallSettings silentCodec) smallWorker
    (runClaimPayload (e := smallEncoding silentCodec) wideVersion.toVersion halfRun 3 .runStart
      (some (.object [])))

theorem halfClaim_ok : (halfClaim.toOption.bind id).isSome = true := by
  decide +kernel

def halfPolicy : Members := (halfClaim.toOption.bind id).get halfClaim_ok

theorem halfPolicy_eq : halfClaim = .ok (some halfPolicy) := by
  have hsome : halfClaim.toOption.bind id = some halfPolicy := (Option.some_get halfClaim_ok).symm
  obtain ⟨policy, hpolicy, heq⟩ := Option.bind_eq_some_iff.1 hsome
  rw [toOption_some.1 hpolicy]
  exact congrArg Except.ok heq

def sampleContainer : Container :=
  ⟨"containerd.sock", "rdc", "rdc-run", "managed", "seccomp.json", "rdc", "input.json", "output",
    "secrets.env", "image", []⟩

/-- The run stores no more than the manifest allows. -/
theorem half_memory_stored : halfRun.runtime.memoryMb ≤ 256 :=
  (overrides_effective_iff (smallSettings silentCodec) (smallRows _) wideVersion halfMemory halfRun
    (okValue_eq _ halfIntent_ok) (smallSettings silentCodec) smallWorker 3 (some (.object []))
    halfPolicy halfPolicy_eq (fun _ => "") sampleContainer).1.1

/-- The run stores 128 MB and is executed with 256. -/
theorem reduced_memory_ignored :
    halfIntent = .ok halfRun ∧ halfRun.runtime.memoryMb = 128 ∧
      Executable (smallSettings silentCodec) smallWorker
        (runClaimPayload (e := smallEncoding silentCodec) wideVersion.toVersion halfRun 3 .runStart
          (some (.object []))) ∧
      halfClaim = .ok (some halfPolicy) ∧ halfPolicy.lookup "memory_mb" = some (.int 256) ∧
      (containerLimits (smallEncoding silentCodec) halfPolicy).map (·.memoryMb) = some 256 := by
  refine ⟨okValue_eq _ halfIntent_ok, by decide +kernel, ⟨halfPolicy, halfPolicy_eq, ?_⟩,
    halfPolicy_eq, ?_, ?_⟩
  · decide +kernel
  · decide +kernel
  · decide +kernel

end Reduced
end RoozDataCloud.RuntimeLimits
