import RoozDataCloud.RunIntents

set_option autoImplicit false

/-!
# Issue and use of the capabilities of a lease

The capabilities are computed once when a lease is issued, and again, from what the
lease has stored, when they are used. The two computations agree for every run that
`create_run` has made.
-/
namespace RoozDataCloud.CapabilityAgreement
open KeyedTable ExecutionModels JsonDocuments SandboxSettings WorkerCapabilities CapabilityChecks
open EgressBindings CanaryActivation RunIntents FallibleSteps
open Datasets (Json)

/-- A run as it was created, under the settings of that time. -/
structure CreatedRun (e : Encoding) (version : Version) where
  settings : Settings e
  rows : ProjectRows e
  request : CreateRunRequest
  intent : RunIntent
  created : createRun settings rows version request = .ok intent

/-- What a worker can be handed. -/
inductive Workload (e : Encoding) where
  | build (version : Version) (buildId : Uuid)
  | start (version : Version) (runId : Uuid) (run : CreatedRun e version) (artifact : Option Json)
  | cancel (version : Version) (runId : Uuid) (run : CreatedRun e version) (artifact : Option Json)

namespace Workload
variable {e : Encoding}

def target : Workload e → Target
  | build _ buildId => .build buildId
  | start _ runId _ _ => .runStart runId
  | cancel _ runId _ _ => .runCancel runId

def payload : Workload e → ClaimPayload
  | build version _ => buildClaimPayload (e := e) version
  | start version runId run artifact =>
    runClaimPayload (e := e) version run.intent runId .runStart artifact
  | cancel version runId run artifact =>
    runClaimPayload (e := e) version run.intent runId .runCancel artifact

theorem payload_workKind (w : Workload e) : w.payload.workKind = w.target.kind := by
  cases w <;> rfl

theorem payload_runId (w : Workload e) : w.payload.runId = w.target.runId?.map e.uuidText := by
  cases w <;> rfl

end Workload

/-- The lease that a workload was handed out under, with the run that it is for. -/
structure Held {e : Encoding} (w : Workload e) where
  lease : ExecutionLease
  st : State
  lease_target : lease.target = w.target
  run_row : ∀ runId, w.target.runId? = some runId → ∃ run, st.runs.get? runId = some run ∧
    run.organizationId = lease.organizationId ∧ run.projectId = lease.projectId ∧
    e.uuidText run.agentVersionId = w.payload.agentVersionId

section Inputs
variable {e : Encoding} {version : Version} (run : CreatedRun e version)

theorem CreatedRun.queued {key : String} (hkey : key ∈ queueKeys) (hcommon : key ∉ commonKeys)
    (h : member run.intent.inputReference key ≠ .null) :
    ∃ bound queueId plan, queuePlan run.settings run.rows version bound run.request.input queueId =
      .ok plan ∧ member run.intent.inputReference key = member plan.members key := by
  obtain ⟨bound, plan, -, hplan, hinput, -⟩ := createRun_ok _ _ _ run.created
  rw [hinput, member_common hcommon] at h
  by_cases hsurface : ∃ queueId, run.request.surface = .requestQueue queueId
  · obtain ⟨queueId, hqueue⟩ := hsurface
    rw [hqueue] at hplan
    refine ⟨bound, queueId, plan, hplan, ?_⟩
    rw [hinput, member_common hcommon]
  · exact absurd (surfacePlan_queueKeys _ _ _ hplan (fun queueId hq => hsurface ⟨queueId, hq⟩) hkey) h

theorem CreatedRun.browserDigest
    (h : member run.intent.inputReference "request_queue_browser_egress_policy_digest" ≠ .null) :
    ∃ capabilities manifest, member version.manifest "capabilities" = .object capabilities ∧
      declaredQueue capabilities = some manifest ∧ manifest.acquisition = .controlledBrowser := by
  obtain ⟨bound, queueId, plan, hplan, heq⟩ := run.queued (by decide) (by decide) h
  obtain ⟨capabilities, manifest, readDigest, hcapabilities, hmanifest, -, rfl⟩ := queuePlan_ok _ _ _ hplan
  refine ⟨capabilities, manifest, hcapabilities, hmanifest, ?_⟩
  rw [heq] at h
  cases hacquisition : manifest.acquisition with
  | controlledBrowser => rfl
  | _ =>
    refine absurd ?_ h
    simp only [hacquisition, queuePolicyEntries, datasetEntries, keyValueStoreEntries]
    cases manifest.dataset <;> cases manifest.keyValueStore <;> rfl

theorem CreatedRun.binding (h : member run.intent.inputReference "request_queue" ≠ .null) :
    ∃ queueId, member run.intent.inputReference "request_queue" = normalizedBinding e queueId := by
  obtain ⟨bound, queueId, plan, hplan, heq⟩ := run.queued (by decide) (by decide) h
  obtain ⟨capabilities, manifest, readDigest, -, -, -, rfl⟩ := queuePlan_ok _ _ _ hplan
  exact ⟨queueId, heq⟩

theorem Workload.browserDigest (w : Workload e)
    (h : member w.payload.input "request_queue_browser_egress_policy_digest" ≠ .null) :
    ∃ capabilities manifest, member w.payload.manifest "capabilities" = .object capabilities ∧
      declaredQueue capabilities = some manifest ∧ manifest.acquisition = .controlledBrowser := by
  cases w with
  | build version buildId => exact absurd rfl h
  | start version runId run artifact => exact run.browserDigest h
  | cancel version runId run artifact => exact run.browserDigest h

theorem Workload.binding (w : Workload e) (h : member w.payload.input "request_queue" ≠ .null) :
    ∃ queueId, member w.payload.input "request_queue" = normalizedBinding e queueId := by
  cases w with
  | build version buildId => exact absurd rfl h
  | start version runId run artifact => exact run.binding h
  | cancel version runId run artifact => exact run.binding h

end Inputs

section Grants
variable {e : Encoding} {settings : Settings e} {worker : SandboxWorker} {payload : ClaimPayload}
variable {capabilities : Members} {a : Admission} {policy : Members}

theorem requestQueueCapability_disabled {grant : QueueGrant} (h : grant.requestQueueEnabled = false) :
    requestQueueCapability settings worker payload grant = none := by
  rw [Option.eq_none_iff_forall_ne_some]
  intro capability hcapability
  obtain ⟨input, capabilities, receipt, manifest, queueId, hgrants, -⟩ :=
    (requestQueueCapability_iff settings).1 hcapability
  have henabled := hgrants.enabled
  rw [h] at henabled
  cases henabled

theorem manifest_features {workKind : WorkKind} {f : Features} {manifest : QueueManifest}
    (hf : declaredFeatures workKind capabilities = some f)
    (hm : declaredQueue capabilities = some manifest) :
    manifest.acquisition = acquisitionOf f.network f.browser ∧ manifest.dataset = f.dataset ∧
      manifest.keyValueStore = f.keyValueStore ∧ f.requestQueue = true ∧
      (f.browser = true → f.webEgress = true) := by
  obtain ⟨-, hnetwork, -, hbrowser, hdataset, hstore, hqueue⟩ := declaredFeatures_iff.1 hf
  obtain ⟨hqueue', network, browser, hnetwork', -, hbrowser', hdataset', hstore', hweb, -, hacquisition⟩ :=
    declaredQueue_iff.1 hm
  rw [hnetwork, Json.text.injEq] at hnetwork'
  rw [hbrowser, Json.bool.injEq] at hbrowser'
  rw [hdataset, Json.bool.injEq] at hdataset'
  rw [hstore, Json.bool.injEq] at hstore'
  rw [hqueue, Json.bool.injEq] at hqueue'
  subst hnetwork' hbrowser'
  exact ⟨hacquisition, hdataset'.symm, hstore'.symm, hqueue', fun h => decide_eq_true (hweb h)⟩

theorem egressDigest_of_trial (hadmits : Admits settings worker payload capabilities a)
    (hbrowser : a.features.queueBrowser = true) {capability : Members}
    (hcapability : requestQueueCapability settings worker payload
      (trialGrant settings a.features a.bound) = some capability) :
    text? (member payload.input "request_queue_browser_egress_policy_digest") =
      some (browserEgressDigest settings a.bound) := by
  obtain ⟨input, capabilities', receipt, manifest, queueId, h, -⟩ :=
    (requestQueueCapability_iff settings).1 hcapability
  have hsame : capabilities' = capabilities :=
    Json.object.inj (h.capabilities_eq.symm.trans hadmits.capabilities_eq)
  subst hsame
  obtain ⟨hacquisition, -⟩ := manifest_features hadmits.declared h.declared
  have hweb : a.features.webEgress = true ∧ a.features.browser = true := by
    simp only [Features.queueBrowser, Bool.and_eq_true] at hbrowser
    exact ⟨hbrowser.1.2, hbrowser.2⟩
  rw [(acquisitionOf_eq _ _).1.2 ⟨of_decide_eq_true hweb.1, hweb.2⟩] at hacquisition
  obtain ⟨expected, hexpected, -⟩ := h.expected
  rw [hacquisition] at hexpected
  simp only [expectedBindingReceipt, bind_some, guard_some, storedPolicy, text?_eq, pure_some,
    Prod.exists, Prod.mk.injEq] at hexpected
  obtain ⟨-, -, -, -, -, egress, digest, ⟨-, -, stored, hdigest, -, -, -, hstored⟩, -, -, -, hgrant, -⟩ :=
    hexpected
  subst hstored
  simp only [trialGrant, hbrowser, ↓reduceIte, Option.some.injEq] at hgrant
  rw [ClaimPayload.input, h.input_eq, Option.getD_some, hgrant]
  exact text?_eq.2 hdigest

theorem issuedGrant_some (activation : SandboxActivation) :
    issuedGrant payload (some activation) =
      { requestQueueEnabled := activation.requestQueueEnabled
        httpEnabled := activation.requestQueueHttpEnabled
        egressPolicyDigest :=
          if activation.requestQueueHttpEnabled then activation.egressPolicyDigest else none
        browserEnabled := activation.requestQueueBrowserEnabled
        browserPolicyDigest :=
          if activation.requestQueueBrowserEnabled then activation.browserPolicyDigest else none
        browserEgressPolicyDigest := if activation.requestQueueBrowserEnabled then
          text? (member payload.input "request_queue_browser_egress_policy_digest") else none
        datasetEnabled := activation.requestQueueDatasetEnabled
        keyValueStoreEnabled := activation.requestQueueKeyValueStoreEnabled
        projectBindingDigest := activation.projectEgressPolicyBindingDigest } := by
  cases hhttp : activation.requestQueueHttpEnabled <;>
    cases hbrowser : activation.requestQueueBrowserEnabled <;>
    simp [issuedGrant, hhttp, hbrowser, Option.filter]

theorem issuedGrant_eq_trial (hadmits : Admits settings worker payload capabilities a)
    (hbrowser : a.features.browser = true → a.features.webEgress = true)
    (hqueue : a.features.queueRuntime = true) {capability : Members}
    (hcapability : requestQueueCapability settings worker payload
      (trialGrant settings a.features a.bound) = some capability) :
    issuedGrant payload (some (activationOf settings policy a hbrowser)) =
      trialGrant settings a.features a.bound := by
  have hsame : a.features.queueBrowser = a.features.browser := by
    cases hb : a.features.browser with
    | false => simp [Features.queueBrowser, hb]
    | true => simp [Features.queueBrowser, hb, hqueue, hbrowser hb]
  have hdigest : (if a.features.queueBrowser then
        text? (member payload.input "request_queue_browser_egress_policy_digest") else none) =
      if a.features.queueBrowser then some (browserEgressDigest settings a.bound) else none :=
    ite_congr rfl (fun h => egressDigest_of_trial hadmits h hcapability) (fun _ => rfl)
  have hpolicy : (if a.features.queueBrowser then
        (if a.features.browser then some (browserDigest settings) else none) else none) =
      if a.features.browser then some (browserDigest settings) else none := by
    rw [hsame]
    split <;> rfl
  rw [issuedGrant_some]
  simp only [trialGrant, activationOf, hqueue, hdigest, hpolicy]

end Grants
section Agreement
variable {e : Encoding} {settings : Settings e} {worker : SandboxWorker} {w : Workload e}
variable {capabilities : Members} {a : Admission} {policy : Members}
variable {hbrowser : a.features.browser = true → a.features.webEgress = true}

theorem storedGrant_of_digest {snapshot : Snapshot} {activation : SandboxActivation}
    (hcanary : settings.sandboxExecutionEnabled = true ∧ settings.sandboxActivationMode = .canary)
    (hactivation : snapshot.activation = some activation)
    (hdigest : activation.requestQueueBrowserEnabled = false →
      text? (member snapshot.payload.input "request_queue_browser_egress_policy_digest") = none) :
    storedGrant settings snapshot = issuedGrant snapshot.payload (some activation) := by
  cases h : activation.requestQueueBrowserEnabled with
  | false => simp [storedGrant, issuedGrant, hcanary, hactivation, hdigest h, h]
  | true => simp [storedGrant, issuedGrant, hcanary, hactivation, h, Option.filter]

theorem storedGrant_eq (hadmits : Admits settings worker w.payload capabilities a)
    (hconfigured : canaryConfigured settings worker w.payload = true)
    (hqueue : a.features.queueRuntime = true) :
    storedGrant settings (issuedSnapshot settings worker w.payload
        (some (activationOf settings policy a hbrowser))) =
      issuedGrant w.payload (some (activationOf settings policy a hbrowser)) := by
  have hcanary : settings.sandboxExecutionEnabled = true ∧ settings.sandboxActivationMode = .canary := by
    simp only [canaryConfigured, Bool.and_eq_true, decide_eq_true_eq] at hconfigured
    exact ⟨hconfigured.1.1.1.1.1.1, hconfigured.1.1.1.1.1.2⟩
  -- without a browser, the input has no digest that only the use would read
  have hdigest : a.features.queueBrowser = false →
      text? (member w.payload.input "request_queue_browser_egress_policy_digest") = none := by
    intro hno
    by_cases hnull : member w.payload.input "request_queue_browser_egress_policy_digest" = .null
    · rw [hnull]
      rfl
    obtain ⟨capabilities', manifest, hcapabilities, hdeclared, hacquisition⟩ := w.browserDigest hnull
    obtain rfl := Json.object.inj (hcapabilities.symm.trans hadmits.capabilities_eq)
    obtain ⟨heq, -⟩ := manifest_features hadmits.declared hdeclared
    obtain ⟨hweb, hb⟩ := (acquisitionOf_eq _ _).1.1 (heq.symm.trans hacquisition)
    simp [Features.queueBrowser, Features.webEgress, hqueue, hweb, hb] at hno
  exact storedGrant_of_digest hcanary rfl hdigest

theorem queue_recomputed (hadmits : Admits settings worker w.payload capabilities a)
    (hconfigured : canaryConfigured settings worker w.payload = true) :
    requestQueueCapability settings worker w.payload (storedGrant settings
        (issuedSnapshot settings worker w.payload (some (activationOf settings policy a hbrowser)))) =
      requestQueueCapability settings worker w.payload
        (issuedGrant w.payload (some (activationOf settings policy a hbrowser))) := by
  cases hqueue : a.features.queueRuntime with
  | true => rw [storedGrant_eq hadmits hconfigured hqueue]
  | false =>
    have hstored : (storedGrant settings (issuedSnapshot settings worker w.payload
        (some (activationOf settings policy a hbrowser)))).requestQueueEnabled = false := by
      simp [storedGrant, issuedSnapshot, activationOf, hqueue]
    have hissued : (issuedGrant w.payload
        (some (activationOf settings policy a hbrowser))).requestQueueEnabled = false := hqueue
    rw [requestQueueCapability_disabled hstored, requestQueueCapability_disabled hissued]

theorem queue_issued (hadmits : Admits settings worker w.payload capabilities a)
    (hqueue : a.features.queueRuntime = true) :
    (requestQueueCapability settings worker w.payload
      (issuedGrant w.payload (some (activationOf settings policy a hbrowser)))).isSome = true := by
  obtain ⟨-, -, -, capability, hcapability⟩ := queueAdmitted_gates hadmits.queue hqueue
  rw [issuedGrant_eq_trial hadmits hbrowser hqueue hcapability, hcapability]
  rfl

theorem canaryRun_of_configured {capability : WorkerCapability}
    (hadmits : Admits settings worker w.payload capabilities a)
    (hconfigured : canaryConfigured settings worker w.payload = true)
    (hstarted : a.features.started = true) (hcapability : capability ∈ worker.capabilities) :
    canaryRun settings worker w.payload capability = true := by
  have hkind : w.payload.workKind = .runStart := hadmits.workKind ▸ of_decide_eq_true hstarted
  simp only [canaryConfigured, Bool.and_eq_true, decide_eq_true_eq] at hconfigured
  simp [canaryRun, hkind, hcapability, hconfigured]

theorem started_runId (hadmits : Admits settings worker w.payload capabilities a)
    (hstarted : a.features.started = true) :
    ∃ runId, w.target = .runStart runId ∧ nonEmpty w.payload.runId = some (e.uuidText runId) := by
  have hkind : w.payload.workKind = .runStart := hadmits.workKind ▸ of_decide_eq_true hstarted
  cases w with
  | build version buildId => cases hkind
  | start version runId run artifact =>
    refine ⟨runId, rfl, ?_⟩
    simp [nonEmpty, Workload.payload, runClaimPayload, Option.filter, e.uuidText_nonempty]
  | cancel version runId run artifact => cases hkind

theorem boundQueueText_of_issued (hadmits : Admits settings worker w.payload capabilities a)
    (hqueue : a.features.queueRuntime = true) :
    ∃ queue, boundQueueText w.payload.input = some queue := by
  obtain ⟨-, -, -, capability, hcapability⟩ := queueAdmitted_gates hadmits.queue hqueue
  obtain ⟨input, _, _, _, queueId, h, -⟩ := (requestQueueCapability_iff settings).1 hcapability
  have hinput : w.payload.input = input := by rw [ClaimPayload.input, h.input_eq, Option.getD_some]
  have hbinding := h.binding
  simp only [boundQueue, bind_some, object?_eq] at hbinding
  obtain ⟨binding, hobject, -⟩ := hbinding
  obtain ⟨id, hid⟩ := w.binding (by rw [hinput, hobject]; nofun)
  refine ⟨e.uuidText id, ?_⟩
  rw [boundQueueText, hid]
  rfl

theorem dataset_issued (hadmits : Admits settings worker w.payload capabilities a)
    (hconfigured : canaryConfigured settings worker w.payload = true)
    (hdataset : a.features.dataset = true) :
    (datasetAppendCapability settings worker w.payload true a.features.queueDataset).isSome = true := by
  have hadmitted := hadmits.dataset
  simp only [datasetAdmitted, hdataset, Bool.not_true, Bool.false_or, Bool.and_eq_true,
    decide_eq_true_eq] at hadmitted
  obtain ⟨⟨⟨hstarted, hb⟩, hgate⟩, hcapability⟩ := hadmitted
  obtain ⟨-, -, -, hbrowser', hdataset', hstore, hqueue⟩ := declaredFeatures_iff.1 hadmits.declared
  obtain ⟨runId, -, hrun⟩ := started_runId hadmits hstarted
  have hnostore : a.features.keyValueStore = false := by
    have halone := hadmits.dataset_alone
    simpa [hstarted, hdataset, Features.kvRuntime] using halone
  have hqueued : a.features.queueDataset = a.features.requestQueue := by
    simp [Features.queueDataset, Features.queueRuntime, hstarted, hdataset]
  have hmanifest : datasetManifest settings capabilities a.features.queueDataset = true := by
    simp only [datasetManifest, hdataset', hdataset, hstore, hnostore, hqueue, hbrowser', bool?,
      hqueued]
    cases hr : a.features.requestQueue with
    | false =>
      have hbrowserOff : a.features.browser = false := by simpa [hqueued, hr] using hb
      simp [hbrowserOff]
    | true =>
      have hrun : a.features.queueRuntime = true := by simp [Features.queueRuntime, hr, hstarted]
      obtain ⟨-, -, hgates, -⟩ := queueAdmitted_gates hadmits.queue hrun
      simp [hgates (hqueued.trans hr)]
  obtain ⟨members, hmembers⟩ : ∃ members, queuedDatasetMembers w.payload.input
      a.features.queueDataset = some members := by
    cases hq : a.features.queueDataset with
    | false => exact ⟨[], rfl⟩
    | true =>
      have hruntime : a.features.queueRuntime = true := by
        simp only [Features.queueDataset, Bool.and_eq_true] at hq
        exact hq.1
      obtain ⟨queue, htext⟩ := boundQueueText_of_issued hadmits hruntime
      exact ⟨_, by rw [queuedDatasetMembers, htext]; rfl⟩
  refine Option.isSome_iff_exists.2 ⟨datasetMembers worker w.payload (e.uuidText runId)
    a.features.queueDataset ++ members, ?_⟩
  simp only [datasetAppendCapability, bind_some, guard_some, object?_eq, pure_some]
  exact ⟨(), ⟨trivial, hgate, canaryRun_of_configured hadmits hconfigured hstarted hcapability⟩,
    capabilities, hadmits.capabilities_eq, (), hmanifest, _, hrun, members, hmembers, rfl⟩

end Agreement

/-- A check at its use: the capability it computes is the one that is stored, it accepts if and only
if the feature is activated, and what it accepts is what is stored. -/
structure Agrees {α : Type} (check : Except Failure α) (capability : α → Members)
    (stored computed : Option Members) (activated : Bool) : Prop where
  recomputed : computed = stored
  accepts : (∃ result, check = .ok result) ↔ activated = true
  returns : ∀ result, check = .ok result → stored = some (capability result)

section Checks
variable {e : Encoding} {settings : Settings e} {worker : SandboxWorker} {w : Workload e}
variable {capabilities : Members} {a : Admission} {policy : Members}
variable {hbrowser : a.features.browser = true → a.features.webEgress = true} {snapshot : Snapshot}

theorem enabled_ok {lease : ExecutionLease} {capability : Members} :
    enabled settings worker lease snapshot = .ok capability ↔ lease.target.kind = .runStart ∧
      granted snapshot.requestQueueCapability (requestQueueCapability settings worker
        snapshot.payload (storedGrant settings snapshot)) = some capability := by
  simp only [enabled, bind_ok, require_ok, demand_ok]
  constructor
  · rintro ⟨_, hkind, h⟩
    exact ⟨hkind, h⟩
  · rintro ⟨hkind, h⟩
    exact ⟨(), hkind, h⟩

theorem enabled_agrees (held : Held w) (hadmits : Admits settings worker w.payload capabilities a)
    (hconfigured : canaryConfigured settings worker w.payload = true)
    (hsnapshot : snapshot = issuedSnapshot settings worker w.payload
      (some (activationOf settings policy a hbrowser))) :
    Agrees (enabled settings worker held.lease snapshot) id snapshot.requestQueueCapability
      (requestQueueCapability settings worker snapshot.payload (storedGrant settings snapshot))
      a.features.queueRuntime := by
  have hsame : requestQueueCapability settings worker snapshot.payload (storedGrant settings snapshot) =
      snapshot.requestQueueCapability := by
    subst hsnapshot
    exact queue_recomputed hadmits hconfigured
  have hok : ∀ capability, enabled settings worker held.lease snapshot = .ok capability ↔
      held.lease.target.kind = .runStart ∧ snapshot.requestQueueCapability = some capability := by
    intro capability
    rw [enabled_ok, hsame, granted_self]
  refine ⟨hsame, ?_, fun capability h => ((hok capability).1 h).2⟩
  constructor
  · rintro ⟨capability, h⟩
    have hstored := ((hok capability).1 h).2
    rw [hsnapshot] at hstored
    obtain ⟨_, _, _, _, _, hgrants, -⟩ := (requestQueueCapability_iff settings).1 hstored
    exact hgrants.enabled
  · intro hqueue
    have hstarted : a.features.started = true := by
      simp only [Features.queueRuntime, Bool.and_eq_true] at hqueue
      exact hqueue.2
    have hissued : snapshot.requestQueueCapability.isSome = true := by
      rw [hsnapshot]
      exact queue_issued hadmits hqueue
    obtain ⟨capability, hcapability⟩ := Option.isSome_iff_exists.1 hissued
    obtain ⟨runId, htarget, -⟩ := started_runId hadmits hstarted
    refine ⟨capability, (hok capability).2 ⟨?_, hcapability⟩⟩
    rw [held.lease_target, htarget]
    rfl

theorem canaryRunOf_held (held : Held w) {runId : Uuid} (htarget : w.target = .runStart runId)
    (hversion : w.payload.agentVersionId = settings.canaryAgentVersionId)
    (hpayload : snapshot.payload = w.payload) :
    ∃ run, canaryRunOf settings held.st held.lease snapshot runId = .ok run := by
  obtain ⟨run, hrun, horganization, hproject, hagent⟩ := held.run_row runId (by rw [htarget]; rfl)
  refine ⟨run, ?_⟩
  simp only [canaryRunOf, bind_ok, demand_ok, require_ok, pure_ok]
  refine ⟨run, ?_, (), hagent.trans hversion, (), ?_, rfl⟩
  · rw [hrun, Option.filter_some, if_pos (by simp [horganization, hproject])]
  · rw [hpayload, hagent]

theorem workerRunContext_ok {st : State} {lease : ExecutionLease} {run : Run} {capability : Members} :
    workerRunContext settings st worker lease snapshot = .ok (run, capability) ↔
      settings.keyValueStoreEnabled = true ∧
      (lease.target.kind = .runStart ∧ .kvAccess ∈ worker.capabilities) ∧
      ∃ runId, lease.target.runId? = some runId ∧
        granted snapshot.keyValueStoreCapability (keyValueStoreCapability settings worker
          snapshot.payload (snapshot.activation.any (·.keyValueStoreEnabled))
          (snapshot.activation.any (·.requestQueueKeyValueStoreEnabled))) = some capability ∧
        snapshot.payload.runId.getD "" = e.uuidText runId ∧
        canaryRunOf settings st lease snapshot runId = .ok run := by
  simp only [workerRunContext, bind_ok, demand_ok, require_ok, pure_ok, Prod.mk.injEq]
  constructor
  · rintro ⟨-, hgate, -, hkind, runId, hrunId, _, hgranted, -, htext, _, hrun, rfl, rfl⟩
    exact ⟨hgate, hkind, runId, hrunId, hgranted, htext, hrun⟩
  · rintro ⟨hgate, hkind, runId, hrunId, hgranted, htext, hrun⟩
    exact ⟨(), hgate, (), hkind, runId, hrunId, capability, hgranted, (), htext, run, hrun, rfl, rfl⟩

theorem datasetContext_ok {st : State} {lease : ExecutionLease} {run : Run} {capability : Members} :
    datasetContext settings st worker lease snapshot = .ok (run, capability) ↔
      settings.datasetWritesEnabled = true ∧ lease.target.kind = .runStart ∧
      ∃ runId, lease.target.runId? = some runId ∧ .datasetAppend ∈ worker.capabilities ∧
        granted snapshot.datasetAppendCapability (datasetAppendCapability settings worker
          snapshot.payload (snapshot.activation.any (·.datasetWriteEnabled))
          (snapshot.activation.any (·.requestQueueDatasetEnabled))) = some capability ∧
        snapshot.payload.runId.getD "" = e.uuidText runId ∧
        canaryRunOf settings st lease snapshot runId = .ok run := by
  simp only [datasetContext, bind_ok, demand_ok, require_ok, pure_ok, Prod.mk.injEq]
  constructor
  · rintro ⟨-, hgate, -, hkind, runId, hrunId, -, haccess, _, hgranted, -, htext, _, hrun, rfl, rfl⟩
    exact ⟨hgate, hkind, runId, hrunId, haccess, hgranted, htext, hrun⟩
  · rintro ⟨hgate, hkind, runId, hrunId, haccess, hgranted, htext, hrun⟩
    exact ⟨(), hgate, (), hkind, runId, hrunId, (), haccess, capability, hgranted, (), htext, run, hrun,
      rfl, rfl⟩

theorem held_start (held : Held w) (hadmits : Admits settings worker w.payload capabilities a)
    (hstarted : a.features.started = true)
    (hversion : w.payload.agentVersionId = settings.canaryAgentVersionId)
    (hpayload : snapshot.payload = w.payload) :
    held.lease.target.kind = .runStart ∧ ∃ runId run, held.lease.target.runId? = some runId ∧
      snapshot.payload.runId.getD "" = e.uuidText runId ∧
      canaryRunOf settings held.st held.lease snapshot runId = .ok run := by
  obtain ⟨runId, htarget, -⟩ := started_runId hadmits hstarted
  obtain ⟨run, hrun⟩ := canaryRunOf_held held htarget hversion hpayload
  refine ⟨?_, runId, run, ?_, ?_, hrun⟩
  · rw [held.lease_target, htarget]
    rfl
  · rw [held.lease_target, htarget]
    rfl
  · rw [hpayload, w.payload_runId, htarget]
    rfl

theorem keyValueStore_agrees (held : Held w)
    (hadmits : Admits settings worker w.payload capabilities a)
    (hsnapshot : snapshot = issuedSnapshot settings worker w.payload
      (some (activationOf settings policy a hbrowser))) :
    Agrees (workerRunContext settings held.st worker held.lease snapshot) Prod.snd
      snapshot.keyValueStoreCapability
      (keyValueStoreCapability settings worker snapshot.payload
        (snapshot.activation.any (·.keyValueStoreEnabled))
        (snapshot.activation.any (·.requestQueueKeyValueStoreEnabled)))
      a.features.kvRuntime := by
  have hstored : snapshot.keyValueStoreCapability = keyValueStoreCapability settings worker w.payload
      a.features.kvRuntime a.features.queueKv := by
    rw [hsnapshot]
    rfl
  have hcomputed : keyValueStoreCapability settings worker snapshot.payload
      (snapshot.activation.any (·.keyValueStoreEnabled))
      (snapshot.activation.any (·.requestQueueKeyValueStoreEnabled)) =
      snapshot.keyValueStoreCapability := by
    rw [hsnapshot]
    rfl
  refine ⟨hcomputed, ⟨?_, fun hstore => ?_⟩, ?_⟩
  · rintro ⟨⟨run, capability⟩, h⟩
    obtain ⟨-, -, runId, -, hgranted, -⟩ := workerRunContext_ok.1 h
    rw [hcomputed, granted_self, hstored] at hgranted
    exact (keyValueStoreCapability_some settings hgranted).1
  · have hadmitted := hadmits.keyValueStore
    simp only [keyValueStoreAdmitted, hstore, Bool.not_true, Bool.false_or] at hadmitted
    obtain ⟨capability, hcapability⟩ := Option.isSome_iff_exists.1 hadmitted
    obtain ⟨-, hgate, hcanary⟩ := keyValueStoreCapability_some settings hcapability
    obtain ⟨-, -, haccess, hversion⟩ := (canaryRun_iff settings).1 hcanary
    have hstarted : a.features.started = true := by
      simp only [Features.kvRuntime, Bool.and_eq_true] at hstore
      exact hstore.2
    obtain ⟨hkind, runId, run, hrunId, htext, hrun⟩ := held_start held hadmits hstarted hversion
      (show snapshot.payload = w.payload by rw [hsnapshot]; rfl)
    refine ⟨(run, capability), workerRunContext_ok.2
      ⟨hgate, ⟨hkind, haccess⟩, runId, hrunId, ?_, htext, hrun⟩⟩
    rw [hcomputed, granted_self, hstored, hstore, hcapability]
  · rintro ⟨run, capability⟩ h
    obtain ⟨-, -, runId, -, hgranted, -⟩ := workerRunContext_ok.1 h
    rw [hcomputed, granted_self] at hgranted
    exact hgranted

theorem dataset_agrees (held : Held w) (hadmits : Admits settings worker w.payload capabilities a)
    (hconfigured : canaryConfigured settings worker w.payload = true)
    (hsnapshot : snapshot = issuedSnapshot settings worker w.payload
      (some (activationOf settings policy a hbrowser))) :
    Agrees (datasetContext settings held.st worker held.lease snapshot) Prod.snd
      snapshot.datasetAppendCapability
      (datasetAppendCapability settings worker snapshot.payload
        (snapshot.activation.any (·.datasetWriteEnabled))
        (snapshot.activation.any (·.requestQueueDatasetEnabled)))
      a.features.dataset := by
  have hstored : snapshot.datasetAppendCapability = datasetAppendCapability settings worker w.payload
      a.features.dataset a.features.queueDataset := by
    rw [hsnapshot]
    rfl
  have hcomputed : datasetAppendCapability settings worker snapshot.payload
      (snapshot.activation.any (·.datasetWriteEnabled))
      (snapshot.activation.any (·.requestQueueDatasetEnabled)) = snapshot.datasetAppendCapability := by
    rw [hsnapshot]
    rfl
  refine ⟨hcomputed, ⟨?_, fun hdataset => ?_⟩, ?_⟩
  · rintro ⟨⟨run, capability⟩, h⟩
    obtain ⟨-, -, runId, -, -, hgranted, -⟩ := datasetContext_ok.1 h
    rw [hcomputed, granted_self, hstored] at hgranted
    exact (datasetAppendCapability_some settings hgranted).1
  · obtain ⟨capability, hcapability⟩ := Option.isSome_iff_exists.1
      (dataset_issued hadmits hconfigured hdataset)
    obtain ⟨-, hgate, hcanary⟩ := datasetAppendCapability_some settings hcapability
    obtain ⟨hwork, -, haccess, hversion⟩ := (canaryRun_iff settings).1 hcanary
    have hstarted : a.features.started = true := decide_eq_true (hadmits.workKind.trans hwork)
    obtain ⟨hkind, runId, run, hrunId, htext, hrun⟩ := held_start held hadmits hstarted hversion
      (show snapshot.payload = w.payload by rw [hsnapshot]; rfl)
    refine ⟨(run, capability), datasetContext_ok.2
      ⟨hgate, hkind, runId, hrunId, haccess, ?_, htext, hrun⟩⟩
    rw [hcomputed, granted_self, hstored, hdataset, hcapability]
  · rintro ⟨run, capability⟩ h
    obtain ⟨-, -, runId, -, -, hgranted, -⟩ := datasetContext_ok.1 h
    rw [hcomputed, granted_self] at hgranted
    exact hgranted

theorem refused_without_activation (held : Held w) (h : snapshot.activation = none) :
    (∀ capability, enabled settings worker held.lease snapshot ≠ .ok capability) ∧
    (∀ result, datasetContext settings held.st worker held.lease snapshot ≠ .ok result) ∧
    ∀ result, workerRunContext settings held.st worker held.lease snapshot ≠ .ok result := by
  refine ⟨fun capability hok => ?_, fun result hok => ?_, fun result hok => ?_⟩
  · obtain ⟨_, _, _, _, _, hgrants, -⟩ :=
      (requestQueueCapability_iff settings).1 (granted_eq (enabled_ok.1 hok).2)
    have henabled := hgrants.enabled
    simp [storedGrant, h] at henabled
  · obtain ⟨-, -, runId, -, -, hgranted, -⟩ := datasetContext_ok.1 hok
    have henabled := (datasetAppendCapability_some settings (granted_eq hgranted)).1
    simp [h] at henabled
  · obtain ⟨-, -, runId, -, hgranted, -⟩ := workerRunContext_ok.1 hok
    have henabled := (keyValueStoreCapability_some settings (granted_eq hgranted)).1
    simp [h] at henabled

end Checks

/-- The checks at the use of a lease agree with what was issued with it. -/
theorem capability_agreement {e : Encoding} (settings : Settings e) (worker : SandboxWorker)
    (w : Workload e) (held : Held w) (snapshot : Snapshot)
    (h : claimSnapshot settings worker w.payload = .ok snapshot) :
    (∀ activation, snapshot.activation = some activation →
      Agrees (enabled settings worker held.lease snapshot) id snapshot.requestQueueCapability
        (requestQueueCapability settings worker snapshot.payload (storedGrant settings snapshot))
        activation.requestQueueEnabled ∧
      Agrees (datasetContext settings held.st worker held.lease snapshot) Prod.snd
        snapshot.datasetAppendCapability
        (datasetAppendCapability settings worker snapshot.payload
          (snapshot.activation.any (·.datasetWriteEnabled))
          (snapshot.activation.any (·.requestQueueDatasetEnabled)))
        activation.datasetWriteEnabled ∧
      Agrees (workerRunContext settings held.st worker held.lease snapshot) Prod.snd
        snapshot.keyValueStoreCapability
        (keyValueStoreCapability settings worker snapshot.payload
          (snapshot.activation.any (·.keyValueStoreEnabled))
          (snapshot.activation.any (·.requestQueueKeyValueStoreEnabled)))
        activation.keyValueStoreEnabled) ∧
    (snapshot.activation = none →
      (∀ capability, enabled settings worker held.lease snapshot ≠ .ok capability) ∧
      (∀ result, datasetContext settings held.st worker held.lease snapshot ≠ .ok result) ∧
      ∀ result, workerRunContext settings held.st worker held.lease snapshot ≠ .ok result) := by
  refine ⟨fun activation hactivation => ?_, refused_without_activation held⟩
  simp only [claimSnapshot, bind_ok, pure_ok] at h
  obtain ⟨policy, -, hsnapshot⟩ := h
  have hmade : canaryActivation settings worker w.payload policy = some activation := by
    rw [← hactivation, ← hsnapshot]
    rfl
  obtain ⟨members, a, capabilities, -, hadmits, hconfigured, -, -, hbrowser, rfl⟩ :=
    canaryActivation_some settings hmade
  rw [hmade] at hsnapshot
  exact ⟨enabled_agrees held hadmits hconfigured hsnapshot.symm,
    dataset_agrees held hadmits hconfigured hsnapshot.symm,
    keyValueStore_agrees held hadmits hsnapshot.symm⟩

-- A small deployment, in which a digest only counts the values of a document, and identifiers are
-- written as strokes.
mutual

def values : Json → ℕ
  | .list items => valuesOfItems items + 1
  | .object members => valuesOfMembers members + 1
  | _ => 1

def valuesOfItems : List Json → ℕ
  | [] => 0
  | item :: items => values item + valuesOfItems items

def valuesOfMembers : Members → ℕ
  | [] => 0
  | (_, value) :: members => values value + valuesOfMembers members

end

def strokes (id : Uuid) : String := String.ofList ('|' :: List.replicate id '|')

def countStrokes (text : String) : Option Uuid :=
  match text.toList with
  | [] => none
  | c :: rest => if c = '|' then some rest.length else none

theorem getD_text (value : String) : (text? (.text value)).getD "" = value := rfl

def smallEncoding (codec : KeyValueProtocol.ValueCodec) : Encoding where
  toValueCodec := codec
  canonicalFingerprint := fun document => String.ofList (List.replicate (values document) '#')
  str := fun document => (text? document).getD ""
  intOf := int?
  uuidText := strokes
  parseUuid := countStrokes
  urlHostname := some
  foldHost := id
  asciiHostname := some
  navigationHostname := .ok
  normalizeHostname := some
  str_text := getD_text
  intOf_int := fun _ => rfl
  parse_uuidText := fun id => by
    simp only [countStrokes, strokes, String.toList_ofList, ↓reduceIte]
    exact congrArg some (List.length_replicate (n := id))
  uuidText_nonempty := fun id => by simp [strokes]
  normalize_stable := fun _ _ _ _ h => (Option.some.inj h).symm

def smallLimits : ResourceLimits := ⟨256, 500, 64, 256, 300, 120⟩

/-- The canary for the version 1, with its queues and its stores. -/
def smallSettings (codec : KeyValueProtocol.ValueCodec) : Settings (smallEncoding codec) where
  sandboxExecutionEnabled := true
  sandboxRequiredProfile := "rdc.sandbox/v1"
  sandboxMax := smallLimits
  sandboxMaxOutputBytes := 1048576
  sandboxActivationMode := .canary
  canaryAgentVersionId := strokes 1
  canaryWorkerName := "canary"
  canaryMax := smallLimits
  webEgressEnabled := true
  webEgressAllowedHosts := ["example.org"]
  webEgress := ⟨8, 1048576, 4194304, 3, 5, 15⟩
  browserEnabled := false
  browserLiveNavigationEnabled := false
  browser := ⟨1, 8, 15, 2097152, 2097152⟩
  datasetWritesEnabled := false
  keyValueStoreEnabled := true
  requestQueueEnabled := true
  requestQueueHttpEnabled := true
  requestQueueBrowserEnabled := false
  requestQueueDatasetEnabled := false
  requestQueueKeyValueStoreEnabled := true
  workerLeaseSeconds := 60
  canary_within := by simp [ResourceLimits.within, smallLimits]
  canary_mode := fun _ => ⟨rfl, by decide, rfl⟩
  hosts_folded := fun _ _ => rfl
  hosts_sorted := List.pairwise_singleton _ _
  webEgress_gate := fun _ => ⟨rfl, by decide⟩
  browser_gate := nofun
  navigation_gate := nofun
  dataset_gate := nofun
  keyValueStore_gate := fun _ => rfl
  requestQueue_gate := fun _ => rfl
  requestQueueHttp_gate := fun _ => ⟨rfl, rfl⟩
  requestQueueBrowser_gate := nofun
  requestQueueDataset_gate := nofun
  requestQueueKeyValueStore_gate := fun _ => ⟨rfl, rfl⟩

def smallCapabilities (network : String) (keyValueStore : Bool) : Json :=
  .object [("network", .text network), ("browser", .bool false), ("dataset", .bool false),
    ("keyValueStore", .bool keyValueStore), ("requestQueue", .bool true)]

def smallResources : Json :=
  .object [("memoryMb", .int 128), ("cpuUnits", .int 250), ("maxProcesses", .int 32),
    ("ephemeralDiskMb", .int 128), ("timeoutSeconds", .int 60)]

/-- A version whose runs read a queue, offline, and write to a store. -/
def smallVersion : Version :=
  ⟨1, [("capabilities", smallCapabilities "none" true), ("resources", smallResources),
    ("secrets", .list [])]⟩

def queueRequest : CreateRunRequest where
  input := []
  surface := .requestQueue 2
  egressPolicy := none
  runtime := ⟨none, none, none⟩
  policy_surface := nofun
  reserved := fun _ _ _ _ => rfl

def smallRows (e : Encoding) : ProjectRows e :=
  { buildReady := some true, activePolicy := fun _ => none, queueExists := fun _ => true }

def smallIntent (codec : KeyValueProtocol.ValueCodec) : Except Failure RunIntent :=
  createRun (smallSettings codec) (smallRows _) smallVersion queueRequest

def smallWorker : SandboxWorker where
  tokenDigest := "worker"
  capabilities := [.work .runStart, .kvAccess, .requestQueueAccess]
  maxConcurrency := 1
  status := .active
  lastSeenAt := none
  lastLostAt := none
  lastRecoveredAt := none
  expiresAt := none
  revokedAt := none
  name := "canary"
  sandboxExecutionEnabled := true
  sandboxAttestationDigest := some "attested"

/-- A codec that encodes nothing. -/
def silentCodec : KeyValueProtocol.ValueCodec where
  canonicalJsonBytes := fun _ => none
  sha256 := fun _ => ""
  parseJson := fun _ => none
  encodeUtf8 := fun _ => none
  decodeUtf8 := fun _ => none
  b64decode := fun _ => none
  b64encode := fun _ => ""
  parse_canonical := nofun
  decode_encode := KeyValueProtocol.undecoded
  digest_eq := nofun

theorem smallIntent_ok : (smallIntent silentCodec).isOk = true := by
  decide +kernel

def smallRun : CreatedRun (smallEncoding silentCodec) smallVersion where
  settings := smallSettings silentCodec
  rows := smallRows _
  request := queueRequest
  intent := okValue _ smallIntent_ok
  created := okValue_eq _ smallIntent_ok

def smallWorkload : Workload (smallEncoding silentCodec) :=
  .start smallVersion 3 smallRun (some (.object []))

def smallLease : ExecutionLease where
  workerId := 4
  organizationId := 5
  projectId := 6
  source := .runCommand 7
  sourceTopic := "rdc.run.requested.v1"
  target := .runStart 3
  leaseTokenDigest := "lease"
  status := .active
  attempt := 1
  claimedAt := 0
  expiresAt := 60000000
  deadlineAt := 60000000
  lastRenewedAt := none
  completedAt := none
  failureCode := none
  failureSummary := none

def smallRunRow : Run where
  organizationId := 5
  projectId := 6
  agentId := 8
  agentVersionId := 1
  buildId := 9
  status := .running
  inputReference := []
  startedAt := some 0
  finishedAt := none
  cancelRequestedAt := none
  cancelDeadlineAt := none
  failureCode := none
  failureSummary := none
  version := 2

def smallState : State where
  directory := ⟨.empty, ⟨[(4, smallWorker.toWorkerIdentity)], List.nodup_singleton _⟩, .empty, .empty,
    .empty, .empty, .empty, .empty⟩
  builds := .empty
  runs := ⟨[(3, smallRunRow)], List.nodup_singleton _⟩
  outbox := .empty
  leases := ⟨[(10, smallLease)], List.nodup_singleton _⟩
  grants := .empty
  artifacts := .empty
  idempotency := .empty

def smallHeld : Held smallWorkload where
  lease := smallLease
  st := smallState
  lease_target := rfl
  run_row := by
    intro runId h
    obtain rfl := Option.some.inj h
    exact ⟨smallRunRow, rfl, rfl, rfl, rfl⟩

theorem smallClaim_ok :
    (claimSnapshot (smallSettings silentCodec) smallWorker smallWorkload.payload).isOk = true := by
  decide +kernel

def smallSnapshot : Snapshot := okValue _ smallClaim_ok

/-- The queue and the store of a run that has both. -/
theorem small_capabilities :
    smallSnapshot.activation.any (·.requestQueueEnabled) = true ∧
    ∀ activation, smallSnapshot.activation = some activation →
      Agrees (enabled (smallSettings silentCodec) smallWorker smallLease smallSnapshot) id
        smallSnapshot.requestQueueCapability
        (requestQueueCapability (smallSettings silentCodec) smallWorker smallSnapshot.payload
          (storedGrant (smallSettings silentCodec) smallSnapshot))
        activation.requestQueueEnabled := by
  refine ⟨by decide +kernel, fun activation h => ?_⟩
  exact ((capability_agreement (smallSettings silentCodec) smallWorker smallWorkload smallHeld
    smallSnapshot (okValue_eq _ smallClaim_ok)).1 activation h).1

end RoozDataCloud.CapabilityAgreement
