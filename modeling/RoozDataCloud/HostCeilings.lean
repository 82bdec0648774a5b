import RoozDataCloud.HostNormalForms

set_option autoImplicit false

/-!
# The ceiling on hosts

The settings of the API and the worker's policy are made from one list of hosts, and
the policies of projects from names that the API and the worker normalise. The
settings refuse fewer suffixes than the worker, and the normalisers measure a name
before and after the codec.
-/
namespace RoozDataCloud.HostCeilings
open FallibleSteps WorkerEgress HostTexts HostNames HostNormalForms
open SandboxSettings (EgressLimits)
open EgressBindings (sortedSet)

section Settings
variable (web : WebLibrary)

/-- The loop of the settings validator over the hosts of the web egress. -/
def normalizedEgressHost (value : String) : Except String String := do
  let candidate := web.foldHost value
  require (candidate ≠ "" ∧ '*' ∉ candidate.toList)
    "Canary web-egress hosts must be exact hostnames."
  require (web.isIpAddress candidate = false) "Canary web-egress hosts cannot be IP literals."
  let normalized ← demand (web.encodeIdna candidate) "Canary web-egress host is not valid IDNA."
  require (normalized.length ≤ 253 ∧ 2 ≤ (labels normalized).length ∧
    endsWithAny normalized [".local"] = false ∧ ∀ label ∈ labels normalized, GoodLabel label)
    "Canary web-egress host is outside the safe hostname contract."
  pure normalized

def normalizedEgressHosts (hosts : List String) : Except String (List String) := do
  let normalized ← hosts.mapM (normalizedEgressHost web)
  require ((sortedSet normalized).length ≤ 32)
    "Canary web-egress allowlist cannot exceed 32 hosts."
  pure (sortedSet normalized)

end Settings

section Hosts
variable {lib : HostTextLibrary} {value host : String}

theorem normalizedEgressHost_ok : normalizedEgressHost lib.toWebLibrary value = .ok host ↔
    Navigable lib value host ∧ host.length ≤ 253 := by
  simp only [normalizedEgressHost, bind_ok, require_ok, demand_ok, pure_ok, exists_const]
  constructor
  · rintro ⟨⟨hblank, hexact⟩, haddress, host, hencoded, ⟨hlong, hcount, hdistant, hgood⟩, rfl⟩
    exact ⟨⟨⟨⟨hencoded, hgood⟩, hblank, hexact, haddress, hcount⟩, hdistant⟩, hlong⟩
  · rintro ⟨h, hlong⟩
    exact ⟨⟨h.blank, h.exactName⟩, h.address, host, h.encoded,
      ⟨hlong, h.count, h.distant, h.good⟩, rfl⟩

/-- The ASCII form of the name has a suffix for special use. -/
def SpecialUse (lib : HostTextLibrary) (value : String) : Prop :=
  ∃ form, lib.encodeIdna (lib.foldHost value) = some form ∧
    endsWithAny form forbiddenSuffixes = true

theorem worker_of_settings (h : normalizedEgressHost lib.toWebLibrary value = .ok host)
    (hspecial : ¬ SpecialUse lib value) :
    WorkerEgress.normalizeHostname lib.toWebLibrary value = .ok host := by
  obtain ⟨hnavigable, hlong⟩ := normalizedEgressHost_ok.1 h
  refine workerHostname_ok.2 ⟨⟨hnavigable.toExact, ?_, ?_⟩, hlong⟩
  · rintro rfl
    exact absurd hnavigable.count (by decide)
  · rw [← Bool.not_eq_true]
    exact fun hsuffix => hspecial ⟨host, hnavigable.encoded, hsuffix⟩

theorem ordinary_of_worker (h : WorkerEgress.normalizeHostname lib.toWebLibrary value = .ok host) :
    ¬ SpecialUse lib value := by
  rintro ⟨form, hform, hsuffix⟩
  obtain ⟨haccepted, -⟩ := workerHostname_ok.1 h
  obtain rfl := Option.some.inj (haccepted.encoded.symm.trans hform)
  rw [haccepted.ordinary.2] at hsuffix
  cases hsuffix

theorem worker_keeps (h : WorkerEgress.normalizeHostname lib.toWebLibrary value = .ok host)
    (haddress : ¬ SpellsAddress lib value) :
    WorkerEgress.normalizeHostname lib.toWebLibrary host = .ok host := by
  obtain ⟨haccepted, hlong⟩ := workerHostname_ok.1 h
  exact workerHostname_ok.2 ⟨haccepted.again haddress, hlong⟩

theorem spells_of_kept {again : String} (h : normalizedEgressHost lib.toWebLibrary value = .ok host)
    (hkept : WorkerEgress.normalizeHostname lib.toWebLibrary host = .ok again) :
    ¬ SpellsAddress lib value := by
  obtain ⟨hnavigable, -⟩ := normalizedEgressHost_ok.1 h
  have haddress := (workerHostname_ok.1 hkept).1.address
  rw [hnavigable.unfoldable] at haddress
  exact hnavigable.toFormed.spells haddress

end Hosts

section Lists
variable {lib : HostTextLibrary} {hosts normal : List String} {limits : EgressLimits}

theorem mapM_transfer {ι α ε ε' : Type} {f : ι → Except ε α} {g : ι → Except ε' α} {items : List ι}
    {results : List α} (hfg : ∀ i ∈ items, ∀ a, f i = .ok a → g i = .ok a)
    (h : items.mapM f = .ok results) : items.mapM g = .ok results := by
  have hall := mapM_forall₂.1 h
  clear h
  refine mapM_forall₂.2 ?_
  induction hall with
  | nil => exact .nil
  | cons hfirst _ ih =>
    obtain ⟨hg, hrest⟩ := List.forall_mem_cons.1 hfg
    exact .cons (hg _ hfirst) (ih hrest)

theorem sortedSet_sorted {items : List String} (h : items.Pairwise (· < ·)) :
    sortedSet items = items := by
  have hnodup : items.Nodup := h.imp (fun hlt => ne_of_lt hlt)
  rw [sortedSet, hnodup.dedup]
  exact List.Pairwise.insertionSort_eq (h.imp (fun hlt => le_of_lt hlt))

def methods : List String := ["GET", "HEAD"]

theorem methods_kept (lib : HostTextLibrary) :
    sortedSet (methods.map (fun method => lib.upper (lib.strip method))) = methods := by
  have hkept : methods.map (fun method => lib.upper (lib.strip method)) = methods :=
    (List.map_congr_left lib.method_kept).trans (List.map_id _)
  rw [hkept]
  decide +kernel

/-- `EgressPolicy.create` makes the policy of these hosts. -/
def Creates (lib : HostTextLibrary) (limits : EgressLimits) (hosts normal : List String) : Prop :=
  ∃ policy, EgressPolicy.create lib.toWebLibrary hosts methods limits = .ok policy ∧
    policy.allowedHosts = normal

theorem creates_iff (hlimits : SafeLimits limits) : Creates lib limits hosts normal ↔
    ∃ names, hosts.mapM (WorkerEgress.normalizeHostname lib.toWebLibrary) = .ok names ∧
      normal = sortedSet names ∧ normal ≠ [] ∧ normal.length ≤ 32 := by
  constructor
  · rintro ⟨policy, hpolicy, rfl⟩
    obtain ⟨⟨names, hnames, hsorted⟩, -, ⟨hsome, hcount⟩, -⟩ :=
      checkedFields_ok (create_ok.1 hpolicy).1
    exact ⟨names, hnames, hsorted, hsome, hcount⟩
  · rintro ⟨names, hnames, rfl, hsome, hcount⟩
    have hfields : checkedFields lib.toWebLibrary hosts methods limits =
        .ok (sortedSet names, methods) := by
      simp only [checkedFields, bind_ok, require_ok, pure_ok, exists_const, methods_kept]
      exact ⟨names, hnames, hsome, hcount, by decide, (), checkLimits_ok.2 hlimits, rfl⟩
    cases hcreate : EgressPolicy.create lib.toWebLibrary hosts methods limits with
    | error raised =>
      unfold EgressPolicy.create at hcreate
      split at hcreate
      next herror =>
        rw [hfields] at herror
        cases herror
      next => cases hcreate
    | ok policy =>
      refine ⟨policy, hcreate, ?_⟩
      have hsame := (create_ok.1 hcreate).1.symm.trans hfields
      exact congrArg Prod.fst (Except.ok.inj hsame)

theorem settings_ok : normalizedEgressHosts lib.toWebLibrary hosts = .ok normal ↔
    ∃ names, hosts.mapM (normalizedEgressHost lib.toWebLibrary) = .ok names ∧
      normal = sortedSet names ∧ normal.length ≤ 32 := by
  simp only [normalizedEgressHosts, bind_ok, require_ok, pure_ok, exists_const]
  constructor
  · rintro ⟨names, hnames, hcount, rfl⟩
    exact ⟨names, hnames, rfl, hcount⟩
  · rintro ⟨names, hnames, rfl, hcount⟩
    exact ⟨names, hnames, hcount, rfl⟩

theorem creates_self (hlimits : SafeLimits limits) (hsorted : normal.Pairwise (· < ·))
    (hsome : normal ≠ []) (hcount : normal.length ≤ 32)
    (hkept : ∀ host ∈ normal, WorkerEgress.normalizeHostname lib.toWebLibrary host = .ok host) :
    Creates lib limits normal normal := by
  refine (creates_iff hlimits).2 ⟨normal, ?_, (sortedSet_sorted hsorted).symm, hsome, hcount⟩
  exact mapM_forall₂.2 (List.forall₂_same.2 hkept)

end Lists

/-- The worker makes of the hosts and of their normal forms the policy of the settings exactly when
there are hosts, none for special use and none read as an address. A project's host gets one name
from the API and the worker exactly when its length does not tell them apart. -/
theorem ceiling_agrees_iff (lib : HostTextLibrary) (limits : EgressLimits)
    (hlimits : SafeLimits limits) :
    (∀ hosts normal, normalizedEgressHosts lib.toWebLibrary hosts = .ok normal →
      (Creates lib limits hosts normal ∧ Creates lib limits normal normal ↔
        hosts ≠ [] ∧ ∀ host ∈ hosts, ¬ SpecialUse lib host ∧ ¬ SpellsAddress lib host)) ∧
    ∀ value, (HostNames.normalizeHostname lib.toWebLibrary value).toOption =
        (WorkerEgress.normalizeHostname lib.toWebLibrary value).toOption ↔
      ∀ form, Acceptable lib value form →
        ((lib.foldHost value).length ≤ 253 ↔ form.length ≤ 253) := by
  constructor
  · intro hosts normal hsettings
    obtain ⟨names, hnames, rfl, hcount⟩ := settings_ok.1 hsettings
    constructor
    · rintro ⟨hhosts, hnormal⟩
      obtain ⟨workerNames, hworker, -, hsome, -⟩ := (creates_iff hlimits).1 hhosts
      obtain ⟨again, hagain, -⟩ := (creates_iff hlimits).1 hnormal
      refine ⟨?_, fun host hhost => ⟨?_, ?_⟩⟩
      · rintro rfl
        obtain rfl : [] = names := pure_ok.1 hnames
        exact hsome (by decide)
      · obtain ⟨name, -, hname⟩ := mapM_each hworker hhost
        exact ordinary_of_worker hname
      · obtain ⟨name, hmem, hname⟩ := mapM_each hnames hhost
        obtain ⟨kept, -, hkept⟩ := mapM_each hagain (mem_sortedSet.2 hmem)
        exact spells_of_kept hname hkept
    · rintro ⟨hhosts, hgood⟩
      have hworker : ∀ host ∈ hosts, ∀ name,
          normalizedEgressHost lib.toWebLibrary host = .ok name →
          WorkerEgress.normalizeHostname lib.toWebLibrary host = .ok name :=
        fun host hhost name hname => worker_of_settings hname (hgood host hhost).1
      have hsome : sortedSet names ≠ [] := by
        obtain ⟨host, hhost⟩ := List.exists_mem_of_ne_nil hosts hhosts
        obtain ⟨name, hmem, -⟩ := mapM_each hnames hhost
        exact List.ne_nil_of_mem (mem_sortedSet.2 hmem)
      refine ⟨(creates_iff hlimits).2 ⟨names, ?_, rfl, hsome, hcount⟩,
        creates_self hlimits (sortedSet_strict names) hsome hcount fun name hname => ?_⟩
      · exact mapM_transfer hworker hnames
      · obtain ⟨host, hhost, hresult⟩ := mapM_ok hnames (mem_sortedSet.1 hname)
        exact worker_keeps (hworker host hhost name hresult) (hgood host hhost).2
  · intro value
    constructor
    · intro hsame form hform
      constructor
      · intro hlong
        have hapi := toOption_some.2 (apiHostname_ok.2 ⟨hform, hlong⟩)
        rw [hsame] at hapi
        exact (workerHostname_ok.1 (toOption_some.1 hapi)).2
      · intro hlong
        have hworker := toOption_some.2 (workerHostname_ok.2 ⟨hform, hlong⟩)
        rw [← hsame] at hworker
        exact (apiHostname_ok.1 (toOption_some.1 hworker)).2
    · intro hlengths
      refine Option.ext fun form => ?_
      simp only [toOption_some, apiHostname_ok, workerHostname_ok]
      exact and_congr_right fun hform => hlengths form hform

section Instance

def defaultLimits : EgressLimits := ⟨8, 1048576, 4194304, 3, 5, 15⟩

theorem defaultLimits_safe : SafeLimits defaultLimits := by
  constructor <;> decide

/-- The API and the worker agree on a list with one public host. -/
theorem public_host_agrees :
    Creates digitLibrary defaultLimits ["api.rooz.org"] ["api.rooz.org"] := by
  have hsettings : normalizedEgressHosts digitLibrary.toWebLibrary ["api.rooz.org"] =
      .ok ["api.rooz.org"] := by decide +kernel
  refine (((ceiling_agrees_iff digitLibrary defaultLimits defaultLimits_safe).1
    ["api.rooz.org"] ["api.rooz.org"] hsettings).2 ⟨by decide, ?_⟩).1
  intro host hhost
  obtain rfl := List.mem_singleton.1 hhost
  constructor
  · rintro ⟨form, hform, hsuffix⟩
    have hidna : digitLibrary.encodeIdna (digitLibrary.foldHost "api.rooz.org") =
        some "api.rooz.org" := by decide +kernel
    obtain rfl := Option.some.inj (hidna.symm.trans hform)
    revert hsuffix
    decide +kernel
  · unfold SpellsAddress
    decide +kernel

/-- The settings take a host for internal use, and the worker makes no policy of it. -/
theorem internal_host_refused :
    normalizedEgressHosts digitLibrary.toWebLibrary ["api.internal"] = .ok ["api.internal"] ∧
      ¬ Creates digitLibrary defaultLimits ["api.internal"] ["api.internal"] := by
  refine ⟨by decide +kernel, fun hcreates => ?_⟩
  obtain ⟨names, hnames, -⟩ := (creates_iff defaultLimits_safe).1 hcreates
  have hrefused : (["api.internal"].mapM
      (WorkerEgress.normalizeHostname digitLibrary.toWebLibrary)).toOption = none := by
    decide +kernel
  rw [hnames] at hrefused
  cases hrefused

end Instance
end RoozDataCloud.HostCeilings
