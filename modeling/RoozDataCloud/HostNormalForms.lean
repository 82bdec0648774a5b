import RoozDataCloud.HostNames
import RoozDataCloud.CapabilityAgreement

set_option autoImplicit false

/-!
# Normal forms of host names

Four functions normalise the names of hosts. Each looks for an IP literal before the
IDNA codec has read the name, so a name that the codec reads as an address comes out
as one. Otherwise what comes out is kept by the same function, and the functions
differ in the names that are too long and in the suffixes that they refuse.
-/
namespace RoozDataCloud.HostNormalForms
open FallibleSteps WorkerEgress HostTexts HostNames ExecutionModels
open SandboxSettings (EgressLimits)
open EgressBindings (sortedSet)

/-- A library whose codec is the one of the standard library. `foldHost` strips, cuts final dots
and folds case; `ipaddress` takes a colon for IPv6 only. -/
structure HostTextLibrary extends WebLibrary where
  prep : Stringprep
  fold_lowered : ∀ value, ∀ c ∈ (foldHost value).toList, c.isUpper = false
  fold_kept : ∀ host : String, (∀ c ∈ host.toList, c = '.' ∨ labelCharacter c = true) →
    (∀ c ∈ host.toList, c.isUpper = false) → host.toList.getLast? ≠ some '.' → foldHost host = host
  idna_eq : ∀ text, encodeIdna text = (encode prep text.toList).map String.ofList
  method_kept : ∀ method ∈ ["GET", "HEAD"], upper (strip method) = method
  ip_eq : ∀ text : String, ':' ∉ text.toList → isIpAddress text = dottedQuad text.toList

/-- `_normalize_browser_navigation_hostname` -/
def normalizeBrowserNavigationHostname (web : WebLibrary) (value : String) :
    Except Failure String := do
  let rejected := apiError 422 "BROWSER_NAVIGATION_HOST_REJECTED"
  let candidate := web.foldHost value
  require (candidate ≠ "" ∧ '*' ∉ candidate.toList)
    (rejected "Browser navigation requires an exact hostname.")
  require (web.isIpAddress candidate = false)
    (rejected "Browser navigation cannot target an IP literal.")
  let normalized ← demand (web.encodeIdna candidate)
    (rejected "Browser navigation hostname is invalid.")
  require (2 ≤ (labels normalized).length ∧ endsWithAny normalized [".local"] = false ∧
    ∀ label ∈ labels normalized, GoodLabel label) (rejected "Browser navigation hostname is unsafe.")
  pure normalized

section Forms
variable {lib : HostTextLibrary} {value host : String}

/-- The name is read as the text of an IPv4 address. -/
def SpellsAddress (lib : HostTextLibrary) (value : String) : Prop :=
  dottedQuad (spelled lib.prep (lib.foldHost value).toList) = true

/-- What the normalisers have in common: the ASCII form has good labels. -/
structure Formed (lib : HostTextLibrary) (value host : String) : Prop where
  encoded : lib.encodeIdna (lib.foldHost value) = some host
  good : ∀ label ∈ labels host, GoodLabel label

theorem Formed.encode (h : Formed lib value host) :
    HostTexts.encode lib.prep (lib.foldHost value).toList = some host.toList := by
  have hencoded := h.encoded
  rw [lib.idna_eq] at hencoded
  obtain ⟨out, hout, rfl⟩ := Option.map_eq_some_iff.1 hencoded
  rw [hout, String.toList_ofList]

theorem Formed.nonempty (h : Formed lib value host) :
    ∀ label ∈ host.toList.splitOn '.', label ≠ [] := fun label hlabel => (h.good label hlabel).sized.1

theorem Formed.unfoldable (h : Formed lib value host) : lib.foldHost host = host := by
  have hlowered := encode_lowered h.encode h.nonempty (lib.fold_lowered value)
  refine lib.fold_kept host (fun c hc => host_character h.good hc) hlowered (fun hlast => ?_)
  -- a dot at the end leaves an empty label
  obtain ⟨start, hstart⟩ := List.getLast?_eq_some_iff.1 hlast
  refine absurd rfl (h.nonempty [] ?_)
  rw [hstart, List.splitOn_append_cons_self]
  exact List.mem_append_right _ List.mem_cons_self

theorem Formed.again (h : Formed lib value host) : Formed lib host host := by
  refine ⟨?_, h.good⟩
  have hkept : HostTexts.encode lib.prep host.toList = some host.toList :=
    encode_kept (encode_ascii h.encode h.nonempty) fun label hlabel =>
      ⟨(h.good label hlabel).sized.1, Nat.lt_succ_of_le (h.good label hlabel).sized.2⟩
  rw [h.unfoldable, lib.idna_eq, hkept, Option.map_some, String.ofList_toList]

theorem Formed.address (h : Formed lib value host) :
    lib.isIpAddress host = true ↔ SpellsAddress lib value := by
  have hcolon : ':' ∉ host.toList := by
    intro hc
    rcases host_character h.good hc with heq | hlabel
    · exact absurd heq (by decide)
    · exact absurd hlabel (by decide)
  rw [lib.ip_eq host hcolon, encode_address h.encode h.nonempty, SpellsAddress]

theorem Formed.unsigned (h : Formed lib value host) {c : Char} (hc : c ∈ ['/', '@', '*', '[', ']']) :
    c ∉ host.toList := by
  intro hmem
  simp only [List.mem_cons, List.not_mem_nil, or_false] at hc
  rcases host_character h.good hmem with rfl | hlabel
  · revert hc
    decide
  · rcases hc with rfl | rfl | rfl | rfl | rfl <;> exact absurd hlabel (by decide)

theorem Formed.notBlank (h : Formed lib value host) : host ≠ "" := by
  rintro rfl
  exact h.nonempty [] (by simp) rfl

end Forms

section Normalisers
variable {lib : HostTextLibrary} {value host : String}

/-- What every normaliser asks of a name. -/
structure Exact (lib : HostTextLibrary) (value host : String) : Prop extends
    Formed lib value host where
  blank : lib.foldHost value ≠ ""
  exactName : '*' ∉ (lib.foldHost value).toList
  address : lib.isIpAddress (lib.foldHost value) = false
  count : 2 ≤ (labels host).length

/-- What the policies of the API and of the worker ask of a name besides its length. -/
structure Acceptable (lib : HostTextLibrary) (value host : String) : Prop extends
    Exact lib value host where
  ordinary : host ≠ "localhost" ∧ endsWithAny host forbiddenSuffixes = false

/-- What the navigation of a browser asks of a name. -/
structure Navigable (lib : HostTextLibrary) (value host : String) : Prop extends
    Exact lib value host where
  distant : endsWithAny host [".local"] = false

theorem Exact.again (h : Exact lib value host) (haddress : ¬ SpellsAddress lib value) :
    Exact lib host host where
  toFormed := h.toFormed.again
  blank := by
    rw [h.unfoldable]
    exact h.notBlank
  exactName := by
    rw [h.unfoldable]
    exact h.unsigned (by decide)
  address := by
    rw [h.unfoldable, ← Bool.not_eq_true, h.toFormed.address]
    exact haddress
  count := h.count

theorem Acceptable.again (h : Acceptable lib value host) (haddress : ¬ SpellsAddress lib value) :
    Acceptable lib host host :=
  ⟨h.toExact.again haddress, h.ordinary⟩

theorem Navigable.again (h : Navigable lib value host) (haddress : ¬ SpellsAddress lib value) :
    Navigable lib host host :=
  ⟨h.toExact.again haddress, h.distant⟩

theorem workerHostname_ok : WorkerEgress.normalizeHostname lib.toWebLibrary value = .ok host ↔
    Acceptable lib value host ∧ host.length ≤ 253 := by
  simp only [WorkerEgress.normalizeHostname, bind_ok, require_ok, demand_ok, pure_ok, exists_const]
  constructor
  · rintro ⟨hblank, hexact, haddress, host, hencoded, hlong, hcount, hordinary, _, hgood, rfl⟩
    have hlabels : ∀ label ∈ labels host, GoodLabel label :=
      fun label hlabel => checkLabel_ok.1 (forM_ok.1 hgood label hlabel)
    exact ⟨⟨⟨⟨hencoded, hlabels⟩, hblank, hexact, haddress, hcount⟩, hordinary⟩, hlong⟩
  · rintro ⟨h, hlong⟩
    exact ⟨h.blank, h.exactName, h.address, host, h.encoded, hlong, h.count, h.ordinary, (),
      forM_ok.2 fun label hlabel => checkLabel_ok.2 (h.good label hlabel), rfl⟩

/-- The signs that only the API looks for are no signs of a good label. -/
theorem apiHostname_ok : HostNames.normalizeHostname lib.toWebLibrary value = .ok host ↔
    Acceptable lib value host ∧ (lib.foldHost value).length ≤ 253 := by
  simp only [HostNames.normalizeHostname, bind_ok, require_ok, demand_ok, pure_ok, exists_const]
  have hbrackets : Formed lib value host → stripBrackets (lib.foldHost value) = lib.foldHost value := by
    intro h
    apply stripBrackets_none
    intro c hc
    rw [decide_eq_false_iff_not]
    intro hbracket
    refine h.unsigned ?_ (encode_signs h.encode h.nonempty ?_ hc)
    all_goals
      simp only [List.mem_cons, List.not_mem_nil, or_false] at hbracket
      rcases hbracket with rfl | rfl <;> decide
  constructor
  · rintro ⟨⟨hblank, hlong, hsigns⟩, haddress, host, hencoded, ⟨hcount, hgood⟩, hordinary, rfl⟩
    have hformed : Formed lib value host := ⟨hencoded, hgood⟩
    rw [hbrackets hformed] at haddress
    exact ⟨⟨⟨hformed, hblank, hsigns '*' (by decide), haddress, hcount⟩, hordinary⟩, hlong⟩
  · rintro ⟨h, hlong⟩
    refine ⟨⟨h.blank, hlong, fun c hc hmem => ?_⟩, ?_, host, h.encoded, ⟨h.count, h.good⟩,
      h.ordinary, rfl⟩
    · simp only [List.mem_cons, List.not_mem_nil, or_false] at hc
      rcases hc with rfl | rfl | rfl
      · exact h.unsigned (by decide) (encode_signs h.encode h.nonempty (by decide) hmem)
      · exact h.unsigned (by decide) (encode_signs h.encode h.nonempty (by decide) hmem)
      · exact h.exactName hmem
    · rw [hbrackets h.toFormed]
      exact h.address

theorem browserHostname_ok : normalizeBrowserNavigationHostname lib.toWebLibrary value = .ok host ↔
    Navigable lib value host := by
  simp only [normalizeBrowserNavigationHostname, bind_ok, require_ok, demand_ok, pure_ok,
    exists_const]
  constructor
  · rintro ⟨⟨hblank, hexact⟩, haddress, host, hencoded, ⟨hcount, hdistant, hgood⟩, rfl⟩
    exact ⟨⟨⟨hencoded, hgood⟩, hblank, hexact, haddress, hcount⟩, hdistant⟩
  · intro h
    exact ⟨⟨h.blank, h.exactName⟩, h.address, host, h.encoded, ⟨h.count, h.distant, h.good⟩, rfl⟩

/-- A result is in normal form if the function keeps it and it is no IP literal. -/
def NormalForm {ε : Type} (lib : HostTextLibrary) (normalize : String → Except ε String)
    (host : String) : Prop :=
  normalize host = .ok host ∧ lib.isIpAddress host = false

theorem Formed.spells (h : Formed lib value host) (hform : lib.isIpAddress host = false) :
    ¬ SpellsAddress lib value := by
  rw [← h.address, hform]
  exact Bool.false_ne_true

theorem Formed.notAddress (h : Formed lib value host) (haddress : ¬ SpellsAddress lib value) :
    lib.isIpAddress host = false := by
  rw [← Bool.not_eq_true, h.address]
  exact haddress

end Normalisers

/-- The result for a name is in normal form exactly when the name is not read as an address and,
for the policies of the API, its ASCII form is not too long. -/
theorem normal_form_iff (lib : HostTextLibrary) (value host : String) :
    (HostNames.normalizeHostname lib.toWebLibrary value = .ok host →
      (NormalForm lib (HostNames.normalizeHostname lib.toWebLibrary) host ↔
        ¬ SpellsAddress lib value ∧
          ∀ form, lib.encodeIdna (lib.foldHost value) = some form → form.length ≤ 253)) ∧
    (WorkerEgress.normalizeHostname lib.toWebLibrary value = .ok host →
      (NormalForm lib (WorkerEgress.normalizeHostname lib.toWebLibrary) host ↔
        ¬ SpellsAddress lib value)) ∧
    (normalizeBrowserNavigationHostname lib.toWebLibrary value = .ok host →
      (NormalForm lib (normalizeBrowserNavigationHostname lib.toWebLibrary) host ↔
        ¬ SpellsAddress lib value)) := by
  refine ⟨fun hok => ?_, fun hok => ?_, fun hok => ?_⟩
  · obtain ⟨h, -⟩ := apiHostname_ok.1 hok
    constructor
    · rintro ⟨hkept, haddress⟩
      refine ⟨h.toFormed.spells haddress, fun form hform => ?_⟩
      obtain ⟨-, hlong⟩ := apiHostname_ok.1 hkept
      rw [h.unfoldable] at hlong
      rwa [← Option.some.inj (h.encoded.symm.trans hform)]
    · rintro ⟨haddress, hlong⟩
      refine ⟨apiHostname_ok.2 ⟨h.again haddress, ?_⟩, h.toFormed.notAddress haddress⟩
      rw [h.unfoldable]
      exact hlong host h.encoded
  · obtain ⟨h, hlong⟩ := workerHostname_ok.1 hok
    constructor
    · exact fun hform => h.toFormed.spells hform.2
    · intro haddress
      exact ⟨workerHostname_ok.2 ⟨h.again haddress, hlong⟩, h.toFormed.notAddress haddress⟩
  · have h := browserHostname_ok.1 hok
    constructor
    · exact fun hform => h.toFormed.spells hform.2
    · intro haddress
      exact ⟨browserHostname_ok.2 (h.again haddress), h.toFormed.notAddress haddress⟩

section Instance
open CapabilityAgreement (smallEncoding silentCodec)

/-- A fullwidth digit, U+FF10 to U+FF19, stands for the digit. -/
def narrow (c : Char) : Char :=
  if 65296 ≤ c.toNat ∧ c.toNat ≤ 65305 then Char.ofNat (48 + (c.toNat - 65296)) else c.toLower

theorem narrow_lowered (c : Char) : (narrow c).isUpper = false := by
  have hdigits : ∀ k < 10, (Char.ofNat (48 + k)).isUpper = false := by decide +kernel
  unfold narrow
  split
  next hrange => exact hdigits _ (by omega)
  next => exact c.isUpper_toLower_eq_false

/-- Tables with the fullwidth digits only. -/
def digitTables : Stringprep where
  nameprep label := some (label.map narrow)
  punycode label := label.filter ascii
  nameprep_lowered label prepared h c hc := by
    obtain rfl := Option.some.inj h
    obtain ⟨d, -, rfl⟩ := List.mem_map.1 hc
    exact narrow_lowered d
  nameprep_signs label prepared h c hsign hc := by
    obtain rfl := Option.some.inj h
    refine List.mem_map.2 ⟨c, hc, ?_⟩
    simp only [List.mem_cons, List.not_mem_nil, or_false] at hsign
    rcases hsign with rfl | rfl | rfl | rfl <;> decide
  punycode_ascii label c hc := (List.mem_filter.1 hc).2
  punycode_lowered label h c hc := h c (List.mem_filter.1 hc).1
  punycode_basic label c hc hascii := List.mem_filter.2 ⟨hc, hascii⟩

/-- Blanks and final dots are cut, and case is folded. -/
def asciiFold (value : String) : String :=
  String.ofList ((((value.toList.dropWhile Char.isWhitespace).rdropWhile
    Char.isWhitespace).rdropWhile (· == '.')).map Char.toLower)

theorem asciiFold_kept {host : String} (hplain : ∀ c ∈ host.toList, c = '.' ∨ labelCharacter c = true)
    (hlower : ∀ c ∈ host.toList, c.isUpper = false) (hlast : host.toList.getLast? ≠ some '.') :
    asciiFold host = host := by
  have hspace : ∀ c ∈ host.toList, c.isWhitespace = false := by
    intro c hc
    rw [← Bool.not_eq_true]
    intro hwhite
    simp only [Char.isWhitespace, Bool.or_eq_true, decide_eq_true_eq, or_assoc] at hwhite
    have hlabel := hplain c hc
    rcases hwhite with rfl | rfl | rfl | rfl <;> revert hlabel <;> decide
  have hstrip : host.toList.rdropWhile Char.isWhitespace = host.toList := by
    rw [List.rdropWhile_eq_self_iff]
    intro hne
    rw [hspace _ (List.getLast_mem hne)]
    exact Bool.false_ne_true
  have hdots : host.toList.rdropWhile (· == '.') = host.toList := by
    rw [List.rdropWhile_eq_self_iff]
    intro hne hdot
    exact hlast (by rw [List.getLast?_eq_some_getLast hne, beq_iff_eq.1 hdot])
  have hfold : host.toList.map Char.toLower = host.toList :=
    (List.map_congr_left fun c hc => Char.toLower_eq_of_not_isUpper (by simp [hlower c hc])).trans
      (List.map_id _)
  rw [asciiFold, dropWhile_none hspace, hstrip, hdots, hfold, String.ofList_toList]

/-- A library for names with fullwidth digits. -/
def digitLibrary : HostTextLibrary where
  toEncoding := { smallEncoding silentCodec with foldHost := asciiFold }
  strip := id
  upper := id
  lower := id
  casefold := id
  isIpAddress := fun text => dottedQuad text.toList
  isGlobal := fun _ => true
  encodeIdna := fun text => (encode digitTables text.toList).map String.ofList
  urlsplit := fun _ => none
  urlunsplit := fun _ _ path _ => path
  urljoin := fun _ url => some url
  decodeText := fun _ _ => .ok ""
  prep := digitTables
  fold_lowered value c hc := by
    have hfold : c ∈ (asciiFold value).toList := hc
    rw [asciiFold, String.toList_ofList] at hfold
    obtain ⟨d, -, rfl⟩ := List.mem_map.1 hfold
    exact d.isUpper_toLower_eq_false
  fold_kept _ := asciiFold_kept
  idna_eq _ := rfl
  method_kept _ _ := rfl
  ip_eq _ _ := rfl

/-- A public name is its own normal form. -/
theorem public_name_normal :
    NormalForm digitLibrary (WorkerEgress.normalizeHostname digitLibrary.toWebLibrary)
      "api.rooz.org" := by
  have hok : WorkerEgress.normalizeHostname digitLibrary.toWebLibrary "API.rooz.org." =
      .ok "api.rooz.org" := by decide +kernel
  have hspelled : ¬ SpellsAddress digitLibrary "API.rooz.org." := by
    unfold SpellsAddress
    decide +kernel
  exact ((normal_form_iff digitLibrary "API.rooz.org." "api.rooz.org").2.1 hok).2 hspelled

/-- Fullwidth digits come out as the address of the host itself. -/
theorem fullwidth_address_accepted :
    HostNames.normalizeHostname digitLibrary.toWebLibrary "１２７.0.0.1" = .ok "127.0.0.1" ∧
      WorkerEgress.normalizeHostname digitLibrary.toWebLibrary "１２７.0.0.1" = .ok "127.0.0.1" ∧
      normalizeBrowserNavigationHostname digitLibrary.toWebLibrary "１２７.0.0.1" =
        .ok "127.0.0.1" ∧
      digitLibrary.isIpAddress "127.0.0.1" = true ∧
      HostNames.normalizeHostname digitLibrary.toWebLibrary "127.0.0.1" ≠ .ok "127.0.0.1" ∧
      WorkerEgress.normalizeHostname digitLibrary.toWebLibrary "127.0.0.1" ≠ .ok "127.0.0.1" ∧
      normalizeBrowserNavigationHostname digitLibrary.toWebLibrary "127.0.0.1" ≠
        .ok "127.0.0.1" := by
  have hworker : WorkerEgress.normalizeHostname digitLibrary.toWebLibrary "１２７.0.0.1" =
      .ok "127.0.0.1" := by decide +kernel
  have haccepted := (workerHostname_ok.1 hworker).1
  have hdistant : endsWithAny "127.0.0.1" [".local"] = false := by decide +kernel
  have haddress : ¬ Exact digitLibrary "127.0.0.1" "127.0.0.1" := fun h =>
    absurd h.address (by decide +kernel)
  exact ⟨apiHostname_ok.2 ⟨haccepted, by decide +kernel⟩, hworker,
    browserHostname_ok.2 ⟨haccepted.toExact, hdistant⟩, by decide +kernel,
    fun hkept => haddress (apiHostname_ok.1 hkept).1.toExact,
    fun hkept => haddress (workerHostname_ok.1 hkept).1.toExact,
    fun hkept => haddress (browserHostname_ok.1 hkept).toExact⟩

end Instance
end RoozDataCloud.HostNormalForms
