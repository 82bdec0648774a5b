import RoozDataCloud.DocumentMembers

set_option autoImplicit false

/-!
# Canonical JSON

The bytes that requests are compared by. A document has the bytes of another one exactly
when the two differ in the order of members only.
-/
namespace RoozDataCloud.CanonicalJson
open JsonDocuments JsonTexts DocumentMembers
open Datasets (Json)
open KeyValueProtocol (sorted sortedItems sortedMembers)

section Encoding

/-- `text.encode()` of a text of scalar values. -/
def utf8 (text : List Char) : List UInt8 := text.flatMap String.utf8EncodeChar

theorem utf8_injective {text text' : List Char} (h : utf8 text = utf8 text') : text = text' := by
  have hbytes : text.utf8Encode = text'.utf8Encode := congrArg List.toByteArray h
  have htexts : String.ofList text = String.ofList text' := String.toByteArray_inj.1 (by simpa using hbytes)
  exact String.ofList_injective htexts

mutual

/-- No integer has more digits than `repr` writes, and no float is refused. -/
def writable (allowNan : Bool) : Json → Bool
  | .int n => decide (n.natAbs < 10 ^ 4300)
  | .float finite _ => allowNan || finite
  | .list items => writableItems allowNan items
  | .object members => writableMembers allowNan members
  | _ => true

def writableItems (allowNan : Bool) : List Json → Bool
  | [] => true
  | item :: items => writable allowNan item && writableItems allowNan items

def writableMembers (allowNan : Bool) : Members → Bool
  | [] => true
  | (_, value) :: members => writable allowNan value && writableMembers allowNan members

end

/-- The bytes of `json.dumps` with `sort_keys`, without blanks and without `ensure_ascii`. -/
def encoded (allowNan : Bool) (value : Json) : Option (List UInt8) :=
  if writable allowNan (sorted value) then some (utf8 (dumps false value)) else none

/-- What `canonical_fingerprint` takes the digest of. -/
def fingerprintBytes (value : Json) : Option (List UInt8) := encoded true value

def canonicalFingerprint (hexSha256 : List UInt8 → String) (value : Json) : Option String :=
  (fingerprintBytes value).map hexSha256

namespace KeyValue

/-- `canonical_json_bytes` of the mutations. -/
def canonicalJsonBytes (value : Json) : Option (List UInt8) := encoded false value

end KeyValue

namespace Dataset

/-- `canonical_json_bytes` of the appends. -/
def canonicalJsonBytes (value : Json) : Option (List UInt8) := encoded false value

end Dataset

end Encoding

section Order

mutual

/-- The documents are the same up to the order of members. -/
def Alike : Json → Json → Prop
  | .list items, other => ∃ items', other = .list items' ∧ AlikeItems items items'
  | .object members, other => ∃ members', other = .object members' ∧
      (keys members).Perm (keys members') ∧ AlikeMembers members members'
  | value, other => value = other

def AlikeItems : List Json → List Json → Prop
  | [], items' => items' = []
  | item :: items, others => ∃ item' items', others = item' :: items' ∧ Alike item item' ∧
      AlikeItems items items'

/-- Each member has a value in the other object that is alike. -/
def AlikeMembers : Members → Members → Prop
  | [], _ => True
  | (key, value) :: members, others =>
    (∃ value', (key, value') ∈ others ∧ Alike value value') ∧ AlikeMembers members others

end

theorem alikeMembers_iff {members others : Members} : AlikeMembers members others ↔
    ∀ entry ∈ members, ∃ value', (entry.1, value') ∈ others ∧ Alike entry.2 value' := by
  induction members with
  | nil => simp [AlikeMembers]
  | cons entry members ih => rw [AlikeMembers, ih, List.forall_mem_cons]

theorem arranged_eq_map (members : Members) :
    arranged sorted members =
      arranged id (members.map (fun entry => (entry.1, sorted entry.2))) := by
  rw [arranged, arranged, List.map_map]
  rfl

theorem keys_map_sorted (members : Members) :
    keys (members.map (fun entry => (entry.1, sorted entry.2))) = keys members := by
  rw [keys, List.map_map]
  rfl

theorem arranged_of_alike {members others : Members} (hkeys : (keys members).Nodup)
    (hkeys' : (keys others).Nodup) (hperm : (keys members).Perm (keys others))
    (h : ∀ entry ∈ members, ∃ value', (entry.1, value') ∈ others ∧ sorted entry.2 = sorted value') :
    arranged sorted members = arranged sorted others := by
  rw [arranged_eq_map, arranged_eq_map]
  have hnodup := hkeys'
  have hnodupFirst := hkeys
  rw [← keys_map_sorted] at hnodup hnodupFirst
  refine arranged_of_perm id hnodup (perm_of_member hnodup ?_ ?_)
  · rw [keys_map_sorted, keys_map_sorted]
    exact hperm
  · intro key hkey
    rw [keys_map_sorted, ← hperm.mem_iff] at hkey
    obtain ⟨value, hvalue⟩ := mem_of_key hkey
    obtain ⟨value', hvalue', hsame⟩ := h _ hvalue
    rw [member_of_mem hnodupFirst (List.mem_map.2 ⟨_, hvalue, rfl⟩),
      member_of_mem hnodup (List.mem_map.2 ⟨_, hvalue', rfl⟩)]
    exact hsame

theorem distinctMembers_iff {members : Members} :
    distinctMembers members ↔ ∀ entry ∈ members, distinct entry.2 := by
  induction members with
  | nil => simp [distinctMembers]
  | cons entry members ih => rw [distinctMembers, ih, List.forall_mem_cons]

-- By recursion on the first document.
mutual

theorem sorted_iff_alike : (value other : Json) → distinct value → distinct other →
    (sorted value = sorted other ↔ Alike value other)
  | .null, other, _, _ | .bool _, other, _, _ | .int _, other, _, _ | .float _ _, other, _, _
  | .text _, other, _, _ => by
    simp only [Alike]
    exact ⟨fun h => (received_leaf rfl h.symm).symm, congrArg sorted⟩
  | .list items, other, hvalue, hother => by
    rw [Alike]
    constructor
    · intro h
      obtain ⟨items', rfl, hitems⟩ := received_list h.symm
      rw [← sortedItems_eq_map, ← sortedItems_eq_map] at hitems
      exact ⟨items', rfl, (sortedItems_iff_alike items items' hvalue hother).1 hitems.symm⟩
    · rintro ⟨items', rfl, hitems⟩
      rw [sorted, sorted, (sortedItems_iff_alike items items' hvalue hother).2 hitems]
  | .object members, other, hvalue, hother => by
    have hmembers := sortedMembers_iff_alike members
    have hdistinct := distinctMembers_iff.1 hvalue.2
    rw [Alike]
    constructor
    · intro h
      obtain ⟨members', rfl, hperm, hvalues⟩ := received_object h.symm hvalue.1
      refine ⟨members', rfl, hperm.symm, alikeMembers_iff.2 fun entry hentry => ?_⟩
      have hkey : entry.1 ∈ keys members' := hperm.mem_iff.2 (List.mem_map_of_mem hentry)
      obtain ⟨value', hvalue'⟩ := mem_of_key hkey
      have hsame := hvalues entry.1
      rw [member_of_mem hother.1 hvalue', member_of_mem hvalue.1 hentry] at hsame
      exact ⟨value', hvalue', (hmembers entry hentry value' (hdistinct entry hentry)
        (distinctMembers_iff.1 hother.2 _ hvalue')).1 hsame.symm⟩
    · rintro ⟨members', rfl, hperm, halike⟩
      rw [sorted_object, sorted_object]
      refine congrArg Json.object (arranged_of_alike hvalue.1 hother.1 hperm fun entry hentry => ?_)
      obtain ⟨value', hvalue', hsame⟩ := alikeMembers_iff.1 halike entry hentry
      exact ⟨value', hvalue', (hmembers entry hentry value' (hdistinct entry hentry)
        (distinctMembers_iff.1 hother.2 _ hvalue')).2 hsame⟩

theorem sortedItems_iff_alike : (items items' : List Json) → distinctItems items →
    distinctItems items' → (sortedItems items = sortedItems items' ↔ AlikeItems items items')
  | [], items', _, _ => by
    rw [AlikeItems]
    cases items' <;> simp [sortedItems]
  | item :: items, [], _, _ => by simp [AlikeItems, sortedItems]
  | item :: items, item' :: items', hitems, hitems' => by
    rw [sortedItems, sortedItems, List.cons.injEq, AlikeItems,
      sorted_iff_alike item item' hitems.1 hitems'.1,
      sortedItems_iff_alike items items' hitems.2 hitems'.2]
    simp

theorem sortedMembers_iff_alike : (members : Members) → ∀ entry ∈ members, ∀ other,
    distinct entry.2 → distinct other → (sorted entry.2 = sorted other ↔ Alike entry.2 other)
  | [] => nofun
  | (_, value) :: members => List.forall_mem_cons.2
      ⟨fun other => sorted_iff_alike value other, sortedMembers_iff_alike members⟩

end

end Order

/-- A JSON value without floats, whose objects have distinct keys. -/
structure FiniteValue where
  value : Json
  floatless : JsonTexts.floatless value = true
  distinct : DocumentMembers.distinct value

/-- SHA-256 in hex, taken to be free of collisions. -/
structure Hash where
  hexSha256 : List UInt8 → String
  collisionFree : Function.Injective hexSha256

theorem encoded_eq_iff (allowNan : Bool) (v v' : FiniteValue) :
    (∃ bytes, encoded allowNan v.value = some bytes ∧ encoded allowNan v'.value = some bytes) ↔
      (encoded allowNan v.value).isSome = true ∧ Alike v.value v'.value := by
  rw [← sorted_iff_alike v.value v'.value v.distinct v'.distinct]
  constructor
  · rintro ⟨bytes, hbytes, hbytes'⟩
    refine ⟨by rw [hbytes]; rfl, ?_⟩
    simp only [encoded, Option.ite_none_right_eq_some, Option.some.injEq] at hbytes hbytes'
    have htexts := utf8_injective (hbytes.2.trans hbytes'.2.symm)
    exact dumps_inj v.floatless v'.floatless htexts
  · rintro ⟨hsome, hsorted⟩
    obtain ⟨bytes, hbytes⟩ := Option.isSome_iff_exists.1 hsome
    refine ⟨bytes, hbytes, ?_⟩
    rw [encoded, ← hsorted, ← dumps_of_sorted false hsorted]
    exact hbytes

end RoozDataCloud.CanonicalJson
