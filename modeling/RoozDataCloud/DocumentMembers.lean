import RoozDataCloud.JsonTexts
import Mathlib

set_option autoImplicit false

/-!
# Members of equal documents

Two objects that are equal have the same keys, with equal values. Their texts are the
same exactly when no number stands for a boolean.
-/
namespace RoozDataCloud.DocumentMembers
open JsonDocuments JsonTexts
open Datasets (Json)
open KeyValueProtocol (sorted sortedItems sortedMembers)

def keys (members : Members) : List String := members.map Prod.fst

theorem sortedMembers_eq_map (members : Members) :
    sortedMembers members = members.map (fun entry => (entry.1, sorted entry.2)) := by
  induction members with
  | nil => rfl
  | cons entry members ih => rw [sortedMembers, ih, List.map_cons]

theorem mem_of_lookup {α : Type} {entries : List (String × α)} {key : String} {value : α}
    (h : entries.lookup key = some value) : (key, value) ∈ entries := by
  induction entries with
  | nil => cases h
  | cons entry entries ih =>
    rw [List.lookup_cons] at h
    split at h
    · next heq =>
      obtain rfl := beq_iff_eq.1 heq
      obtain rfl := Option.some.inj h
      exact List.mem_cons_self
    · exact List.mem_cons_of_mem _ (ih h)

section Lookup
variable {members : Members} {key : String} {value : Json}

theorem lookup_of_mem (hkeys : (keys members).Nodup) (h : (key, value) ∈ members) :
    members.lookup key = some value := by
  induction members with
  | nil => cases h
  | cons entry members ih =>
    rw [keys, List.map_cons, List.nodup_cons] at hkeys
    rw [List.lookup_cons]
    rcases List.mem_cons.1 h with rfl | h
    · rw [beq_self_eq_true]
    · have hne : (key == entry.1) = false := by
        rw [beq_eq_false_iff_ne]
        rintro rfl
        exact hkeys.1 (List.mem_map.2 ⟨_, h, rfl⟩)
      rw [hne]
      exact ih hkeys.2 h

theorem member_of_mem (hkeys : (keys members).Nodup) (h : (key, value) ∈ members) :
    member members key = value := by
  rw [member, lookup_of_mem hkeys h]
  rfl

theorem mem_of_key (h : key ∈ keys members) : ∃ found, (key, found) ∈ members := by
  obtain ⟨entry, hentry, rfl⟩ := List.mem_map.1 h
  exact ⟨entry.2, hentry⟩

end Lookup

theorem sortedItems_eq_map (items : List Json) : sortedItems items = items.map sorted := by
  induction items with
  | nil => rfl
  | cons item items ih => rw [sortedItems, ih, List.map_cons]

section Equal
variable {a b : Members}

/-- The members of an object, each value rewritten by `f`, in the order of the keys. -/
def arranged (f : Json → Json) (members : Members) : Members :=
  (members.map (fun entry => (entry.1, f entry.2))).insertionSort (fun a b => a.1 ≤ b.1)

theorem arranged_perm (f : Json → Json) (members : Members) :
    (arranged f members).Perm (members.map (fun entry => (entry.1, f entry.2))) :=
  List.perm_insertionSort _ _

theorem keys_arranged (f : Json → Json) (members : Members) :
    (keys (arranged f members)).Perm (keys members) := by
  have hperm := (arranged_perm f members).map Prod.fst
  rw [List.map_map] at hperm
  exact hperm

theorem arranged_pairwise (f : Json → Json) (members : Members) :
    (arranged f members).Pairwise (fun a b => a.1 ≤ b.1) := by
  have htotal : Std.Total (fun a b : String × Json => a.1 ≤ b.1) :=
    ⟨fun a b => String.le_total a.1 b.1⟩
  have htrans : IsTrans (String × Json) (fun a b => a.1 ≤ b.1) := ⟨fun _ _ _ => String.le_trans⟩
  exact List.pairwise_insertionSort _ _

theorem keys_of_arranged {f : Json → Json} (h : arranged f a = arranged f b) :
    (keys a).Perm (keys b) :=
  (keys_arranged f a).symm.trans (h ▸ keys_arranged f b)

theorem member_of_arranged {f : Json → Json} (h : arranged f a = arranged f b)
    (hkeys : (keys b).Nodup) (key : String) : f (member a key) = f (member b key) := by
  have hkeys' : (keys a).Nodup := (keys_of_arranged h).nodup_iff.2 hkeys
  cases hlookup : a.lookup key with
  | none =>
    have hnone : b.lookup key = none := by
      rw [Option.eq_none_iff_forall_ne_some]
      intro value hvalue
      have hmem : key ∈ keys b := List.mem_map_of_mem (f := Prod.fst) (mem_of_lookup hvalue)
      obtain ⟨found, hfound⟩ := mem_of_key ((keys_of_arranged h).mem_iff.2 hmem)
      rw [lookup_of_mem hkeys' hfound] at hlookup
      cases hlookup
    rw [member, member, hlookup, hnone]
  | some value =>
    have hmem : (key, f value) ∈ arranged f b := by
      rw [← h, (arranged_perm f a).mem_iff]
      exact List.mem_map.2 ⟨(key, value), mem_of_lookup hlookup, rfl⟩
    rw [(arranged_perm f b).mem_iff, List.mem_map] at hmem
    obtain ⟨⟨_, other⟩, hother, hequal⟩ := hmem
    obtain ⟨rfl, hvalue⟩ := Prod.mk.inj hequal
    rw [member, hlookup, member_of_mem hkeys hother]
    exact hvalue.symm

theorem sorted_object (members : Members) :
    sorted (.object members) = .object (arranged sorted members) := by
  rw [sorted, sortedMembers_eq_map]
  rfl

/-- Objects with the same keys and the same members are permutations of each other. -/
theorem perm_of_member (hkeys : (keys b).Nodup) (hperm : (keys a).Perm (keys b))
    (h : ∀ key ∈ keys b, member a key = member b key) : a.Perm b := by
  have hkeys' : (keys a).Nodup := hperm.nodup_iff.2 hkeys
  rw [List.perm_ext_iff_of_nodup hkeys'.of_map hkeys.of_map]
  rintro ⟨key, value⟩
  constructor
  · intro hmem
    have hkey : key ∈ keys b := hperm.mem_iff.1 (List.mem_map_of_mem hmem)
    obtain ⟨found, hfound⟩ := mem_of_key hkey
    have hvalue := h key hkey
    rw [member_of_mem hkeys' hmem, member_of_mem hkeys hfound] at hvalue
    rwa [hvalue]
  · intro hmem
    have hkey : key ∈ keys b := List.mem_map_of_mem hmem
    obtain ⟨found, hfound⟩ := mem_of_key (hperm.mem_iff.2 hkey)
    have hvalue := h key hkey
    rw [member_of_mem hkeys' hfound, member_of_mem hkeys hmem] at hvalue
    rwa [← hvalue]

theorem arranged_of_perm (f : Json → Json) (hkeys : (keys b).Nodup) (h : a.Perm b) :
    arranged f a = arranged f b := by
  have hperm : (arranged f a).Perm (arranged f b) :=
    (arranged_perm f a).trans ((h.map _).trans (arranged_perm f b).symm)
  have hnodup : (keys (arranged f b)).Nodup := (keys_arranged f b).nodup_iff.2 hkeys
  refine hperm.eq_of_pairwise ?_ (arranged_pairwise f a) (arranged_pairwise f b)
  rintro ⟨key, value⟩ ⟨key', value'⟩ hmem hmem' hle hle'
  obtain rfl : key = key' := String.le_antisymm hle hle'
  have hvalue := lookup_of_mem hnodup (hperm.mem_iff.1 hmem)
  rw [lookup_of_mem hnodup hmem'] at hvalue
  rw [Option.some.inj hvalue]

theorem hasExactly_iff {members : Members} {fields : List String} :
    hasExactly members fields = true ↔ ∀ key, key ∈ keys members ↔ key ∈ fields := by
  have hsome : ∀ key, (members.lookup key).isSome = true ↔ key ∈ keys members := by
    intro key
    rw [List.lookup_isSome_iff, keys, List.mem_map]
    exact ⟨fun ⟨entry, hentry, hkey⟩ => ⟨entry, hentry, (beq_iff_eq.1 hkey).symm⟩,
      fun ⟨entry, hentry, hkey⟩ => ⟨entry, hentry, beq_iff_eq.2 hkey.symm⟩⟩
  simp only [hasExactly, Bool.and_eq_true, List.all_eq_true, List.contains_iff_mem, hsome]
  constructor
  · rintro ⟨hkeys, hfields⟩ key
    refine ⟨fun hkey => ?_, hfields key⟩
    obtain ⟨found, hfound⟩ := mem_of_key hkey
    exact hkeys (key, found) hfound
  · intro h
    exact ⟨fun entry hentry => (h entry.1).1 (List.mem_map_of_mem hentry), fun key => (h key).2⟩

end Equal

section Sorting

theorem arranged_sorted {f : Json → Json} {members : Members}
    (hkept : ∀ entry ∈ members, f entry.2 = entry.2)
    (h : members.Pairwise (fun a b => a.1 ≤ b.1)) : arranged f members = members := by
  have hsame : members.map (fun entry => (entry.1, f entry.2)) = members := by
    rw [List.map_congr_left (g := id) (fun entry hentry => by rw [hkept entry hentry]; rfl), List.map_id]
  rw [arranged, hsame, h.insertionSort_eq]

mutual

theorem sorted_sorted : (value : Json) → sorted (sorted value) = sorted value
  | .null | .bool _ | .int _ | .float _ _ | .text _ => rfl
  | .list items => by
    rw [sorted, sorted, sortedItems_sorted items]
  | .object members => by
    rw [sorted_object members, sorted_object]
    congr 1
    refine arranged_sorted (fun entry hentry => ?_) (arranged_pairwise sorted members)
    rw [(arranged_perm sorted members).mem_iff, ← sortedMembers_eq_map] at hentry
    exact sortedMembers_sorted members entry hentry

theorem sortedItems_sorted : (items : List Json) →
    sortedItems (sortedItems items) = sortedItems items
  | [] => rfl
  | item :: items => by
    rw [sortedItems, sortedItems, sorted_sorted item, sortedItems_sorted items]

theorem sortedMembers_sorted : (members : Members) →
    ∀ entry ∈ sortedMembers members, sorted entry.2 = entry.2
  | [] => nofun
  | (key, value) :: members => by
    rw [sortedMembers, List.forall_mem_cons]
    exact ⟨sorted_sorted value, sortedMembers_sorted members⟩

end

/-- A document that arrives as an object has the keys and the members of what was sent. -/
theorem received_object {received : Json} {sent : Members}
    (h : sorted received = sorted (.object sent)) (hkeys : (keys sent).Nodup) :
    ∃ members, received = .object members ∧ (keys members).Perm (keys sent) ∧
      ∀ key, sorted (member members key) = sorted (member sent key) := by
  cases received with
  | object members =>
    rw [sorted_object, sorted_object] at h
    have harranged := Json.object.inj h
    exact ⟨members, rfl, keys_of_arranged harranged, member_of_arranged harranged hkeys⟩
  | _ => simp [sorted] at h

theorem received_list {received : Json} {sent : List Json} (h : sorted received = sorted (.list sent)) :
    ∃ items, received = .list items ∧ items.map sorted = sent.map sorted := by
  cases received with
  | list items =>
    rw [sorted, sorted, sortedItems_eq_map, sortedItems_eq_map] at h
    exact ⟨items, rfl, Json.list.inj h⟩
  | _ => simp [sorted] at h

/-- Neither a list nor an object. -/
def leaf : Json → Bool
  | .list _ | .object _ => false
  | _ => true

theorem received_leaf {received sent : Json} (hleaf : leaf sent = true)
    (h : sorted received = sorted sent) : received = sent := by
  cases sent <;> cases received <;> simp_all [sorted, leaf]

theorem dumps_of_sorted (ascii : Bool) {received sent : Json} (h : sorted received = sorted sent) :
    dumps ascii received = dumps ascii sent := by
  rw [dumps, dumps, h]

mutual

/-- The members of a dictionary have keys of their own. -/
def distinct : Json → Prop
  | .list items => distinctItems items
  | .object members => (keys members).Nodup ∧ distinctMembers members
  | _ => True

def distinctItems : List Json → Prop
  | [] => True
  | item :: items => distinct item ∧ distinctItems items

def distinctMembers : Members → Prop
  | [] => True
  | (_, value) :: members => distinct value ∧ distinctMembers members

end

end Sorting

end RoozDataCloud.DocumentMembers
