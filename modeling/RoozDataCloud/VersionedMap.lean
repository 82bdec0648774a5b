import Mathlib.Data.List.Dedup
import Mathlib.Data.List.Induction

set_option autoImplicit false

/-!
# Maps with a history

A map is kept as the list of its writes, oldest first. A write sets a key to a
value or deletes it; the version of a key counts its writes.
-/
namespace RoozDataCloud.VersionedMap

structure Write (κ ν : Type) where
  key : κ
  value : Option ν

abbrev History (κ ν : Type) := List (Write κ ν)

variable {κ ν : Type} [DecidableEq κ]

def writes (h : History κ ν) (k : κ) : List (Option ν) :=
  (h.filter (fun w => w.key = k)).map Write.value

def version (h : History κ ν) (k : κ) : ℕ := (writes h k).length

/-- What the last write of the key has set it to. -/
def lookup (h : History κ ν) (k : κ) : Option ν := (writes h k).getLast?.join

def liveKeys (h : History κ ν) : List κ :=
  (h.map Write.key).dedup.filter (fun k => (lookup h k).isSome)

section Appends
variable (h : History κ ν) (w : Write κ ν) (k : κ)

theorem writes_snoc : writes (h ++ [w]) k = writes h k ++ if w.key = k then [w.value] else [] := by
  rw [writes, List.filter_append, List.map_append, ← writes]
  by_cases hk : w.key = k <;> simp [hk]

theorem version_snoc : version (h ++ [w]) k = version h k + if w.key = k then 1 else 0 := by
  rw [version, writes_snoc, List.length_append, ← version]
  split_ifs <;> rfl

theorem lookup_snoc : lookup (h ++ [w]) k = if w.key = k then w.value else lookup h k := by
  rw [lookup, writes_snoc]
  split_ifs with hk
  · rw [List.getLast?_append, List.getLast?_singleton, Option.some_or, Option.join_some]
  · rw [List.append_nil, lookup]

end Appends

/-- A key has the value of its last set, with no delete after it. -/
theorem lookup_eq_some_iff {h : History κ ν} {k : κ} {v : ν} :
    lookup h k = some v ↔
      ∃ before later, h = before ++ ⟨k, some v⟩ :: later ∧ ∀ w ∈ later, w.key ≠ k := by
  induction h using List.reverseRecOn with
  | nil => simp [lookup, writes]
  | append_singleton h w ih =>
    rw [lookup_snoc]
    constructor
    · split_ifs with hk
      · rintro hv
        refine ⟨h, [], ?_, nofun⟩
        rw [← hk, ← hv]
      · rw [ih]
        rintro ⟨before, later, rfl, hlater⟩
        refine ⟨before, later ++ [w], by simp, fun w' hw' => ?_⟩
        rcases List.mem_append.1 hw' with hw' | hw'
        · exact hlater w' hw'
        · rwa [List.mem_singleton.1 hw']
    · rintro ⟨before, later, heq, hlater⟩
      cases later using List.reverseRecOn with
      | nil =>
        obtain ⟨-, hw⟩ := List.append_inj' heq rfl
        rw [List.cons.injEq] at hw
        rw [hw.1, if_pos rfl]
      | append_singleton later w' =>
        rw [← List.cons_append, ← List.append_assoc] at heq
        obtain ⟨hh, hw⟩ := List.append_inj' heq rfl
        rw [List.cons.injEq] at hw
        have hne : w.key ≠ k := hw.1 ▸ hlater w' (by simp)
        rw [if_neg hne, ih]
        exact ⟨before, later, hh, fun w'' hw'' => hlater w'' (List.mem_append_left _ hw'')⟩

theorem mem_liveKeys {h : History κ ν} {k : κ} : k ∈ liveKeys h ↔ (lookup h k).isSome := by
  rw [liveKeys, List.mem_filter, List.mem_dedup, and_iff_right_of_imp]
  intro hsome
  obtain ⟨v, hv⟩ := Option.isSome_iff_exists.1 hsome
  obtain ⟨before, later, rfl, -⟩ := lookup_eq_some_iff.1 hv
  exact List.mem_map_of_mem (List.mem_append_right _ List.mem_cons_self)

theorem liveKeys_nodup (h : History κ ν) : (liveKeys h).Nodup := (List.nodup_dedup _).filter _

end RoozDataCloud.VersionedMap
