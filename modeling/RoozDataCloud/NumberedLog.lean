import RoozDataCloud.KeyedTable

set_option autoImplicit false

/-!
# Logs numbered per owner

A log row is kept under its owner and a number. A new row of an owner gets the
number after the greatest one, so it never meets a taken key.
-/
namespace RoozDataCloud.NumberedLog
open KeyedTable

variable {κ ρ : Type} [DecidableEq κ]

abbrev Log (κ ρ : Type) := Table (κ × ℕ) ρ

def numbers (log : Log κ ρ) (owner : κ) : List ℕ :=
  (log.rows.filter (fun row => row.1.1 = owner)).map (fun row => row.1.2)

def latest (log : Log κ ρ) (owner : κ) : ℕ := (numbers log owner).foldr max 0

theorem le_foldr_max {n : ℕ} {items : List ℕ} (h : n ∈ items) : n ≤ items.foldr max 0 := by
  induction items with
  | nil => cases h
  | cons m items ih =>
    rcases List.mem_cons.1 h with rfl | h
    · exact le_max_left _ _
    · exact (ih h).trans (le_max_right _ _)

theorem mem_numbers {log : Log κ ρ} {owner : κ} {n : ℕ} :
    n ∈ numbers log owner ↔ (owner, n) ∈ log.rows.map Prod.fst := by
  simp only [numbers, List.mem_map, List.mem_filter, decide_eq_true_eq]
  constructor
  · rintro ⟨row, ⟨hrow, rfl⟩, rfl⟩
    exact ⟨row, hrow, rfl⟩
  · rintro ⟨row, hrow, hkey⟩
    exact ⟨row, ⟨hrow, by rw [hkey]⟩, by rw [hkey]⟩

theorem latest_fresh (log : Log κ ρ) (owner : κ) :
    (owner, latest log owner + 1) ∉ log.rows.map Prod.fst := by
  intro h
  have hle := le_foldr_max (mem_numbers.2 h)
  exact absurd hle (Nat.not_le.2 (Nat.lt_succ_self _))

def append (log : Log κ ρ) (owner : κ) (r : ρ) : Log κ ρ where
  rows := log.rows ++ [((owner, latest log owner + 1), r)]
  nodup := nodup_keys_append r log.nodup (latest_fresh log owner)

/-- The rows of one owner with their numbers, as they were added. -/
def entries (log : Log κ ρ) (owner : κ) : List (ℕ × ρ) :=
  (log.rows.filter (fun row => row.1.1 = owner)).map (fun row => (row.1.2, row.2))

/-- The numbers are those from one on, without a gap. -/
def Consecutive (log : Log κ ρ) (owner : κ) : Prop :=
  (entries log owner).map Prod.fst = List.range' 1 (entries log owner).length

section Entries
variable {log : Log κ ρ} {owner other : κ} {r : ρ}

theorem entries_numbers : (entries log owner).map Prod.fst = numbers log owner := by
  rw [entries, numbers, List.map_map]
  rfl

theorem entries_append_self :
    entries (append log owner r) owner = entries log owner ++ [(latest log owner + 1, r)] := by
  simp [entries, append]

theorem entries_append_ne (h : other ≠ owner) :
    entries (append log owner r) other = entries log other := by
  simp [entries, append, h.symm]

theorem foldr_max_range' (n : ℕ) : (List.range' 1 n).foldr max 0 = n := by
  induction n with
  | zero => rfl
  | succ n ih =>
    have hmax : ∀ (items : List ℕ) (m : ℕ), items.foldr max m = max (items.foldr max 0) m := by
      intro items m
      induction items with
      | nil => simp
      | cons k items ih => simp only [List.foldr_cons, ih, max_assoc]
    rw [List.range'_concat, List.foldr_append, List.foldr_cons, List.foldr_nil, hmax, ih]
    omega

theorem Consecutive.latest_eq (h : Consecutive log owner) :
    latest log owner = (entries log owner).length := by
  rw [latest, ← entries_numbers, h, foldr_max_range']

theorem Consecutive.append (h : Consecutive log owner) (r : ρ) :
    Consecutive (append log owner r) owner := by
  rw [Consecutive, entries_append_self, h.latest_eq, List.map_append, h, List.length_append,
    List.length_singleton, List.range'_concat, Nat.one_mul, Nat.add_comm 1]
  rfl

end Entries
end RoozDataCloud.NumberedLog
