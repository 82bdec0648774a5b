import Mathlib.Data.List.Nodup
import Mathlib.Data.List.Sort
import Mathlib.Algebra.BigOperators.Group.List.Basic
import Mathlib.Algebra.Order.BigOperators.Group.List
import Mathlib.Tactic.Ring

set_option autoImplicit false

/-!
# Finite tables under a primary key

Rows are kept in insertion order and their keys are distinct by construction.
Every update is a map over the rows or an insertion under a fresh key, so a
whole development can reason through `get?` alone.
-/
namespace RoozDataCloud.KeyedTable

theorem nodup_keys_append {κ ρ : Type} {rows : List (κ × ρ)} {k : κ} (r : ρ)
    (hn : (rows.map Prod.fst).Nodup) (hk : k ∉ rows.map Prod.fst) :
    ((rows ++ [(k, r)]).map Prod.fst).Nodup := by
  rw [List.map_append, List.map_cons, List.map_nil]
  refine List.nodup_append.2 ⟨hn, List.nodup_singleton k, ?_⟩
  intro a ha b hb hab
  rw [List.mem_singleton] at hb
  rw [hab, hb] at ha
  exact hk ha

@[ext] structure Table (κ ρ : Type) where
  rows : List (κ × ρ)
  nodup : (rows.map Prod.fst).Nodup

namespace Table
variable {κ ρ : Type} [DecidableEq κ]

def empty : Table κ ρ := ⟨[], List.nodup_nil⟩

def get? (t : Table κ ρ) (k : κ) : Option ρ :=
  (t.rows.find? (fun row => row.1 = k)).map Prod.snd

/-- The first row, in insertion order, that meets the condition. -/
def find? (t : Table κ ρ) (p : κ → ρ → Bool) : Option (κ × ρ) :=
  t.rows.find? (fun row => p row.1 row.2)

def select (t : Table κ ρ) (p : κ → ρ → Bool) : List (κ × ρ) :=
  t.rows.filter (fun row => p row.1 row.2)

def count (t : Table κ ρ) (p : κ → ρ → Bool) : ℕ := (t.select p).length

def sum (t : Table κ ρ) (g : κ → ρ → ℤ) : ℤ := (t.rows.map (fun row => g row.1 row.2)).sum

def mapRows (t : Table κ ρ) (f : κ → ρ → ρ) : Table κ ρ where
  rows := t.rows.map (fun row => (row.1, f row.1 row.2))
  nodup := by
    have h := t.nodup
    rw [List.map_map]
    exact h

def modify (t : Table κ ρ) (k : κ) (f : ρ → ρ) : Table κ ρ :=
  t.mapRows (fun k' r => if k' = k then f r else r)

/-- Insertion under a taken key is refused, as a primary key refuses it. -/
def insert? (t : Table κ ρ) (k : κ) (r : ρ) : Option (Table κ ρ) :=
  if h : k ∈ t.rows.map Prod.fst then none
  else some ⟨t.rows ++ [(k, r)], nodup_keys_append r t.nodup h⟩

theorem get?_eq_some (t : Table κ ρ) (k : κ) (r : ρ) :
    t.get? k = some r ↔ (k, r) ∈ t.rows := by
  obtain ⟨rows, hn⟩ := t
  simp only [get?]
  induction rows with
  | nil => simp
  | cons row rows ih =>
    obtain ⟨j, s⟩ := row
    simp only [List.map_cons, List.nodup_cons] at hn
    by_cases hj : j = k
    · subst hj
      have hfresh : (j, r) ∉ rows := fun h => hn.1 (List.mem_map.2 ⟨_, h, rfl⟩)
      simp only [List.find?_cons, decide_true, Option.map_some, Option.some.injEq,
        List.mem_cons, Prod.mk.injEq, true_and, hfresh, or_false]
      exact eq_comm
    · have hne : ¬ (k = j) := fun h => hj h.symm
      simp only [List.find?_cons, hj, decide_false, List.mem_cons, Prod.mk.injEq, hne,
        false_and, false_or]
      exact ih hn.2

theorem get?_eq_none (t : Table κ ρ) (k : κ) :
    t.get? k = none ↔ k ∉ t.rows.map Prod.fst := by
  constructor
  · intro h hk
    obtain ⟨⟨j, r⟩, hm, rfl⟩ := List.mem_map.1 hk
    rw [(t.get?_eq_some j r).2 hm] at h
    cases h
  · intro h
    cases hg : t.get? k with
    | none => rfl
    | some r => exact absurd (List.mem_map.2 ⟨_, (t.get?_eq_some k r).1 hg, rfl⟩) h

@[simp] theorem get?_empty (k : κ) : (empty : Table κ ρ).get? k = none := rfl

@[simp] theorem get?_mapRows (t : Table κ ρ) (f : κ → ρ → ρ) (k : κ) :
    (t.mapRows f).get? k = (t.get? k).map (f k) := by
  cases h : t.get? k with
  | none =>
    rw [get?_eq_none] at h
    rw [Option.map_none, get?_eq_none]
    simpa [mapRows] using h
  | some r =>
    rw [get?_eq_some] at h
    rw [Option.map_some, get?_eq_some]
    exact List.mem_map.2 ⟨_, h, rfl⟩

theorem get?_modify (t : Table κ ρ) (k : κ) (f : ρ → ρ) (k' : κ) :
    (t.modify k f).get? k' = if k' = k then (t.get? k').map f else t.get? k' := by
  rw [modify, get?_mapRows]
  split_ifs <;> simp

@[simp] theorem get?_modify_self (t : Table κ ρ) (k : κ) (f : ρ → ρ) :
    (t.modify k f).get? k = (t.get? k).map f := by
  rw [get?_modify, if_pos rfl]

theorem get?_modify_ne (t : Table κ ρ) {k k' : κ} (f : ρ → ρ) (h : k' ≠ k) :
    (t.modify k f).get? k' = t.get? k' := by
  rw [get?_modify, if_neg h]

@[simp] theorem get?_modify_id (t : Table κ ρ) (k k' : κ) :
    (t.modify k id).get? k' = t.get? k' := by
  rw [get?_modify, Option.map_id_fun, id, ite_self]

/-- A column that no row's update changes reads the same in the updated table. -/
theorem map_get?_mapRows {γ : Type} (t : Table κ ρ) (f : κ → ρ → ρ) (c : ρ → γ) (k : κ)
    (h : ∀ r, t.get? k = some r → c (f k r) = c r) :
    ((t.mapRows f).get? k).map c = (t.get? k).map c := by
  rw [get?_mapRows]
  cases hg : t.get? k with
  | none => rfl
  | some r => exact congrArg some (h r hg)

theorem map_get?_modify {γ : Type} (t : Table κ ρ) (k : κ) (f : ρ → ρ) (c : ρ → γ) (k' : κ)
    (h : ∀ r, t.get? k = some r → c (f r) = c r) :
    ((t.modify k f).get? k').map c = (t.get? k').map c := by
  apply map_get?_mapRows
  intro r hr
  split_ifs with hk
  · exact h r (hk ▸ hr)
  · rfl

theorem rows_insert {t t' : Table κ ρ} {k : κ} {r : ρ} (h : t.insert? k r = some t') :
    t'.rows = t.rows ++ [(k, r)] := by
  unfold insert? at h
  split at h
  · cases h
  · obtain rfl := Option.some.inj h
    rfl

theorem get?_insert {t t' : Table κ ρ} {k : κ} {r : ρ} (h : t.insert? k r = some t') (k' : κ) :
    t'.get? k' = if k' = k then some r else t.get? k' := by
  have hrows := rows_insert h
  split_ifs with he
  · subst he
    rw [get?_eq_some, hrows]
    exact List.mem_append_right _ (List.mem_singleton.2 rfl)
  · cases hg : t.get? k' with
    | none =>
      rw [get?_eq_none] at hg ⊢
      simpa [hrows, he] using hg
    | some s =>
      rw [get?_eq_some] at hg ⊢
      rw [hrows]
      exact List.mem_append_left _ hg

theorem insert_of_fresh {t : Table κ ρ} {k : κ} {r : ρ} (h : t.get? k = none) :
    ∃ t', t.insert? k r = some t' := by
  unfold insert?
  rw [dif_neg ((t.get?_eq_none k).1 h)]
  exact ⟨_, rfl⟩

theorem insert_fresh {t t' : Table κ ρ} {k : κ} {r : ρ} (h : t.insert? k r = some t') :
    t.get? k = none := by
  unfold insert? at h
  split at h
  · cases h
  · rename_i hk
    exact (t.get?_eq_none k).2 hk

theorem get?_insert_old {t t' : Table κ ρ} {k k' : κ} {r r' : ρ} (h : t.insert? k r = some t')
    (hget : t.get? k' = some r') : t'.get? k' = some r' := by
  rw [get?_insert h, if_neg, hget]
  rintro rfl
  rw [insert_fresh h] at hget
  cases hget

theorem insert_of_taken {t : Table κ ρ} {k : κ} {r s : ρ} (h : t.get? k = some s) :
    t.insert? k r = none := by
  cases hinsert : t.insert? k r with
  | none => rfl
  | some t' =>
    rw [insert_fresh hinsert] at h
    cases h

theorem find?_some {t : Table κ ρ} {p : κ → ρ → Bool} {k : κ} {r : ρ}
    (h : t.find? p = some (k, r)) : t.get? k = some r ∧ p k r = true := by
  refine ⟨(t.get?_eq_some k r).2 (List.mem_of_find?_eq_some h), ?_⟩
  exact List.find?_some (p := fun row : κ × ρ => p row.1 row.2) h

theorem find?_none {t : Table κ ρ} {p : κ → ρ → Bool} (h : t.find? p = none)
    {k : κ} {r : ρ} (hr : t.get? k = some r) : p k r = false := by
  have hf := List.find?_eq_none.1 h (k, r) ((t.get?_eq_some k r).1 hr)
  simpa using hf

theorem find?_insert {t t' : Table κ ρ} {k : κ} {r : ρ} (h : t.insert? k r = some t')
    (p : κ → ρ → Bool) : t'.find? p = (t.find? p).or (if p k r then some (k, r) else none) := by
  simp only [find?, rows_insert h, List.find?_append, List.find?_singleton]

theorem mem_select (t : Table κ ρ) (p : κ → ρ → Bool) (k : κ) (r : ρ) :
    (k, r) ∈ t.select p ↔ t.get? k = some r ∧ p k r = true := by
  rw [select, List.mem_filter, get?_eq_some]

omit [DecidableEq κ] in
theorem select_keys_nodup (t : Table κ ρ) (p : κ → ρ → Bool) :
    ((t.select p).map Prod.fst).Nodup :=
  t.nodup.sublist (List.Sublist.map _ List.filter_sublist)

section Sorted
variable {t : Table κ ρ} {p : κ → ρ → Bool} {o : κ × ρ → κ × ρ → Prop} [DecidableRel o] {n : ℕ}

theorem mem_take_sorted {k : κ} {r : ρ} (h : (k, r) ∈ ((t.select p).insertionSort o).take n) :
    t.get? k = some r ∧ p k r = true := by
  have hmem := List.mem_of_mem_take h
  rw [List.mem_insertionSort] at hmem
  exact (t.mem_select p k r).1 hmem

omit [DecidableEq κ] in
theorem take_sorted_nodup : ((((t.select p).insertionSort o).take n).map Prod.fst).Nodup := by
  have hperm := (List.perm_insertionSort o (t.select p)).map Prod.fst
  exact (hperm.nodup_iff.2 (t.select_keys_nodup p)).sublist ((List.take_sublist _ _).map _)

end Sorted

theorem mem_select_keys (t : Table κ ρ) (p : κ → ρ → Bool) (k : κ) :
    k ∈ (t.select p).map Prod.fst ↔ ∃ r, t.get? k = some r ∧ p k r = true := by
  constructor
  · intro h
    obtain ⟨⟨j, r⟩, hm, rfl⟩ := List.mem_map.1 h
    exact ⟨r, (t.mem_select p j r).1 hm⟩
  · rintro ⟨r, h⟩
    exact List.mem_map.2 ⟨_, (t.mem_select p k r).2 h, rfl⟩

theorem rows_split {t : Table κ ρ} {k : κ} {r : ρ} (h : t.get? k = some r) :
    ∃ before after, t.rows = before ++ (k, r) :: after ∧
      k ∉ before.map Prod.fst ∧ k ∉ after.map Prod.fst := by
  obtain ⟨before, after, he⟩ := List.append_of_mem ((t.get?_eq_some k r).1 h)
  have hn := t.nodup
  rw [he, List.map_append, List.map_cons, List.nodup_append] at hn
  obtain ⟨-, hafter, hdisjoint⟩ := hn
  refine ⟨before, after, he, ?_, (List.nodup_cons.1 hafter).1⟩
  intro hk
  exact hdisjoint k hk k (List.mem_cons_self) rfl

theorem map_rows_fresh (rows : List (κ × ρ)) (k : κ) (f : ρ → ρ)
    (h : k ∉ rows.map Prod.fst) :
    rows.map (fun row => (row.1, if row.1 = k then f row.2 else row.2)) = rows := by
  conv_rhs => rw [← List.map_id rows]
  apply List.map_congr_left
  intro row hrow
  have hne : row.1 ≠ k := fun he => h (List.mem_map.2 ⟨row, hrow, he⟩)
  simp [hne]

theorem modify_absent {t : Table κ ρ} {k : κ} (f : ρ → ρ) (h : t.get? k = none) :
    t.modify k f = t :=
  Table.ext (map_rows_fresh t.rows k f ((t.get?_eq_none k).1 h))

theorem sum_modify {t : Table κ ρ} {k : κ} {r : ρ} (f : ρ → ρ) (g : κ → ρ → ℤ)
    (h : t.get? k = some r) : (t.modify k f).sum g = t.sum g - g k r + g k (f r) := by
  obtain ⟨before, after, he, hb, ha⟩ := rows_split h
  simp only [sum, modify, mapRows, he, List.map_append, List.map_cons,
    map_rows_fresh _ _ _ hb, map_rows_fresh _ _ _ ha, ↓reduceIte, List.sum_append, List.sum_cons]
  ring

theorem sum_insert {t t' : Table κ ρ} {k : κ} {r : ρ} (g : κ → ρ → ℤ)
    (h : t.insert? k r = some t') : t'.sum g = t.sum g + g k r := by
  simp [sum, rows_insert h]

theorem sum_congr {t : Table κ ρ} {f g : κ → ρ → ℤ}
    (h : ∀ k r, t.get? k = some r → f k r = g k r) : t.sum f = t.sum g := by
  unfold sum
  rw [List.map_congr_left (fun row hrow => h row.1 row.2 ((t.get?_eq_some row.1 row.2).2 hrow))]

omit [DecidableEq κ] in
theorem count_eq_sum (t : Table κ ρ) (p : κ → ρ → Bool) :
    (t.count p : ℤ) = t.sum (fun k r => if p k r then 1 else 0) := by
  simp only [count, select, sum]
  induction t.rows with
  | nil => rfl
  | cons row rows ih =>
    simp only [List.filter_cons, List.map_cons, List.sum_cons, ← ih]
    split_ifs <;> simp [add_comm]

/-- Rows are counted at most once for each key that is counted in the other table. -/
theorem count_le_count {ρ' : Type} {t : Table κ ρ} {t' : Table κ ρ'} {p : κ → ρ → Bool}
    {p' : κ → ρ' → Bool}
    (h : ∀ k r', t'.get? k = some r' → p' k r' = true → ∃ r, t.get? k = some r ∧ p k r = true) :
    t'.count p' ≤ t.count p := by
  have hsubset : (t'.select p').map Prod.fst ⊆ (t.select p).map Prod.fst := by
    intro k hk
    obtain ⟨r', hget, hp'⟩ := (t'.mem_select_keys p' k).1 hk
    exact (t.mem_select_keys p k).2 (h k r' hget hp')
  have hle := (List.subperm_of_subset (t'.select_keys_nodup p') hsubset).length_le
  simpa [count] using hle

theorem count_insert {t t' : Table κ ρ} {k : κ} {r : ρ} (p : κ → ρ → Bool)
    (h : t.insert? k r = some t') : t'.count p = t.count p + if p k r then 1 else 0 := by
  simp only [count, select, rows_insert h, List.filter_append, List.length_append,
    List.filter_singleton]
  split_ifs <;> simp_all

end Table

section Consecutive
variable {ρ : Type} {t t' : Table ℕ ρ} {n : ℕ} {rows : List ρ}

/-- Rows are inserted under consecutive keys. -/
def Table.insertFrom? (t : Table ℕ ρ) (n : ℕ) : List ρ → Option (Table ℕ ρ)
  | [] => some t
  | r :: rows => (t.insert? n r).bind (fun t' => t'.insertFrom? (n + 1) rows)

theorem insertFrom_cons {r : ρ} :
    t.insertFrom? n (r :: rows) = some t' ↔
      ∃ mid, t.insert? n r = some mid ∧ mid.insertFrom? (n + 1) rows = some t' := by
  rw [Table.insertFrom?, Option.bind_eq_some_iff]

theorem get?_insertFrom (h : t.insertFrom? n rows = some t') (k : ℕ) :
    t'.get? k = if n ≤ k ∧ k < n + rows.length then rows[k - n]? else t.get? k := by
  induction rows generalizing t n with
  | nil =>
    obtain rfl := Option.some.inj h
    rw [if_neg]
    simp only [List.length_nil]
    omega
  | cons r rows ih =>
    obtain ⟨mid, hfirst, hrest⟩ := insertFrom_cons.1 h
    rw [ih hrest, Table.get?_insert hfirst]
    simp only [List.length_cons]
    rcases Nat.lt_trichotomy k n with hlt | rfl | hgt
    · rw [if_neg (by omega), if_neg (by omega), if_neg (by omega)]
    · rw [if_neg (by omega), if_pos rfl, if_pos (by omega), Nat.sub_self, List.getElem?_cons_zero]
    · obtain ⟨m, rfl⟩ : ∃ m, k = n + 1 + m := ⟨k - n - 1, by omega⟩
      have hshift : n + 1 + m - n = m + 1 := by omega
      rw [hshift, List.getElem?_cons_succ, Nat.add_sub_cancel_left, if_neg (by omega : ¬ n + 1 + m = n)]
      split_ifs <;> first | rfl | omega

theorem insertFrom_new (h : t.insertFrom? n rows = some t') {k : ℕ} (hle : n ≤ k)
    (hlt : k < n + rows.length) : ∃ r ∈ rows, t'.get? k = some r := by
  have hbound : k - n < rows.length := by omega
  refine ⟨rows[k - n], List.getElem_mem hbound, ?_⟩
  rw [get?_insertFrom h, if_pos ⟨hle, hlt⟩, List.getElem?_eq_getElem hbound]

theorem insertFrom_old (h : t.insertFrom? n rows = some t') {k : ℕ}
    (hk : ¬ (n ≤ k ∧ k < n + rows.length)) : t'.get? k = t.get? k := by
  rw [get?_insertFrom h, if_neg hk]

/-- A stored row is one of the new rows, under a key of their range, or it was stored before. -/
theorem insertFrom_cases (h : t.insertFrom? n rows = some t') {k : ℕ} {r : ρ}
    (hr : t'.get? k = some r) :
    (n ≤ k ∧ k < n + rows.length) ∧ r ∈ rows ∨ t.get? k = some r := by
  by_cases hk : n ≤ k ∧ k < n + rows.length
  · obtain ⟨r', hmem, hr'⟩ := insertFrom_new h hk.1 hk.2
    obtain rfl := Option.some.inj (hr.symm.trans hr')
    exact .inl ⟨hk, hmem⟩
  · exact .inr ((insertFrom_old h hk).symm.trans hr)

theorem length_insertFrom (h : t.insertFrom? n rows = some t') :
    t'.rows.length = t.rows.length + rows.length := by
  induction rows generalizing t n with
  | nil =>
    obtain rfl := Option.some.inj h
    rfl
  | cons r rows ih =>
    obtain ⟨mid, hfirst, hrest⟩ := insertFrom_cons.1 h
    rw [ih hrest, Table.rows_insert hfirst, List.length_append, List.length_cons]
    simp only [List.length_cons, List.length_nil]
    omega

theorem sum_insertFrom (g : ρ → ℤ) (h : t.insertFrom? n rows = some t') :
    t'.sum (fun _ => g) = t.sum (fun _ => g) + (rows.map g).sum := by
  induction rows generalizing t n with
  | nil =>
    obtain rfl := Option.some.inj h
    simp
  | cons r rows ih =>
    obtain ⟨mid, hfirst, hrest⟩ := insertFrom_cons.1 h
    rw [ih hrest, Table.sum_insert _ hfirst, List.map_cons, List.sum_cons]
    ring

theorem insertFrom_of_fresh (h : ∀ k, n ≤ k → t.get? k = none) :
    ∃ t', t.insertFrom? n rows = some t' := by
  induction rows generalizing t n with
  | nil => exact ⟨t, rfl⟩
  | cons r rows ih =>
    obtain ⟨mid, hfirst⟩ := Table.insert_of_fresh (r := r) (h n (Nat.le_refl n))
    have hmid : ∀ k, n + 1 ≤ k → mid.get? k = none := by
      intro k hk
      rw [Table.get?_insert hfirst, if_neg (by omega)]
      exact h k (by omega)
    obtain ⟨t', hrest⟩ := ih hmid
    exact ⟨t', insertFrom_cons.2 ⟨mid, hfirst, hrest⟩⟩

/-- The first key is taken. -/
theorem insertFrom_taken (h : (t.get? n).isSome) (hrows : rows ≠ []) :
    t.insertFrom? n rows = none := by
  obtain ⟨taken, htaken⟩ := Option.isSome_iff_exists.1 h
  cases rows with
  | nil => exact absurd rfl hrows
  | cons r rows => rw [Table.insertFrom?, Table.insert_of_taken htaken, Option.bind_none]

end Consecutive
end RoozDataCloud.KeyedTable
