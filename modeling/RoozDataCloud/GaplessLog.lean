import RoozDataCloud.NumberedLog
import Mathlib.Data.List.Sort

set_option autoImplicit false

/-!
# Logs without gaps

A log numbered by consecutive numbers from the first one that is retained. Rows
are added after the last one, and a page of the log lists the rows that follow a
position in the order of their numbers.
-/
namespace RoozDataCloud.GaplessLog
open KeyedTable NumberedLog

variable {ρ : Type} {t t' : Table ℕ ρ} {first after limit : ℕ}

def last (t : Table ℕ ρ) : ℕ := (t.rows.map Prod.fst).foldr max 0

def first? (t : Table ℕ ρ) : Option ℕ := (t.rows.map Prod.fst).min?

def page (t : Table ℕ ρ) (after limit : ℕ) : List (ℕ × ρ) :=
  ((t.select (fun n _ => after < n)).insertionSort (fun a b => a.1 ≤ b.1)).take limit

/-- Several rows are inserted in turn. -/
def insertAll? (t : Table ℕ ρ) : List (ℕ × ρ) → Option (Table ℕ ρ)
  | [] => some t
  | row :: rows => (t.insert? row.1 row.2).bind (fun t' => insertAll? t' rows)

structure Gapless (first : ℕ) (t : Table ℕ ρ) : Prop where
  pos : 1 ≤ first
  start : first ≤ last t + 1
  span : ∀ n, (t.get? n).isSome ↔ first ≤ n ∧ n ≤ last t

theorem mem_keys {n : ℕ} : n ∈ t.rows.map Prod.fst ↔ (t.get? n).isSome := by
  rw [← not_iff_not, ← t.get?_eq_none, Option.not_isSome_iff_eq_none]

theorem foldr_max_mem {items : List ℕ} (h : items.foldr max 0 ≠ 0) : items.foldr max 0 ∈ items := by
  induction items with
  | nil => exact absurd rfl h
  | cons n items ih =>
    rw [List.foldr_cons] at h ⊢
    rcases max_choice n (items.foldr max 0) with hmax | hmax
    · rw [hmax]
      exact List.mem_cons_self
    · rw [hmax] at h ⊢
      exact List.mem_cons_of_mem n (ih h)

theorem last_eq {m : ℕ} (hle : ∀ n, (t.get? n).isSome → n ≤ m)
    (hm : m = 0 ∨ (t.get? m).isSome) : last t = m := by
  apply Nat.le_antisymm
  · by_cases hzero : last t = 0
    · rw [hzero]
      exact Nat.zero_le m
    · exact hle _ (mem_keys.1 (foldr_max_mem hzero))
  · rcases hm with rfl | hm
    · exact Nat.zero_le _
    · exact le_foldr_max (mem_keys.2 hm)

/-- The first number is not after any position of the log. -/
theorem Gapless.first?_le (h : Gapless first t) {minimum : ℕ} (hmin : first? t = some minimum) :
    minimum ≤ first := by
  obtain ⟨hmem, hle⟩ := List.min?_eq_some_iff.1 hmin
  have hsome := (h.span minimum).1 (mem_keys.1 hmem)
  apply hle
  rw [mem_keys, h.span]
  omega

theorem insertAll_consecutive (n : ℕ) (rows : List (ℕ × ρ))
    (h : rows.map Prod.fst = List.range' n rows.length) :
    insertAll? t rows = t.insertFrom? n (rows.map Prod.snd) := by
  induction rows generalizing t n with
  | nil => rfl
  | cons row rows ih =>
    rw [List.map_cons, List.length_cons, List.range'_succ, List.cons.injEq] at h
    obtain ⟨hfirst, hrest⟩ := h
    simp only [insertAll?, List.map_cons, Table.insertFrom?, hfirst, ih (n + 1) hrest]

/-- Rows that are numbered on from the last one go in and leave no gap. -/
theorem Gapless.insertAll (h : Gapless first t) {rows : List (ℕ × ρ)}
    (hrows : rows.map Prod.fst = List.range' (last t + 1) rows.length) :
    ∃ t', insertAll? t rows = some t' ∧ Gapless first t' ∧ last t' = last t + rows.length ∧
      ∀ n r, t.get? n = some r → t'.get? n = some r := by
  have hfresh : ∀ n, last t + 1 ≤ n → t.get? n = none := by
    intro n hn
    rw [← Option.not_isSome_iff_eq_none, h.span]
    omega
  obtain ⟨t', hinsert⟩ : ∃ t', t.insertFrom? (last t + 1) (rows.map Prod.snd) = some t' :=
    insertFrom_of_fresh hfresh
  have hget := get?_insertFrom hinsert
  rw [List.length_map] at hget
  have hstart := h.start
  have hspan : ∀ n, (t'.get? n).isSome ↔ first ≤ n ∧ n ≤ last t + rows.length := by
    intro n
    rw [hget]
    split_ifs with hn
    · rw [List.getElem?_eq_getElem (by rw [List.length_map]; omega)]
      refine iff_of_true rfl ?_
      omega
    · rw [h.span]
      omega
  have hlast : last t' = last t + rows.length := by
    refine last_eq (fun n hn => ((hspan n).1 hn).2) ?_
    rw [hspan]
    by_cases hempty : last t = 0
    · omega
    · have hfirst := ((h.span _).1 (mem_keys.1 (foldr_max_mem hempty))).1
      exact .inr ⟨hfirst.trans (Nat.le_add_right _ _), Nat.le_refl _⟩
  refine ⟨t', (insertAll_consecutive _ rows hrows).trans hinsert, ⟨h.pos, ?_, ?_⟩, hlast, ?_⟩
  · omega
  · rw [hlast]
    exact hspan
  · intro n r hr
    have hn := (h.span n).1 (by rw [hr]; rfl)
    rw [hget, if_neg (by omega)]
    exact hr

theorem mem_page {row : ℕ × ρ} (h : row ∈ page t after limit) : t.get? row.1 = some row.2 :=
  (Table.mem_take_sorted h).1

/-- A page goes on from its position without a gap. -/
theorem Gapless.page_numbers (h : Gapless first t) (hafter : first ≤ after + 1) (limit : ℕ) :
    (page t after limit).map Prod.fst = List.range' (after + 1) (min limit (last t - after)) := by
  have hsorted : ((t.select (fun n _ => after < n)).insertionSort
      (fun a b => a.1 ≤ b.1)).map Prod.fst = List.range' (after + 1) (last t - after) := by
    apply List.Perm.eq_of_pairwise (fun a b _ _ hab hba => Nat.le_antisymm hab hba)
    · rw [List.pairwise_map]
      exact List.pairwise_insertionSort (fun a b : ℕ × ρ => a.1 ≤ b.1) _
    · exact (List.pairwise_lt_range' (s := after + 1)).imp Nat.le_of_lt
    · refine ((List.perm_insertionSort _ _).map Prod.fst).trans ?_
      rw [List.perm_ext_iff_of_nodup (t.select_keys_nodup _) (List.nodup_range' ..)]
      intro n
      rw [t.mem_select_keys, List.mem_range'_1]
      have hspan := h.span n
      constructor
      · rintro ⟨r, hget, hn⟩
        have hn := of_decide_eq_true hn
        have hle := (hspan.1 (by rw [hget]; rfl)).2
        omega
      · intro hn
        obtain ⟨r, hget⟩ := Option.isSome_iff_exists.1 (hspan.2 (by omega))
        exact ⟨r, hget, decide_eq_true (by omega)⟩
  rw [page, List.map_take, hsorted]
  rcases Nat.le_total limit (last t - after) with hle | hle
  · rw [List.take_range'_of_length_ge hle, Nat.min_eq_left hle]
  · rw [List.take_range'_of_length_le hle, Nat.min_eq_right hle]

/-- A page that is not limited to nothing is empty at the end of the log only. -/
theorem Gapless.page_nil (h : Gapless first t) (hafter : first ≤ after + 1) (hlimit : 1 ≤ limit)
    (hpage : page t after limit = []) : last t ≤ after := by
  have hnumbers := congrArg List.length (h.page_numbers hafter limit)
  rw [hpage, List.map_nil, List.length_nil, List.length_range'] at hnumbers
  omega

end RoozDataCloud.GaplessLog
