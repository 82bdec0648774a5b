import Mathlib.Data.List.Nodup
import Mathlib.Data.List.Range
import Mathlib.Data.List.Perm.Subperm
import Mathlib.Logic.Function.Basic

set_option autoImplicit false

/-!
# Attempt-limited leases on sources of work

A source waits, is held by a lease, or is closed, and counts how often it was
taken. A board is sound when a source is held exactly while one live lease is on
it, the leases of a source carry distinct attempts, and no source is taken more
often than the limit allows. Three operations cover every change: a new source,
a lease taken on a waiting one, and a set of sources reset with all their leases
ended.
-/
namespace RoozDataCloud.LeaseBoard

inductive Phase where
  | waiting | held | closed
  deriving DecidableEq

structure Holding (S : Type) where
  source : S
  attempt : ℕ
  live : Bool

@[ext] structure Board (S L : Type) where
  source : S → Option (Phase × ℕ)
  lease : L → Option (Holding S)

namespace Board
variable {S L : Type}

structure Sound (limit : ℕ) (b : Board S L) : Prop where
  live_held : ∀ l h, b.lease l = some h → h.live = true →
    b.source h.source = some (.held, h.attempt)
  held_live : ∀ s n, b.source s = some (.held, n) →
    ∃ l h, b.lease l = some h ∧ h.source = s ∧ h.live = true
  counted : ∀ l h, b.lease l = some h →
    ∃ p n, b.source h.source = some (p, n) ∧ 1 ≤ h.attempt ∧ h.attempt ≤ n
  distinct : ∀ l l' h h', b.lease l = some h → b.lease l' = some h' → h.source = h'.source →
    h.attempt = h'.attempt → l = l'
  spare : ∀ s n, b.source s = some (.waiting, n) → n < limit
  bounded : ∀ s p n, b.source s = some (p, n) → n ≤ limit

variable {limit : ℕ} {b : Board S L}

theorem Sound.live_unique (hb : b.Sound limit) {l l' : L} {h h' : Holding S}
    (hl : b.lease l = some h) (hl' : b.lease l' = some h') (hs : h.source = h'.source)
    (hlive : h.live = true) (hlive' : h'.live = true) : l = l' := by
  have hheld := hb.live_held l h hl hlive
  have hheld' := hb.live_held l' h' hl' hlive'
  rw [hs, hheld'] at hheld
  have ha : h'.attempt = h.attempt := by
    injection hheld with hpair
    exact congrArg Prod.snd hpair
  exact hb.distinct l l' h h' hl hl' hs ha.symm

theorem Sound.not_live (hb : b.Sound limit) {l : L} {h : Holding S} {p : Phase} {n : ℕ}
    (hl : b.lease l = some h) (hs : b.source h.source = some (p, n)) (hp : p ≠ .held) :
    h.live = false := by
  cases hlive : h.live with
  | false => rfl
  | true =>
    have hheld := hb.live_held l h hl hlive
    rw [hs] at hheld
    injection hheld with hpair
    exact absurd (congrArg Prod.fst hpair) hp

/-- The leases ever taken on one source are no more than the limit. -/
theorem Sound.leases_le (hb : b.Sound limit) (s : S) (ls : List L) (hn : ls.Nodup)
    (hls : ∀ l ∈ ls, ∃ h, b.lease l = some h ∧ h.source = s) : ls.length ≤ limit := by
  classical
  let attempt : L → ℕ := fun l => ((b.lease l).map Holding.attempt).getD 0
  have hinj : ∀ l ∈ ls, ∀ l' ∈ ls, attempt l = attempt l' → l = l' := by
    intro l hl l' hl' he
    obtain ⟨h, hlease, hs⟩ := hls l hl
    obtain ⟨h', hlease', hs'⟩ := hls l' hl'
    simp only [attempt, hlease, hlease', Option.map_some, Option.getD_some] at he
    exact hb.distinct l l' h h' hlease hlease' (hs.trans hs'.symm) he
  have hrange : ls.map attempt ⊆ List.range' 1 limit := by
    intro n hmem
    obtain ⟨l, hl, rfl⟩ := List.mem_map.1 hmem
    obtain ⟨h, hlease, -⟩ := hls l hl
    obtain ⟨p, n, hsource, hone, hle⟩ := hb.counted l h hlease
    have hbound := hb.bounded _ _ _ hsource
    simp only [attempt, hlease, Option.map_some, Option.getD_some, List.mem_range'_1]
    omega
  have hnodup : (ls.map attempt).Nodup := (List.nodup_map_iff_inj_on hn).2 hinj
  have hlen := (hnodup.subperm hrange).length_le
  simpa using hlen

section Operations
open Function

variable [DecidableEq S] [DecidableEq L]

def submit (b : Board S L) (s : S) : Board S L :=
  { b with source := update b.source s (some (.waiting, 0)) }

def take (b : Board S L) (s : S) (l : L) (n : ℕ) : Board S L where
  source := update b.source s (some (.held, n + 1))
  lease := update b.lease l (some ⟨s, n + 1, true⟩)

/-- Every lease on a source of `F` ends; `g` says what becomes of the sources. -/
def reset (b : Board S L) (F : S → Bool) (g : Phase × ℕ → Phase × ℕ) : Board S L where
  source := fun s => if F s then (b.source s).map g else b.source s
  lease := fun l => (b.lease l).map (fun h => { h with live := h.live && !F h.source })

omit [DecidableEq L] in
theorem submit_source (b : Board S L) (s s' : S) :
    (b.submit s).source s' = if s' = s then some (.waiting, 0) else b.source s' :=
  update_apply ..

theorem take_source (b : Board S L) (s s' : S) (l : L) (n : ℕ) :
    (b.take s l n).source s' = if s' = s then some (.held, n + 1) else b.source s' :=
  update_apply ..

theorem take_lease (b : Board S L) (s : S) (l l' : L) (n : ℕ) :
    (b.take s l n).lease l' = if l' = l then some ⟨s, n + 1, true⟩ else b.lease l' :=
  update_apply ..

omit [DecidableEq L] in
theorem Sound.submit (hb : b.Sound limit) {s : S} (hs : b.source s = none) (hl : 0 < limit) :
    (b.submit s).Sound limit := by
  have hne : ∀ {l : L} {h : Holding S}, b.lease l = some h → h.source ≠ s := by
    intro l h hlease he
    obtain ⟨p, n, hsource, -⟩ := hb.counted l h hlease
    rw [he, hs] at hsource
    cases hsource
  constructor
  · intro l h hlease hlive
    rw [submit_source, if_neg (hne hlease)]
    exact hb.live_held l h hlease hlive
  · intro s' n hsource
    rw [submit_source] at hsource
    split_ifs at hsource with he
    · cases hsource
    · exact hb.held_live s' n hsource
  · intro l h hlease
    rw [submit_source, if_neg (hne hlease)]
    exact hb.counted l h hlease
  · exact hb.distinct
  · intro s' n hsource
    rw [submit_source] at hsource
    split_ifs at hsource with he
    · cases hsource
      exact hl
    · exact hb.spare s' n hsource
  · intro s' p n hsource
    rw [submit_source] at hsource
    split_ifs at hsource with he
    · cases hsource
      exact Nat.zero_le limit
    · exact hb.bounded s' p n hsource

theorem Sound.take (hb : b.Sound limit) {s : S} {l : L} {n : ℕ}
    (hs : b.source s = some (.waiting, n)) (hl : b.lease l = none) :
    (b.take s l n).Sound limit := by
  have hold : ∀ {l' : L} {h : Holding S}, b.lease l' = some h → l' ≠ l := by
    intro l' h hlease he
    rw [he, hl] at hlease
    cases hlease
  have hless : ∀ {l' : L} {h : Holding S}, b.lease l' = some h → h.source = s →
      h.live = false ∧ h.attempt ≤ n := by
    intro l' h hlease he
    obtain ⟨p, m, hsource, -, hle⟩ := hb.counted l' h hlease
    rw [he, hs] at hsource
    cases hsource
    exact ⟨hb.not_live hlease (he ▸ hs) (by decide), hle⟩
  constructor
  · intro l' h hlease hlive
    rw [take_lease] at hlease
    split_ifs at hlease with he
    · cases hlease
      rw [take_source, if_pos rfl]
    · have hne : h.source ≠ s := by
        intro hsource
        rw [(hless hlease hsource).1] at hlive
        cases hlive
      rw [take_source, if_neg hne]
      exact hb.live_held l' h hlease hlive
  · intro s' m hsource
    rw [take_source] at hsource
    split_ifs at hsource with he
    · exact ⟨l, _, by rw [take_lease, if_pos rfl], he.symm, rfl⟩
    · obtain ⟨l', h, hlease, hsrc, hlive⟩ := hb.held_live s' m hsource
      exact ⟨l', h, by rw [take_lease, if_neg (hold hlease)]; exact hlease, hsrc, hlive⟩
  · intro l' h hlease
    rw [take_lease] at hlease
    split_ifs at hlease with he
    · cases hlease
      exact ⟨.held, n + 1, by rw [take_source, if_pos rfl], Nat.le_add_left 1 n, le_refl _⟩
    · obtain ⟨p, m, hsource, hone, hle⟩ := hb.counted l' h hlease
      by_cases hsrc : h.source = s
      · have hn := (hless hlease hsrc).2
        exact ⟨.held, n + 1, by rw [take_source, if_pos hsrc], hone, by omega⟩
      · exact ⟨p, m, by rw [take_source, if_neg hsrc]; exact hsource, hone, hle⟩
  · intro l' l'' h' h'' hlease' hlease'' hsrc ha
    rw [take_lease] at hlease' hlease''
    split_ifs at hlease' hlease'' with he' he'' he''
    · exact he'.trans he''.symm
    · cases hlease'
      have hn := (hless hlease'' hsrc.symm).2
      simp only at ha
      omega
    · cases hlease''
      have hn := (hless hlease' hsrc).2
      simp only at ha
      omega
    · exact hb.distinct l' l'' h' h'' hlease' hlease'' hsrc ha
  · intro s' m hsource
    rw [take_source] at hsource
    split_ifs at hsource with he
    · cases hsource
    · exact hb.spare s' m hsource
  · intro s' p m hsource
    rw [take_source] at hsource
    split_ifs at hsource with he
    · cases hsource
      exact hb.spare s n hs
    · exact hb.bounded s' p m hsource

/-- What a reset may do to one source: leave it unheld, with attempts to spare if it waits. -/
def Admissible (limit : ℕ) (x y : Phase × ℕ) : Prop :=
  y.1 ≠ .held ∧ x.2 ≤ y.2 ∧ y.2 ≤ limit ∧ (y.1 = .waiting → y.2 < limit)

omit [DecidableEq S] [DecidableEq L] in
theorem Sound.reset (hb : b.Sound limit) {F : S → Bool} {g : Phase × ℕ → Phase × ℕ}
    (hg : ∀ s x, F s = true → b.source s = some x → Admissible limit x (g x)) :
    (b.reset F g).Sound limit := by
  constructor
  · intro l h hlease hlive
    obtain ⟨h', hlease', rfl⟩ := Option.map_eq_some_iff.1 hlease
    simp only [Bool.and_eq_true, Bool.not_eq_true'] at hlive
    simp only [Board.reset, hlive.2, Bool.false_eq_true, ↓reduceIte]
    exact hb.live_held l h' hlease' hlive.1
  · intro s n hsource
    simp only [Board.reset] at hsource
    split_ifs at hsource with hF
    · obtain ⟨x, hx, hgx⟩ := Option.map_eq_some_iff.1 hsource
      exact absurd (congrArg Prod.fst hgx) (hg s x hF hx).1
    · obtain ⟨l, h, hlease, hs, hlive⟩ := hb.held_live s n hsource
      exact ⟨l, _, Option.map_eq_some_iff.2 ⟨h, hlease, rfl⟩, hs, by simp [hlive, hs, hF]⟩
  · intro l h hlease
    obtain ⟨h', hlease', rfl⟩ := Option.map_eq_some_iff.1 hlease
    obtain ⟨p, n, hsource, hone, hle⟩ := hb.counted l h' hlease'
    simp only [Board.reset]
    split_ifs with hF
    · have ha := hg _ _ hF hsource
      exact ⟨(g (p, n)).1, (g (p, n)).2, by rw [hsource]; rfl, hone, hle.trans ha.2.1⟩
    · exact ⟨p, n, hsource, hone, hle⟩
  · intro l l' h h' hlease hlease' hs ha
    obtain ⟨k, hk, rfl⟩ := Option.map_eq_some_iff.1 hlease
    obtain ⟨k', hk', rfl⟩ := Option.map_eq_some_iff.1 hlease'
    exact hb.distinct l l' k k' hk hk' hs ha
  · intro s n hsource
    simp only [Board.reset] at hsource
    split_ifs at hsource with hF
    · obtain ⟨x, hx, hgx⟩ := Option.map_eq_some_iff.1 hsource
      have ha := hg s x hF hx
      rw [hgx] at ha
      exact ha.2.2.2 rfl
    · exact hb.spare s n hsource
  · intro s p n hsource
    simp only [Board.reset] at hsource
    split_ifs at hsource with hF
    · obtain ⟨x, hx, hgx⟩ := Option.map_eq_some_iff.1 hsource
      have ha := hg s x hF hx
      rw [hgx] at ha
      exact ha.2.2.1
    · exact hb.bounded s p n hsource

end Operations
end Board
end RoozDataCloud.LeaseBoard
