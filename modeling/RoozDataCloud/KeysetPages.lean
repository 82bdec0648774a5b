import Mathlib.Data.List.Sort

set_option autoImplicit false

/-!
# Pages behind cursors

A list that is read page by page. A page is the first rows of what is left; its
cursor stands for the rows after them.
-/
namespace RoozDataCloud.KeysetPages

section Walks
variable {α γ ε : Type}

/-- Ask for one page after the other, until one comes without a cursor. -/
def walk (fetch : Option γ → Except ε (List α × Option γ)) :
    ℕ → Option γ → Except ε (Option (List (List α)))
  | 0, _ => .ok none
  | fuel + 1, cursor =>
    match fetch cursor with
    | .error e => .error e
    | .ok (page, none) => .ok (some [page])
    | .ok (page, some next) =>
      match walk fetch fuel (some next) with
      | .error e => .error e
      | .ok pages => .ok (pages.map (page :: ·))

/-- The answer to a cursor with `rest` behind it: some rows, and a cursor for the others unless
there are none. -/
def Serves (fetch : Option γ → Except ε (List α × Option γ)) (Left : Option γ → List α → Prop)
    (limit : ℕ) : Prop :=
  ∀ cursor rest, Left cursor rest →
    (rest.length ≤ limit ∧ fetch cursor = .ok (rest, none)) ∨
    (limit < rest.length ∧ ∃ next, fetch cursor = .ok (rest.take limit, some next) ∧
      Left (some next) (rest.drop limit))

variable {fetch : Option γ → Except ε (List α × Option γ)} {Left : Option γ → List α → Prop}
  {limit : ℕ}

theorem walk_done (hserves : Serves fetch Left limit) {fuel : ℕ} {cursor : Option γ}
    {rest : List α} {pages : List (List α)} (hleft : Left cursor rest)
    (h : walk fetch fuel cursor = .ok (some pages)) : pages.flatten = rest := by
  induction fuel generalizing cursor rest pages with
  | zero => cases h
  | succ fuel ih =>
    rcases hserves cursor rest hleft with ⟨-, hfetch⟩ | ⟨-, next, hfetch, hnext⟩
    · simp only [walk, hfetch, Except.ok.injEq, Option.some.injEq] at h
      simp [← h]
    · simp only [walk, hfetch] at h
      cases hlater : walk fetch fuel (some next) with
      | error e => simp [hlater] at h
      | ok later =>
        simp only [hlater, Except.ok.injEq, Option.map_eq_some_iff] at h
        obtain ⟨later, rfl, rfl⟩ := h
        rw [List.flatten_cons, ih hnext hlater, List.take_append_drop]

theorem walk_ends (hserves : Serves fetch Left limit) (hlimit : 0 < limit) {fuel : ℕ}
    {cursor : Option γ} {rest : List α} (hleft : Left cursor rest) (hfuel : rest.length < fuel) :
    ∃ pages, walk fetch fuel cursor = .ok (some pages) := by
  induction fuel generalizing cursor rest with
  | zero => omega
  | succ fuel ih =>
    rcases hserves cursor rest hleft with ⟨-, hfetch⟩ | ⟨hmore, next, hfetch, hnext⟩
    · exact ⟨[rest], by simp only [walk, hfetch]⟩
    · have hshorter : (rest.drop limit).length < fuel := by
        rw [List.length_drop]
        omega
      obtain ⟨pages, hpages⟩ := ih hnext hshorter
      exact ⟨rest.take limit :: pages, by simp [walk, hfetch, hpages]⟩

/-- The cursors that come up when the pages are followed. -/
inductive Reached (fetch : Option γ → Except ε (List α × Option γ)) : Option γ → Prop where
  | first : Reached fetch none
  | next {cursor : Option γ} {page : List α} {next : γ} (hcursor : Reached fetch cursor)
    (hfetch : fetch cursor = .ok (page, some next)) : Reached fetch (some next)

/-- A cursor that has come up stands for the rows at the end of the list; there are some, unless the
list is empty. -/
theorem reached_left (hserves : Serves fetch Left limit) {rows : List α} (hrows : Left none rows)
    {cursor : Option γ} (h : Reached fetch cursor) :
    ∃ front rest, rows = front ++ rest ∧ Left cursor rest ∧ (rest = [] → rows = []) := by
  induction h with
  | first => exact ⟨[], rows, rfl, hrows, id⟩
  | next _ hfetch ih =>
    obtain ⟨front, rest, rfl, hleft, -⟩ := ih
    rcases hserves _ rest hleft with ⟨-, hlast⟩ | ⟨hmore, next, hpage, hnext⟩
    · rw [hlast] at hfetch
      simp at hfetch
    · rw [hpage] at hfetch
      simp only [Except.ok.injEq, Prod.mk.injEq, Option.some.injEq] at hfetch
      obtain ⟨-, rfl⟩ := hfetch
      refine ⟨front ++ rest.take limit, rest.drop limit, ?_, hnext, fun hnone => ?_⟩
      · rw [List.append_assoc, List.take_append_drop]
      · rw [List.drop_eq_nil_iff] at hnone
        omega

/-- There is a cursor with a page exactly when a row comes behind those of the page. -/
theorem more_iff (hserves : Serves fetch Left limit) {rows : List α} (hrows : Left none rows)
    {before : α → α → Prop} (hordered : rows.Pairwise before)
    (hasymm : ∀ a b, before a b → ¬ before b a) {cursor : Option γ} {page : List α}
    {next : Option γ} (hreached : Reached fetch cursor) (hfetch : fetch cursor = .ok (page, next)) :
    next.isSome = true ↔ ∃ row ∈ rows, ∀ other ∈ page, before other row := by
  obtain ⟨front, rest, rfl, hleft, hempty⟩ := reached_left hserves hrows hreached
  obtain ⟨-, hrest, hcross⟩ := List.pairwise_append.1 hordered
  rcases hserves cursor rest hleft with ⟨-, hlast⟩ | ⟨hmore, following, hpage, -⟩
  · rw [hlast] at hfetch
    simp only [Except.ok.injEq, Prod.mk.injEq] at hfetch
    obtain ⟨rfl, rfl⟩ := hfetch
    refine ⟨nofun, ?_⟩
    rintro ⟨row, hrow, hbehind⟩
    rcases List.mem_append.1 hrow with hfront | hrow
    · -- the rows that are left come after `row`, and there are some
      cases rest with
      | nil => simp [hempty rfl] at hrow
      | cons first rest =>
        exact absurd (hcross row hfront first List.mem_cons_self)
          (hasymm _ _ (hbehind first List.mem_cons_self))
    · exact absurd (hbehind row hrow) (fun hself => hasymm row row hself hself)
  · rw [hpage] at hfetch
    simp only [Except.ok.injEq, Prod.mk.injEq] at hfetch
    obtain ⟨rfl, rfl⟩ := hfetch
    refine ⟨fun _ => ?_, fun _ => rfl⟩
    obtain ⟨row, hrow⟩ : ∃ row, row ∈ rest.drop limit := by
      refine List.exists_mem_of_ne_nil _ fun hnone => ?_
      rw [List.drop_eq_nil_iff] at hnone
      omega
    refine ⟨row, List.mem_append_right front (List.mem_of_mem_drop hrow), fun other hother => ?_⟩
    rw [← List.take_append_drop limit rest] at hrest
    exact (List.pairwise_append.1 hrest).2.2 other hother row hrow

end Walks

section Positions
variable {α γ ε : Type} {fetch : Option γ → Except ε (List α × Option γ)} {limit : ℕ}

/-- The first rows of what is left, with the cursor of the last one if there are more. -/
def pageOf (cursorOf : α → γ) (limit : ℕ) (rest : List α) : List α × Option γ :=
  (rest.take limit, if limit < rest.length then (rest.take limit).getLast?.map cursorOf else none)

/-- The cursor that stands for `rest`: none at the beginning, and else the cursor of the row
before. -/
def Behind (cursorOf : α → γ) (rows : List α) (cursor : Option γ) (rest : List α) : Prop :=
  (cursor = none ∧ rest = rows) ∨
    ∃ before row, rows = before ++ row :: rest ∧ cursor = some (cursorOf row)

theorem serves_pages {cursorOf : α → γ} {rows : List α} (hlimit : 0 < limit)
    (h : ∀ cursor rest, Behind cursorOf rows cursor rest →
      fetch cursor = .ok (pageOf cursorOf limit rest)) :
    Serves fetch (Behind cursorOf rows) limit := by
  intro cursor rest hleft
  have hpage := h cursor rest hleft
  unfold pageOf at hpage
  by_cases hmore : limit < rest.length
  · right
    -- the page has a last row, since its limit is not zero
    obtain ⟨page, last, htake⟩ : ∃ page last, rest.take limit = page ++ [last] := by
      have hsome : rest.take limit ≠ [] := by
        rw [← List.length_pos_iff, List.length_take]
        omega
      exact ⟨_, _, (List.dropLast_append_getLast hsome).symm⟩
    rw [if_pos hmore, htake, List.getLast?_append, List.getLast?_singleton] at hpage
    refine ⟨hmore, _, htake ▸ hpage, .inr ?_⟩
    have hrest : rest = page ++ last :: rest.drop limit := by
      rw [List.append_cons, ← htake, List.take_append_drop]
    rcases hleft with ⟨-, hrows⟩ | ⟨before, row, hrows, -⟩
    · exact ⟨page, last, hrows ▸ hrest, rfl⟩
    · refine ⟨before ++ row :: page, last, ?_, rfl⟩
      rw [hrows, List.append_assoc, List.cons_append, ← hrest]
  · left
    rw [if_neg hmore, List.take_of_length_le (Nat.le_of_not_lt hmore)] at hpage
    exact ⟨Nat.le_of_not_lt hmore, hpage⟩

/-- The pages come to an end and have between them the rows, in their order. -/
theorem walk_rows {cursorOf : α → γ} {rows : List α}
    (hserves : Serves fetch (Behind cursorOf rows) limit) (hlimit : 0 < limit) :
    (∃ fuel pages, walk fetch fuel none = .ok (some pages)) ∧
      ∀ fuel pages, walk fetch fuel none = .ok (some pages) → pages.flatten = rows := by
  have hleft : Behind cursorOf rows none rows := .inl ⟨rfl, rfl⟩
  exact ⟨⟨_, walk_ends hserves hlimit hleft (Nat.lt_succ_self _)⟩,
    fun fuel pages hwalk => walk_done hserves hleft hwalk⟩

end Positions

/-- In a list that is in order, the rows later than one of them are those behind it. -/
theorem filter_later {α : Type} (later : α → α → Bool) {before behind : List α} {row : α}
    (hrow : later row row = false)
    (h : (before ++ row :: behind).Pairwise (fun a b => later a b = true ∧ later b a = false)) :
    (before ++ row :: behind).filter (later row) = behind := by
  obtain ⟨-, hbehind, hcross⟩ := List.pairwise_append.1 h
  have hbefore : before.filter (later row) = [] := by
    rw [List.filter_eq_nil_iff]
    intro a ha
    simp [(hcross a ha row List.mem_cons_self).2]
  have hkept : behind.filter (later row) = behind := by
    rw [List.filter_eq_self]
    intro b hb
    exact (List.rel_of_pairwise_cons hbehind hb).1
  rw [List.filter_append, hbefore, List.nil_append, List.filter_cons_of_neg (by simp [hrow]), hkept]

/-- Rows that a query keeps come in the order that they have among all. -/
theorem insertionSort_filter {α : Type} (r : α → α → Prop) [DecidableRel r] [Std.Total r]
    [IsTrans α r] (p : α → Bool) (rows : List α)
    (hanti : ∀ a ∈ rows, ∀ b ∈ rows, r a b → r b a → a = b) :
    (rows.filter p).insertionSort r = (rows.insertionSort r).filter p := by
  refine List.Perm.eq_of_pairwise (fun a b ha hb hab hba => ?_)
    (List.pairwise_insertionSort r _) ((List.pairwise_insertionSort r rows).filter p)
    ((List.perm_insertionSort r _).trans ((List.perm_insertionSort r rows).symm.filter p))
  have ha' := List.mem_of_mem_filter ((List.mem_insertionSort r).1 ha)
  have hb' := (List.mem_insertionSort r).1 (List.mem_of_mem_filter hb)
  exact hanti a ha' b hb' hab hba

end RoozDataCloud.KeysetPages
