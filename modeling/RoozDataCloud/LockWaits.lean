import Mathlib.Data.Fintype.Basic
import Mathlib.Logic.Function.Basic
import Mathlib.Logic.Relation
import Mathlib.Order.RelClasses
import RoozDataCloud.FallibleSteps

set_option autoImplicit false

/-!
# Transactions that wait for each other's locks

A transaction asks for the locks of its script one by one and holds what it was
granted until it finishes. Transactions that ask in a common order of the locks
never wait for each other in a circle.
-/
namespace RoozDataCloud.LockWaits
open FallibleSteps

/-- The modes of a lock, and which two of them cannot be held at once. -/
structure Modes (μ : Type) where
  conflicts : μ → μ → Bool
  symm : ∀ a b, conflicts a b = conflicts b a

/-- A request for a lock. One that does not wait is granted only when the lock is free. -/
structure Request (κ μ : Type) where
  key : κ
  mode : μ
  waits : Bool

structure Lock (τ κ μ : Type) where
  owner : τ
  key : κ
  mode : μ
  deriving DecidableEq

/-- The jobs in flight, the requests that each has still to make, and the locks granted. -/
structure Board (τ ι κ μ : Type) where
  job : τ → Option ι
  rest : τ → List (Request κ μ)
  locks : List (Lock τ κ μ)

inductive Move (τ ι : Type) where
  | start (t : τ) (j : ι)
  | take (t : τ)
  | finish (t : τ)

section Orders
variable {κ μ : Type} (M : Modes μ)

/-- What conflicts with `b` conflicts with `a`, so who holds `a` is never kept from `b`. -/
def Covers (a b : μ) : Prop := ∀ c, M.conflicts b c = true → M.conflicts a c = true

instance [Fintype μ] (a b : μ) : Decidable (Covers M a b) :=
  inferInstanceAs (Decidable (∀ c, M.conflicts b c = true → M.conflicts a c = true))

def Covered (taken : List (Request κ μ)) (r : Request κ μ) : Prop :=
  ∃ d ∈ taken, d.key = r.key ∧ Covers M d.mode r.mode

instance [DecidableEq κ] [Fintype μ] (taken : List (Request κ μ)) (r : Request κ μ) :
    Decidable (Covered M taken r) :=
  inferInstanceAs (Decidable (∃ d ∈ taken, d.key = r.key ∧ Covers M d.mode r.mode))

/-- A request that waits is for a lock after all that were taken, or for one that is covered. -/
def Above (before : κ → κ → Prop) (taken : List (Request κ μ)) (r : Request κ μ) : Prop :=
  r.waits = true → Covered M taken r ∨ ∀ d ∈ taken, before d.key r.key

instance [DecidableEq κ] [Fintype μ] (before : κ → κ → Prop) [DecidableRel before]
    (taken : List (Request κ μ)) (r : Request κ μ) : Decidable (Above M before taken r) :=
  inferInstanceAs (Decidable (_ → _ ∨ _))

/-- The requests follow the order after those in `taken`, the last of which comes first. -/
def Ascends (before : κ → κ → Prop) (taken : List (Request κ μ)) : List (Request κ μ) → Prop
  | [] => True
  | r :: rest => Above M before taken r ∧ Ascends before (r :: taken) rest

instance decidableAscends [DecidableEq κ] [Fintype μ] (before : κ → κ → Prop) [DecidableRel before] :
    (taken requests : List (Request κ μ)) → Decidable (Ascends M before taken requests)
  | _, [] => inferInstanceAs (Decidable True)
  | taken, r :: rest =>
    have := decidableAscends before (r :: taken) rest
    inferInstanceAs (Decidable (Above M before taken r ∧ Ascends M before (r :: taken) rest))

variable {M}

theorem ascends_append {before : κ → κ → Prop} {taken first last : List (Request κ μ)} :
    Ascends M before taken (first ++ last) ↔
      Ascends M before taken first ∧ Ascends M before (first.reverse ++ taken) last := by
  induction first generalizing taken with
  | nil => simp [Ascends]
  | cons r first ih => simp [Ascends, ih, and_assoc]

theorem covers_refl (a : μ) : Covers M a a := fun _ h => h

theorem ascends_covered {before : κ → κ → Prop} {taken requests : List (Request κ μ)}
    (h : ∀ r ∈ requests, Covered M taken r) : Ascends M before taken requests := by
  induction requests generalizing taken with
  | nil => trivial
  | cons r rest ih =>
    refine ⟨fun _ => .inl (h r List.mem_cons_self), ih (fun r' hr' => ?_)⟩
    obtain ⟨d, hd, hcovers⟩ := h r' (List.mem_cons_of_mem r hr')
    exact ⟨d, List.mem_cons_of_mem r hd, hcovers⟩

theorem ascends_free {before : κ → κ → Prop} {taken requests : List (Request κ μ)}
    (h : ∀ r ∈ requests, r.waits = false) : Ascends M before taken requests := by
  induction requests generalizing taken with
  | nil => trivial
  | cons r rest ih =>
    have hr : r.waits = false := h r List.mem_cons_self
    refine ⟨fun hwaits => ?_, ih (fun r' hr' => h r' (List.mem_cons_of_mem r hr'))⟩
    rw [hr] at hwaits
    cases hwaits

/-- Requests in one mode that follow the order, each perhaps made again. -/
theorem ascends_map (mode : μ) (waits : Bool) {before : κ → κ → Prop}
    {taken : List (Request κ μ)} {keys : List κ} (hkeys : keys.Pairwise (fun a b => a = b ∨ before a b))
    (htaken : ∀ k ∈ keys, ∀ d ∈ taken, before d.key k ∨ d.key = k ∧ d.mode = mode) :
    Ascends M before taken (keys.map (fun k => ⟨k, mode, waits⟩)) := by
  induction keys generalizing taken with
  | nil => trivial
  | cons k keys ih =>
    rw [List.pairwise_cons] at hkeys
    refine ⟨fun _ => ?_, ih hkeys.2 (fun k' hk' d hd => ?_)⟩
    · by_cases hagain : ∃ d ∈ taken, d.key = k ∧ d.mode = mode
      · obtain ⟨d, hd, hkey, hmode⟩ := hagain
        refine .inl ⟨d, hd, hkey, ?_⟩
        rw [hmode]
        exact covers_refl mode
      · refine .inr (fun d hd => ?_)
        rcases htaken k List.mem_cons_self d hd with hbefore | hsame
        · exact hbefore
        · exact absurd ⟨d, hd, hsame⟩ hagain
    · rcases List.mem_cons.1 hd with rfl | hd
      · rcases hkeys.1 k' hk' with hsame | hbefore
        · exact .inr ⟨hsame, rfl⟩
        · exact .inl hbefore
      · exact htaken k' (List.mem_cons_of_mem k hk') d hd

theorem rank_order {α : Type} [Preorder α] (rank : κ → α) :
    IsStrictOrder κ (fun a b => rank a < rank b) where
  irrefl a := lt_irrefl (rank a)
  trans _ _ _ := lt_trans

end Orders

/-- The modes of a row lock. An advisory lock is one that is held for update. -/
inductive RowMode where
  | keyShare | noKeyUpdate | update
  deriving DecidableEq

instance : Fintype RowMode where
  elems := {.keyShare, .noKeyUpdate, .update}
  complete a := by cases a <;> decide

def rowConflicts : RowMode → RowMode → Bool
  | .keyShare, .keyShare => false
  | .keyShare, .noKeyUpdate => false
  | .keyShare, .update => true
  | .noKeyUpdate, .keyShare => false
  | .noKeyUpdate, _ => true
  | .update, _ => true

def rowModes : Modes RowMode where
  conflicts := rowConflicts
  symm a b := by cases a <;> cases b <;> rfl

section Requests
variable {κ : Type}

/-- `SELECT ... FOR UPDATE` -/
def forUpdate (key : κ) : Request κ RowMode := ⟨key, .update, true⟩

/-- A row that `SELECT ... FOR UPDATE SKIP LOCKED` has returned. -/
def skipLocked (key : κ) : Request κ RowMode := ⟨key, .update, false⟩

/-- `UPDATE` of a row whose key columns stay. -/
def rowUpdate (key : κ) : Request κ RowMode := ⟨key, .noKeyUpdate, true⟩

/-- The row that an inserted row references. -/
def keyShare (key : κ) : Request κ RowMode := ⟨key, .keyShare, true⟩

end Requests

section Boards
variable {τ ι κ μ : Type} (M : Modes μ) (script : ι → List (Request κ μ))

variable (τ ι κ μ) in
def idle : Board τ ι κ μ := ⟨fun _ => none, fun _ => [], []⟩

def WaitsFor (board : Board τ ι κ μ) (t u : τ) : Prop :=
  ∃ r, (board.rest t).head? = some r ∧ r.waits = true ∧
    ∃ l ∈ board.locks, l.owner = u ∧ u ≠ t ∧ l.key = r.key ∧ M.conflicts r.mode l.mode = true

def Deadlocked (board : Board τ ι κ μ) : Prop := ∃ t, Relation.TransGen (WaitsFor M board) t t

/-- The jobs in flight and the one that is to start ask for their locks in a common order. -/
def Admits (board : Board τ ι κ μ) : Move τ ι → Prop
  | .start _ j => ∃ before : κ → κ → Prop, IsStrictOrder κ before ∧
      Ascends M before [] (script j) ∧
      ∀ u k, board.job u = some k → Ascends M before [] (script k)
  | .take _ => True
  | .finish _ => True

def Ranked (board : Board τ ι κ μ) : Prop :=
  ∃ before : κ → κ → Prop, IsStrictOrder κ before ∧
    ∀ t j, board.job t = some j → Ascends M before [] (script j)

theorem ranked_idle : Ranked M script (idle τ ι κ μ) :=
  ⟨_, rank_order (fun _ => 0), fun _ _ hj => by cases hj⟩

variable [DecidableEq τ]

def heldBy (board : Board τ ι κ μ) (t : τ) : List (Lock τ κ μ) :=
  board.locks.filter (fun l => l.owner = t)

theorem mem_heldBy {board : Board τ ι κ μ} {t : τ} {l : Lock τ κ μ} :
    l ∈ heldBy board t ↔ l ∈ board.locks ∧ l.owner = t := by
  simp [heldBy]

def scriptOf (board : Board τ ι κ μ) (t : τ) : List (Request κ μ) :=
  (board.job t).elim [] script

/-- `t` has been granted `taken`, last first, and its script goes on with what remains. -/
structure Played (board : Board τ ι κ μ) (t : τ) (taken : List (Request κ μ)) : Prop where
  script : scriptOf script board t = taken.reverse ++ board.rest t
  held : heldBy board t = taken.map (fun r => ⟨t, r.key, r.mode⟩)

structure Kept (board : Board τ ι κ μ) : Prop where
  played : ∀ t, ∃ taken, Played script board t taken
  compatible : ∀ l ∈ board.locks, ∀ l' ∈ board.locks, l.owner ≠ l'.owner → l.key = l'.key →
    M.conflicts l.mode l'.mode = false

variable {M script} {board : Board τ ι κ μ} {t u v : τ}

theorem kept_idle : Kept M script (idle τ ι κ μ) :=
  ⟨fun _ => ⟨[], ⟨rfl, rfl⟩⟩, fun _ hl => absurd hl List.not_mem_nil⟩

theorem Played.frame {board' : Board τ ι κ μ} {taken : List (Request κ μ)}
    (h : Played script board u taken) (hjob : board'.job u = board.job u)
    (hrest : board'.rest u = board.rest u) (hheld : heldBy board' u = heldBy board u) :
    Played script board' u taken where
  script := by rw [scriptOf, hjob, hrest]; exact h.script
  held := by rw [hheld]; exact h.held

theorem waits_above {before : κ → κ → Prop} (h : Kept M script board)
    (hjobs : ∀ t j, board.job t = some j → Ascends M before [] (script j))
    (hwaits : WaitsFor M board u v) {r : Request κ μ} (hr : (board.rest u).head? = some r)
    {l : Lock τ κ μ} (hl : l ∈ board.locks) (howner : l.owner = u) : before l.key r.key := by
  obtain ⟨r', hr', hblocking, l', hl', hv, hne, hkey, hconflict⟩ := hwaits
  have hsame : r' = r := Option.some_inj.1 (hr'.symm.trans hr)
  subst hsame
  obtain ⟨taken, hplayed⟩ := h.played u
  have hmem : ∀ d ∈ taken, (⟨u, d.key, d.mode⟩ : Lock τ κ μ) ∈ board.locks := by
    intro d hd
    have hheld : (⟨u, d.key, d.mode⟩ : Lock τ κ μ) ∈ heldBy board u := by
      rw [hplayed.held]
      exact List.mem_map.2 ⟨d, hd, rfl⟩
    exact (mem_heldBy.1 hheld).1
  have hheld : l ∈ heldBy board u := mem_heldBy.2 ⟨hl, howner⟩
  rw [hplayed.held] at hheld
  obtain ⟨d, hd, rfl⟩ := List.mem_map.1 hheld
  have habove : Above M before taken r' := by
    obtain ⟨rest, hrest⟩ : ∃ rest, board.rest u = r' :: rest := by
      cases hrest : board.rest u with
      | nil => simp [hrest] at hr'
      | cons first rest =>
        rw [hrest, List.head?_cons, Option.some_inj] at hr'
        exact ⟨rest, by rw [hr']⟩
    have hscript := hplayed.script
    rw [hrest] at hscript
    cases hjob : board.job u with
    | none => simp [scriptOf, hjob] at hscript
    | some j =>
      have hascends := hjobs u j hjob
      rw [scriptOf, hjob, Option.elim_some] at hscript
      rw [hscript, ascends_append] at hascends
      simpa using hascends.2.1
  rcases habove hblocking with ⟨c, hc, hckey, hcovers⟩ | hall
  · -- A covered request is never refused: the lock that covers it would already conflict.
    have hfree := h.compatible _ (hmem c hc) l' hl' (by simpa [hv] using Ne.symm hne)
      (by simpa [hckey] using hkey.symm)
    have hclash := hcovers l'.mode hconflict
    rw [hfree] at hclash
    cases hclash
  · exact hall d hd

theorem chain_ascends {before : κ → κ → Prop} [IsStrictOrder κ before] (h : Kept M script board)
    (hjobs : ∀ t j, board.job t = some j → Ascends M before [] (script j))
    (hchain : Relation.TransGen (WaitsFor M board) t u) {r : Request κ μ}
    (hr : (board.rest t).head? = some r) {w : τ} (hw : WaitsFor M board u w) {r' : Request κ μ}
    (hr' : (board.rest u).head? = some r') : before r.key r'.key := by
  induction hchain generalizing w r' with
  | single hwaits =>
    obtain ⟨r₀, hr₀, -, l, hl, howner, -, hkey, -⟩ := hwaits
    have hsame : r₀ = r := Option.some_inj.1 (hr₀.symm.trans hr)
    have habove := waits_above h hjobs hw hr' hl howner
    rwa [hkey, hsame] at habove
  | tail _ hwaits ih =>
    obtain ⟨r₁, hr₁, -, l, hl, howner, -, hkey, -⟩ := id hwaits
    have hfirst := ih hwaits hr₁
    have habove := waits_above h hjobs hw hr' hl howner
    rw [hkey] at habove
    exact IsTrans.trans _ _ _ hfirst habove

theorem not_deadlocked (h : Kept M script board) (hranked : Ranked M script board) :
    ¬ Deadlocked M board := by
  rintro ⟨t, hcycle⟩
  obtain ⟨before, horder, hjobs⟩ := hranked
  -- The circle starts with a wait of `t`, whose request then lies above itself.
  obtain ⟨w, hw⟩ : ∃ w, WaitsFor M board t w := by
    rcases Relation.TransGen.head'_iff.1 hcycle with ⟨w, hw, -⟩
    exact ⟨w, hw⟩
  obtain ⟨r, hr, -⟩ := id hw
  exact irrefl _ (chain_ascends h hjobs hcycle hr hw hr)

variable (M script) [DecidableEq κ]

def Blocked (board : Board τ ι κ μ) (t : τ) (r : Request κ μ) : Prop :=
  ∃ l ∈ board.locks, l.owner ≠ t ∧ l.key = r.key ∧ M.conflicts r.mode l.mode = true

instance (board : Board τ ι κ μ) (t : τ) (r : Request κ μ) : Decidable (Blocked M board t r) :=
  inferInstanceAs (Decidable (∃ l ∈ board.locks, _ ∧ _ ∧ _))

/-- A blocked transaction stays where it is. One may finish at any request: it commits, on a
path that asks for nothing more, or it is rolled back. -/
def step (board : Board τ ι κ μ) : Move τ ι → Board τ ι κ μ
  | .start t j =>
    if (board.job t).isNone then
      { board with
        job := Function.update board.job t (some j)
        rest := Function.update board.rest t (script j) }
    else board
  | .take t =>
    match board.rest t with
    | [] => board
    | r :: rest =>
      if Blocked M board t r then board
      else { board with
        rest := Function.update board.rest t rest
        locks := ⟨t, r.key, r.mode⟩ :: board.locks }
  | .finish t =>
    { job := Function.update board.job t none
      rest := Function.update board.rest t []
      locks := board.locks.filter (fun l => l.owner ≠ t) }

variable {M script}

theorem kept_start (h : Kept M script board) (j : ι) :
    Kept M script (step M script board (.start t j)) := by
  by_cases hidle : (board.job t).isNone = true
  · have hnone : board.job t = none := Option.isNone_iff_eq_none.1 hidle
    simp only [step, hidle, if_true]
    refine ⟨fun u => ?_, h.compatible⟩
    obtain ⟨taken, hplayed⟩ := h.played u
    by_cases hu : u = t
    · subst hu
      have hscript := hplayed.script
      simp only [scriptOf, hnone, Option.elim_none] at hscript
      have htaken : taken = [] := by simpa using (List.append_eq_nil_iff.1 hscript.symm).1
      refine ⟨[], ⟨by simp [scriptOf], ?_⟩⟩
      have hheld := hplayed.held
      rw [htaken] at hheld
      exact hheld
    · exact ⟨taken, hplayed.frame (Function.update_of_ne hu _ _)
        (Function.update_of_ne hu _ _) rfl⟩
  · have hstep : step M script board (.start t j) = board := by simp [step, hidle]
    rw [hstep]
    exact h

theorem kept_take (h : Kept M script board) : Kept M script (step M script board (.take t)) := by
  cases hrest : board.rest t with
  | nil =>
    have hstep : step M script board (.take t) = board := by simp [step, hrest]
    rw [hstep]
    exact h
  | cons r rest =>
    by_cases hblocked : Blocked M board t r
    · have hstep : step M script board (.take t) = board := by simp [step, hrest, hblocked]
      rw [hstep]
      exact h
    · simp only [step, hrest, hblocked, if_false]
      -- The new lock is compatible with those of the others, or it would have been refused.
      have hnew : ∀ l ∈ board.locks, l.owner ≠ t → l.key = r.key →
          M.conflicts r.mode l.mode = false := by
        intro l hl howner hkey
        by_contra hconflict
        exact hblocked ⟨l, hl, howner, hkey, by simpa using hconflict⟩
      refine ⟨fun u => ?_, ?_⟩
      · obtain ⟨taken, hplayed⟩ := h.played u
        by_cases hu : u = t
        · subst hu
          refine ⟨r :: taken, ⟨?_, ?_⟩⟩
          · have hscript := hplayed.script
            rw [hrest] at hscript
            simpa [scriptOf] using hscript
          · have hheld := hplayed.held
            simp only [heldBy] at hheld
            simp [heldBy, hheld]
        · refine ⟨taken, hplayed.frame rfl (Function.update_of_ne hu _ _) ?_⟩
          simp [heldBy, Ne.symm hu]
      · intro l hl l' hl' howner hkey
        rcases List.mem_cons.1 hl with rfl | hl <;> rcases List.mem_cons.1 hl' with rfl | hl'
        · exact absurd rfl howner
        · exact hnew l' hl' (Ne.symm howner) hkey.symm
        · rw [M.symm]
          exact hnew l hl howner hkey
        · exact h.compatible l hl l' hl' howner hkey

theorem kept_finish (h : Kept M script board) :
    Kept M script (step M script board (.finish t)) := by
  refine ⟨fun u => ?_, fun l hl l' hl' => ?_⟩
  · obtain ⟨taken, hplayed⟩ := h.played u
    by_cases hu : u = t
    · subst hu
      exact ⟨[], ⟨by simp [scriptOf, step], by simp [heldBy, step]⟩⟩
    · refine ⟨taken, hplayed.frame (Function.update_of_ne hu _ _)
        (Function.update_of_ne hu _ _) ?_⟩
      simp only [heldBy, step, List.filter_filter]
      refine List.filter_congr (fun l _ => ?_)
      by_cases hl : l.owner = u
      · simp [hl, hu]
      · simp [hl]
  · exact h.compatible l (List.mem_of_mem_filter hl) l' (List.mem_of_mem_filter hl')

theorem kept_step (h : Kept M script board) (move : Move τ ι) :
    Kept M script (step M script board move) := by
  cases move with
  | start t j => exact kept_start h j
  | take t => exact kept_take h
  | finish t => exact kept_finish h

theorem job_cases {move : Move τ ι} {k : ι} (h : (step M script board move).job u = some k) :
    board.job u = some k ∨ move = .start u k := by
  cases move with
  | start t j =>
    simp only [step] at h
    split at h
    · have hjob : Function.update board.job t (some j) u = some k := h
      by_cases hu : u = t
      · subst hu
        rw [Function.update_self, Option.some_inj] at hjob
        exact .inr (by rw [hjob])
      · rw [Function.update_of_ne hu] at hjob
        exact .inl hjob
    · exact .inl h
  | take t =>
    simp only [step] at h
    split at h
    · exact .inl h
    · split at h <;> exact .inl h
  | finish t =>
    simp only [step] at h
    by_cases hu : u = t
    · subst hu
      simp at h
    · rw [Function.update_of_ne hu] at h
      exact .inl h

theorem ranked_step (h : Ranked M script board) {move : Move τ ι}
    (hc : Admits M script board move) : Ranked M script (step M script board move) := by
  cases move with
  | start t j =>
    obtain ⟨before, horder, hj, hflight⟩ := hc
    refine ⟨before, horder, fun u k hk => ?_⟩
    rcases job_cases hk with hold | hnew
    · exact hflight u k hold
    · cases hnew
      exact hj
  | take t =>
    obtain ⟨before, horder, hjobs⟩ := h
    refine ⟨before, horder, fun u k hk => hjobs u k ?_⟩
    exact (job_cases hk).resolve_right (fun hnew => by cases hnew)
  | finish t =>
    obtain ⟨before, horder, hjobs⟩ := h
    refine ⟨before, horder, fun u k hk => hjobs u k ?_⟩
    exact (job_cases hk).resolve_right (fun hnew => by cases hnew)

/-- When every job that is started meets `P`, a condition that holds of starts among such jobs,
and of the other moves, holds along the run. -/
theorem along_jobs {P : ι → Prop} {C : Board τ ι κ μ → Move τ ι → Prop}
    (hstart : ∀ board t j, P j → (∀ u k, board.job u = some k → P k) → C board (.start t j))
    (htake : ∀ board t, C board (.take t)) (hfinish : ∀ board t, C board (.finish t))
    {moves : List (Move τ ι)} (hmoves : ∀ t j, .start t j ∈ moves → P j)
    (hjobs : ∀ u k, board.job u = some k → P k) : Along (step M script) C board moves := by
  induction moves generalizing board with
  | nil => trivial
  | cons move moves ih =>
    refine ⟨?_, ih (fun t j hj => hmoves t j (List.mem_cons_of_mem move hj)) (fun u k hk => ?_)⟩
    · cases move with
      | start t j => exact hstart board t j (hmoves t j List.mem_cons_self) hjobs
      | take t => exact htake board t
      | finish t => exact hfinish board t
    · rcases job_cases hk with hold | hnew
      · exact hjobs u k hold
      · exact hmoves u k (hnew ▸ List.mem_cons_self)

/-- Jobs that all follow one order may start at any time. -/
theorem admits_of_order {before : κ → κ → Prop} [IsStrictOrder κ before] {moves : List (Move τ ι)}
    (hmoves : ∀ t j, .start t j ∈ moves → Ascends M before [] (script j)) :
    Along (step M script) (Admits M script) (idle τ ι κ μ) moves :=
  along_jobs (P := fun j => Ascends M before [] (script j))
    (fun _ _ _ hj hjobs => ⟨before, inferInstance, hj, hjobs⟩) (fun _ _ => trivial)
    (fun _ _ => trivial) hmoves (fun _ _ hk => by cases hk)

/-- No run in which every job starts among jobs of a common order reaches a circle of waits. -/
theorem ordered_run (moves : List (Move τ ι))
    (hc : Along (step M script) (Admits M script) (idle τ ι κ μ) moves) :
    ¬ Deadlocked M (exec (step M script) (idle τ ι κ μ) moves) := by
  have hinv := along_invariant (step M script)
    (P := fun board => Kept M script board ∧ Ranked M script board)
    (fun board move hboard hmove => ⟨kept_step hboard.1 move, ranked_step hboard.2 hmove⟩)
    moves (idle τ ι κ μ) ⟨kept_idle, ranked_idle M script⟩ hc
  exact not_deadlocked hinv.1 hinv.2

end Boards
end RoozDataCloud.LockWaits
