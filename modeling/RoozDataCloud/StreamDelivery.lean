import RoozDataCloud.RunEventStream

set_option autoImplicit false

/-!
# What a run event stream delivers

In every interleaving a stream delivers the events after its start in order and
without a gap. It also delivers all events of a run before it ends, as long as
no transaction ends the run between the two reads of an empty iteration.
-/
namespace RoozDataCloud.StreamDelivery
open KeyedTable GaplessLog ExecutionModels ReadCommitted FallibleSteps RunEventStream
open RunCreation (RunEvent)

section Interleavings
variable {settings : StreamSettings} {requests : ℕ → Request} {first : ℕ} {rows s s' : Rows}

theorem next_keeps (i : ℕ) (s : Rows) (t : Txn) (hr : Retained first s)
    (hk : Knows first (requests i) s t) :
    Keeps (Retained first) (fun _ => True) (fun i => Knows first (requests i)) Owns
      (fun _ _ _ => True) i s t (next settings requests i s t) := by
  cases t with
  | ready =>
    simp only [next]
    cases hrequest : requests i with
    | write statements => exact ⟨rfl, fun l h => absurd rfl h⟩
    | stream lastEventId authorized =>
      simp only [Knows, hrequest, InWindow] at hk
      refine ⟨?_, fun l h => h.elim⟩
      simp only [Knows, hrequest, startOf]
      exact ⟨hk.1, rfl, hk.2, rfl, fun event hevent => absurd hevent List.not_mem_nil⟩
  | writing rest own status =>
    cases rest with
    | nil =>
      obtain ⟨s', hpublish, hretained, hextends, hempty⟩ := publish_ok status hr hk
      simp only [next, hpublish]
      refine ⟨hretained, Iff.rfl, trivial, fun l h => h, fun j u hu hdisjoint => ?_⟩
      refine knows_extends hu hextends (fun howns => ?_)
      by_cases hown : own = []
      · rw [hempty hown]
      · exact absurd howns (hdisjoint .runEvents hown)
    | cons statement rest =>
      cases statement with
      | appendRunEvent eventType payload =>
        simp only [next]
        split_ifs
        · exact ⟨hk, fun l _ => .inl rfl⟩
        · exact ⟨trivial, fun l h => h⟩
      | setStatus status => exact ⟨hk, fun l h => h⟩
  | appending event rest own status =>
    obtain ⟨visible, hinsert, -, hlast, -⟩ := hr.gapless.insertAll hk
    simp only [next, hinsert]
    refine ⟨?_, fun l _ => trivial⟩
    simp only [Knows] at hk ⊢
    rw [List.map_append, hk, hlast, List.length_append, List.length_singleton, List.range'_concat,
      Nat.one_mul, Nat.add_right_comm]
    rfl
  | polling m =>
    simp only [next]
    split_ifs
    · exact ⟨hk, fun l h => h⟩
    · exact ⟨hk, fun l h => h⟩
    · exact ⟨hk, fun l h => h⟩
  | checking m =>
    simp only [next, replayCheck_eq hr hk]
    exact ⟨⟨hk.window, hk.cursor, hk.bound, hk.consecutive, hk.committed⟩, fun l h => h⟩
  | listing m => exact ⟨⟨hk, Delivered.lists hr hk _⟩, fun l h => h⟩
  | listed m events =>
    have hd := hk.1.deliver hk.2
    simp only [next]
    cases s.status with
    | none => exact ⟨hd, fun l h => h⟩
    | some status =>
      dsimp only
      split_ifs
      · exact ⟨hd, fun l h => h⟩
      · exact ⟨⟨hd.window, hd.cursor, hd.bound, hd.consecutive, hd.committed⟩, fun l h => h⟩
  | ended m why => exact ⟨hk, fun l h => h⟩
  | written => exact ⟨trivial, fun l h => h⟩
  | failed e => exact ⟨trivial, fun l h => h⟩
  | rolledBack => exact ⟨trivial, fun l h => h⟩

def protocol (settings : StreamSettings) (requests : ℕ → Request) (first : ℕ) :
    Protocol (next settings requests) .rolledBack
      (AtCommit (next settings requests) (fun _ _ _ => True)) :=
  Protocol.ofKeeps (fun i s t (hr : Retained first s) _ hk => next_keeps i s t hr hk)
    (fun _ _ => ⟨trivial, fun _ h => h⟩)

theorem holds_opening (hr : Retained first rows) (hw : ∀ i, InWindow first rows (requests i)) :
    (protocol settings requests first).Holds (opening rows .ready) :=
  Protocol.holds_opening _ ⟨hr, trivial⟩ hw (fun _ h => h)

theorem step_holds {st : System Rows Txn Lock} (e : Event)
    (h : (protocol settings requests first).Holds st) :
    (protocol settings requests first).Holds (step (next settings requests) .rolledBack st e) := by
  refine Protocol.step_holds _ h e ?_
  cases e with
  | abort i => trivial
  | advance i => exact fun _ _ _ _ => trivial

theorem publish_terminal {own : List (ℕ × RunEvent)} {status : Option RunStatus}
    (h : publish s own status = some s') (hterminal : terminal s'.status = true) :
    terminal s.status = true ∧ s'.terminalLast = s.terminalLast ∨
      endsRun s (.writing [] own status) = true := by
  obtain ⟨events, -, rfl⟩ := Option.map_eq_some_iff.1 h
  simp only [published] at hterminal ⊢
  cases hbefore : terminal s.status with
  | true => exact .inl ⟨rfl, by simp⟩
  | false =>
    refine .inr ?_
    cases status with
    | none =>
      simp only [currentStatus, hbefore] at hterminal
      cases hterminal
    | some new =>
      cases hstatus : s.status with
      | none =>
        simp only [currentStatus, hstatus, Option.map_none] at hterminal
        cases hterminal
      | some old =>
        simp only [currentStatus, hstatus, Option.map_some] at hterminal
        rw [hstatus] at hbefore
        simp only [endsRun, hstatus, hbefore, hterminal, Option.isSome_some, Bool.not_false,
          Bool.and_self]

/-- Between the two reads of an iteration, or ended because the run is terminal. -/
def watched : Txn → Bool
  | .listed _ _ | .ended _ .terminal => true
  | _ => false

/-- The statements that commit or lead to a watched position. -/
inductive Does (settings : StreamSettings) (s : Rows) : Txn → Action Rows Txn Lock → Prop
  | publishes {own : List (ℕ × RunEvent)} {status : Option RunStatus} {s' : Rows}
      (h : publish s own status = some s') :
      Does settings s (.writing [] own status) (.commit s' .written)
  | lists (m : StreamState) :
      Does settings s (.listing m) (.run (.listed m (page s.events m.cursor settings.runSseReplayLimit)))
  | ends (m : StreamState) (h : terminal s.status = true) :
      Does settings s (.listed m []) (.stop (.ended m .terminal))
  | stays (m : StreamState) (why : Ending) :
      Does settings s (.ended m why) (.stop (.ended m why))
  | other {t : Txn} {a : Action Rows Txn Lock} (hcommit : ∀ s' t', a ≠ .commit s' t')
      (htxn : watched a.txn = false) : Does settings s t a

theorem next_does (settings : StreamSettings) (requests : ℕ → Request) (i : ℕ) (s : Rows) (t : Txn) :
    Does settings s t (next settings requests i s t) := by
  cases t with
  | ready =>
    simp only [next]
    cases requests i with
    | write statements => exact .other (fun _ _ h => nomatch h) rfl
    | stream lastEventId authorized => exact .other (fun _ _ h => nomatch h) rfl
  | writing rest own status =>
    cases rest with
    | nil =>
      simp only [next]
      cases hpublish : publish s own status with
      | none => exact .other (fun _ _ h => nomatch h) rfl
      | some s' => exact .publishes hpublish
    | cons statement rest =>
      cases statement with
      | appendRunEvent eventType payload =>
        simp only [next]
        split_ifs
        · exact .other (fun _ _ h => nomatch h) rfl
        · exact .other (fun _ _ h => nomatch h) rfl
      | setStatus status => exact .other (fun _ _ h => nomatch h) rfl
  | appending event rest own status =>
    simp only [next]
    cases insertAll? s.events own with
    | none => exact .other (fun _ _ h => nomatch h) rfl
    | some visible => exact .other (fun _ _ h => nomatch h) rfl
  | polling m =>
    simp only [next]
    split_ifs
    · exact .other (fun _ _ h => nomatch h) rfl
    · exact .other (fun _ _ h => nomatch h) rfl
    · exact .other (fun _ _ h => nomatch h) rfl
  | checking m => exact .other (fun _ _ h => nomatch h) rfl
  | listing m => exact .lists m
  | listed m events =>
    simp only [next]
    cases hstatus : s.status with
    | none => exact .other (fun _ _ h => nomatch h) rfl
    | some status =>
      dsimp only
      split_ifs with hends
      · obtain rfl := List.isEmpty_iff.1 hends.2
        refine .ends m ?_
        rw [hstatus]
        exact decide_eq_true hends.1
      · exact .other (fun _ _ h => nomatch h) rfl
  | ended m why => exact .stays m why
  | written => exact .other (fun _ _ h => nomatch h) rfl
  | failed e => exact .other (fun _ _ h => nomatch h) rfl
  | rolledBack => exact .other (fun _ _ h => nomatch h) rfl

theorem Does.commit {t t' : Txn} (h : Does settings s t (.commit s' t')) :
    ∃ own status, t = .writing [] own status ∧ publish s own status = some s' := by
  cases h with
  | publishes hpublish => exact ⟨_, _, rfl, hpublish⟩
  | other hcommit => exact absurd rfl (hcommit s' t')

theorem Does.listed {t : Txn} {a : Action Rows Txn Lock} {m : StreamState}
    {events : List (ℕ × RunEvent)} (h : Does settings s t a) (ha : a.txn = .listed m events) :
    t = .listing m ∧ events = page s.events m.cursor settings.runSseReplayLimit := by
  cases h with
  | lists m' =>
    obtain ⟨rfl, rfl⟩ := Txn.listed.inj ha
    exact ⟨rfl, rfl⟩
  | other hcommit htxn =>
    rw [ha] at htxn
    cases htxn
  | publishes hpublish => cases ha
  | ends m' hterminal => cases ha
  | stays m' why => cases ha

theorem Does.ended {t : Txn} {a : Action Rows Txn Lock} {m : StreamState}
    (h : Does settings s t a) (ha : a.txn = .ended m .terminal) :
    t = .ended m .terminal ∨ t = .listed m [] ∧ terminal s.status = true := by
  cases h with
  | ends m' hterminal =>
    obtain ⟨rfl, -⟩ := Txn.ended.inj ha
    exact .inr ⟨rfl, hterminal⟩
  | stays m' why => exact .inl ha
  | other hcommit htxn =>
    rw [ha] at htxn
    cases htxn
  | publishes hpublish => cases ha
  | lists m' => cases ha

/-- A stream that has just found no event has all events of a run that is terminal. -/
def Settled (st : System Rows Txn Lock) : Prop :=
  ∀ j m, st.txn j = .listed m [] → terminal st.committed.status = true →
    st.committed.terminalLast ≤ m.cursor

theorem settled_step {st : System Rows Txn Lock} (hlimit : 1 ≤ settings.runSseReplayLimit)
    (h : (protocol settings requests first).Holds st) (hs : Settled st) (e : Event)
    (hseparate : Separate st e) : Settled (step (next settings requests) .rolledBack st e) := by
  intro j m hlisted hterminal
  have hcommitted := committed_cases (next settings requests) .rolledBack st e
  rcases txn_cases (next settings requests) .rolledBack st e j with hsame | hdead | ⟨rfl, -, hmoved⟩
  · rw [hsame] at hlisted
    rcases hcommitted with hkept | ⟨i, t, rfl, hcommit⟩
    · rw [hkept] at hterminal ⊢
      exact hs j m hlisted hterminal
    · obtain ⟨own, status, hwriting, hpublish⟩ := (hcommit ▸ next_does settings requests i _ _).commit
      rcases publish_terminal hpublish hterminal with ⟨hbefore, hlast⟩ | hends
      · rw [hlast]
        exact hs j m hlisted hbefore
      · -- The one commit that the condition keeps away from this position.
        rw [← hwriting] at hends
        exact absurd hlisted (hseparate hends j m)
  · rw [hdead] at hlisted
    cases hlisted
  · rw [hmoved] at hlisted
    obtain ⟨hlisting, hpage⟩ := (next_does settings requests j st.committed _).listed hlisted
    have hkept : (step (next settings requests) .rolledBack st (.advance j)).committed =
        st.committed := by
      simp only [step, hlisting, next]
    have hd : Delivered (startOf (requests j)) first st.committed m := by
      have hknows := h.knows j
      rw [hlisting] at hknows
      exact hknows
    have hafter : first ≤ m.cursor + 1 := by
      have hcursor := hd.cursor
      have hwindow := hd.window
      omega
    rw [hkept]
    exact h.good.1.settled.trans (h.good.1.gapless.page_nil hafter hlimit hpage.symm)

theorem delivered_all {start : ℕ} {m : StreamState} (h : Delivered start first s m)
    (hlast : s.terminalLast ≤ m.cursor) (n : ℕ) (hstart : start < n) (hn : n ≤ s.terminalLast) :
    n ∈ m.delivered.map Prod.fst := by
  have hcursor := h.cursor
  rw [h.consecutive, List.mem_range'_1]
  omega

theorem stateOf_delivered {t : Txn} {m : StreamState} {request : Request}
    (h : Knows first request s t) (hstate : stateOf t = some m) :
    Delivered (startOf request) first s m := by
  cases t with
  | polling m' => exact Option.some.inj hstate ▸ h
  | checking m' => exact Option.some.inj hstate ▸ h
  | listing m' => exact Option.some.inj hstate ▸ h
  | listed m' events => exact Option.some.inj hstate ▸ h.1
  | ended m' why => exact Option.some.inj hstate ▸ h
  | _ => cases hstate

/-- The state after an interleaving of streams and writers. -/
def reach (settings : StreamSettings) (requests : ℕ → Request) (rows : Rows) (events : List Event) :
    System Rows Txn Lock :=
  exec (step (next settings requests) .rolledBack) (opening rows .ready) events

/-- This step ends the stream because the run is terminal. -/
def EndsAt (settings : StreamSettings) (requests : ℕ → Request) (st : System Rows Txn Lock) (e : Event)
    (i : ℕ) (m : StreamState) : Prop :=
  st.txn i ≠ .ended m .terminal ∧
    (step (next settings requests) .rolledBack st e).txn i = .ended m .terminal

theorem endsAt_listed {st : System Rows Txn Lock} {e : Event} {i : ℕ} {m : StreamState}
    (h : EndsAt settings requests st e i m) :
    st.txn i = .listed m [] ∧ terminal st.committed.status = true := by
  obtain ⟨hbefore, hended⟩ := h
  rcases txn_cases (next settings requests) .rolledBack st e i with hsame | hdead | ⟨rfl, -, hmoved⟩
  · exact absurd (hsame.symm.trans hended) hbefore
  · rw [hdead] at hended
    cases hended
  · rw [hmoved] at hended
    exact ((next_does settings requests i st.committed _).ended hended).resolve_left hbefore

theorem reach_holds (hr : Retained first rows) (hw : ∀ i, InWindow first rows (requests i))
    (events : List Event) : (protocol settings requests first).Holds (reach settings requests rows events) :=
  exec_invariant _ (fun _ e hst => step_holds e hst) events _ (holds_opening hr hw)

theorem reach_settled (hlimit : 1 ≤ settings.runSseReplayLimit) (hr : Retained first rows)
    (hw : ∀ i, InWindow first rows (requests i)) (events : List Event)
    (halong : Along (step (next settings requests) .rolledBack) Separate (opening rows .ready) events) :
    Settled (reach settings requests rows events) := by
  have hstep : ∀ st e, (protocol settings requests first).Holds st ∧ Settled st → Separate st e →
      (protocol settings requests first).Holds (step (next settings requests) .rolledBack st e) ∧
        Settled (step (next settings requests) .rolledBack st e) :=
    fun st e hst he => ⟨step_holds e hst.1, settled_step hlimit hst.1 hst.2 e he⟩
  have hopening : Settled (opening rows .ready) := fun j m hlisted => (nomatch hlisted)
  exact (along_invariant _ hstep events _ ⟨holds_opening hr hw, hopening⟩ halong).2

/-- The streams of an interleaving deliver the events after their starts in order and without gap
or repetition, each as it is committed. If in addition no transaction ends the run between the two
reads of an empty iteration, a stream that ends because the run is terminal has delivered every
event that the end of the run left committed. -/
theorem streams_deliver (settings : StreamSettings) (requests : ℕ → Request) (first : ℕ) (rows : Rows)
    (hlimit : 1 ≤ settings.runSseReplayLimit) (hr : Retained first rows)
    (hw : ∀ i, InWindow first rows (requests i)) (events : List Event) :
    (∀ before after, events = before ++ after → ∀ i m,
      stateOf ((reach settings requests rows before).txn i) = some m →
        m.delivered.map Prod.fst = List.range' (startOf (requests i) + 1) m.delivered.length ∧
          ∀ event ∈ m.delivered,
            (reach settings requests rows before).committed.events.get? event.1 = some event.2) ∧
    (Along (step (next settings requests) .rolledBack) Separate (opening rows .ready) events →
      ∀ before e after, events = before ++ e :: after → ∀ i m,
        EndsAt settings requests (reach settings requests rows before) e i m →
          ∀ n, startOf (requests i) < n →
            n ≤ (reach settings requests rows before).committed.terminalLast →
              n ∈ m.delivered.map Prod.fst) := by
  constructor
  · rintro before after rfl i m hstate
    have hd := stateOf_delivered ((reach_holds hr hw before).knows i) hstate
    exact ⟨hd.consecutive, hd.committed⟩
  · rintro halong before e after rfl i m hends n hstart hn
    have hbefore := ((along_append _ _ before (e :: after)).1 halong).1
    obtain ⟨hlisted, hterminal⟩ := endsAt_listed hends
    have hd : Delivered (startOf (requests i)) first (reach settings requests rows before).committed m := by
      refine stateOf_delivered ((reach_holds hr hw before).knows i) ?_
      rw [hlisted]
      rfl
    exact delivered_all hd (reach_settled hlimit hr hw before hbefore i m hlisted hterminal) n hstart hn

end Interleavings

section Samples

def sampleSettings : StreamSettings where
  sanitizeEventPayload := id
  runSseReplayLimit := 500

def runningRun : Rows where
  status := some .running
  events := .empty
  terminalLast := 0

/-- One stream from the start; every other transaction completes the run. -/
def completion : ℕ → Request
  | 0 => .stream 0 (fun _ => true)
  | _ => .write [.appendRunEvent "run.completed" [], .setStatus .succeeded]

theorem runningRun_retained : Retained 1 runningRun := by
  refine ⟨⟨Nat.le_refl 1, Nat.le_refl 1, fun n => ?_⟩, Nat.le_refl 0⟩
  refine iff_of_false (fun h => nomatch h) (fun h => ?_)
  exact absurd (h.1.trans h.2) (by decide)

theorem completion_inWindow (i : ℕ) : InWindow 1 runningRun (completion i) := by
  cases i with
  | zero => exact ⟨Nat.le_refl 1, Nat.le_refl 0⟩
  | succ i => trivial

def sent : StreamState where
  cursor := 1
  replayChecked := true
  delivered := [(1, { eventType := "run.completed", payload := [] })]
  round := 1

/-- The writer commits, and then the stream polls twice. -/
def inTurn : List Event := List.replicate 5 (.advance 1) ++ List.replicate 7 (.advance 0)

theorem inTurn_listed : (reach sampleSettings completion runningRun inTurn).txn 0 = .listed sent [] := rfl

theorem inTurn_separate : Along (step (next sampleSettings completion) .rolledBack) Separate
    (opening runningRun .ready) (inTurn ++ [.advance 0]) := by
  refine ⟨nofun, nofun, nofun, nofun, fun _ j m => ?_, nofun, nofun, nofun, nofun, nofun, nofun, nofun,
    nofun, trivial⟩
  -- At the commit only the writer has moved.
  rcases j with _ | _ | j
  · exact nofun
  · exact nofun
  · exact nofun

theorem completion_delivered : 1 ∈ sent.delivered.map Prod.fst := by
  have hends : EndsAt sampleSettings completion
      (reach sampleSettings completion runningRun inTurn) (.advance 0) 0 sent :=
    ⟨fun h => (nomatch inTurn_listed.symm.trans h), rfl⟩
  have hlast : 1 ≤ (reach sampleSettings completion runningRun inTurn).committed.terminalLast :=
    Nat.le_refl 1
  exact (streams_deliver sampleSettings completion 1 runningRun (by decide) runningRun_retained
    completion_inWindow (inTurn ++ [.advance 0])).2 inTurn_separate inTurn (.advance 0) [] rfl 0 sent
    hends 1 Nat.one_pos hlast

/-- The writer commits while the stream is between its two reads. -/
def missed : List Event :=
  List.replicate 3 (.advance 0) ++ List.replicate 5 (.advance 1) ++ [.advance 0]

set_option maxRecDepth 8000 in
theorem completion_missed :
    Retained 1 runningRun ∧ (∀ i, InWindow 1 runningRun (completion i)) ∧
      (match (reach sampleSettings completion runningRun missed).txn 0 with
        | .ended m .terminal => m.delivered.isEmpty
        | _ => false) = true ∧
      (reach sampleSettings completion runningRun missed).committed.terminalLast = 1 := by
  refine ⟨runningRun_retained, completion_inWindow, ?_, ?_⟩
  · decide +kernel
  · decide +kernel

end Samples
end RoozDataCloud.StreamDelivery
