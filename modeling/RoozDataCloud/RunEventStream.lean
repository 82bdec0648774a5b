import RoozDataCloud.GaplessLog
import RoozDataCloud.ReadCommitted
import RoozDataCloud.RunCreation

set_option autoImplicit false

/-!
# The event stream of a run

A stream polls: it lists the events after its cursor, then reads the run, and it
ends when the run is terminal and the list was empty. Meanwhile other
transactions append events, numbered under a lock that they hold to their
commit, and change the status of the run.
-/
namespace RoozDataCloud.RunEventStream
open KeyedTable GaplessLog ExecutionModels ReadCommitted FallibleSteps
open RunCreation (RunEvent)

/-- The rows of one run. `terminalLast` is no column: it records the last event that was committed
when the run last became terminal. -/
structure Rows where
  status : Option RunStatus
  events : Table ℕ RunEvent
  terminalLast : ℕ

def terminal : Option RunStatus → Bool
  | some status => decide (status ∈ runTerminalStatuses)
  | none => false

structure StreamSettings where
  sanitizeEventPayload : Payload → Payload
  runSseReplayLimit : ℕ

def persistedEventTypes : List String :=
  ["run.status", "run.log", "run.metric", "run.warning", "run.completed", "run.failed"]

inductive Statement where
  | appendRunEvent (eventType : String) (payload : Payload)
  | setStatus (status : RunStatus)

/-- A transaction that writes, or a stream with its `Last-Event-ID` and the answers of
`_stream_authorized`. -/
inductive Request where
  | write (statements : List Statement)
  | stream (lastEventId : ℕ) (authorized : ℕ → Bool)

def streamAuthorized : Request → ℕ → Bool
  | .write _, _ => false
  | .stream _ authorized, round => authorized round

def startOf : Request → ℕ
  | .write _ => 0
  | .stream lastEventId _ => lastEventId

/-- The variables of a stream, and what it has sent. -/
structure StreamState where
  cursor : ℕ
  replayChecked : Bool
  delivered : List (ℕ × RunEvent)
  round : ℕ

inductive Ending where
  | unauthorized
  | missing
  | terminal

inductive Txn where
  | ready
  | writing (rest : List Statement) (own : List (ℕ × RunEvent)) (status : Option RunStatus)
  | appending (event : RunEvent) (rest : List Statement) (own : List (ℕ × RunEvent))
      (status : Option RunStatus)
  | written
  | failed (e : Failure)
  | polling (m : StreamState)
  | checking (m : StreamState)
  | listing (m : StreamState)
  | listed (m : StreamState) (events : List (ℕ × RunEvent))
  | ended (m : StreamState) (why : Ending)
  | rolledBack

inductive Lock where
  | runEvents
  deriving DecidableEq

def eventInvalid : Failure :=
  apiError 422 "RUN_EVENT_INVALID" "The Run event type is not supported."

def sequenceTaken : Failure := .integrity "uq_run_events_run_sequence"

def currentStatus (s : Rows) : Option RunStatus → Option RunStatus
  | some new => s.status.map (fun _ => new)
  | none => s.status

def published (s : Rows) (status : Option RunStatus) (events : Table ℕ RunEvent) : Rows where
  status := currentStatus s status
  events := events
  terminalLast :=
    if terminal (currentStatus s status) && !terminal s.status then last events else s.terminalLast

/-- The commit of a writer: its events and its status become visible together. -/
def publish (s : Rows) (own : List (ℕ × RunEvent)) (status : Option RunStatus) : Option Rows :=
  (insertAll? s.events own).map (published s status)

/-- The frames of one iteration. -/
def deliver (m : StreamState) (events : List (ℕ × RunEvent)) : StreamState :=
  events.foldl (fun m event =>
    { m with cursor := event.1, delivered := m.delivered ++ [event] }) m

/-- `minimum_run_event_sequence` and the reset of a cursor before the retained events. -/
def replayCheck (events : Table ℕ RunEvent) (m : StreamState) : StreamState :=
  match first? events with
  | some minimum =>
    if m.cursor < minimum - 1 then { m with cursor := minimum - 1, replayChecked := true }
    else { m with replayChecked := true }
  | none => { m with replayChecked := true }

/-- A disconnected client is a rollback of its stream, between any two statements. -/
def next (settings : StreamSettings) (requests : ℕ → Request) (i : ℕ) (s : Rows) :
    Txn → Action Rows Txn Lock
  | .ready =>
    match requests i with
    | .write statements => .run (.writing statements [] none)
    | .stream lastEventId _ => .run (.polling
        { cursor := lastEventId, replayChecked := false, delivered := [], round := 0 })
  | .writing (.appendRunEvent eventType payload :: rest) own status =>
    if eventType ∈ persistedEventTypes then
      .lock .runEvents (.appending
        { eventType := eventType, payload := settings.sanitizeEventPayload payload }
        rest own status)
    else .stop (.failed eventInvalid)
  | .writing (.setStatus status :: rest) own _ => .run (.writing rest own (some status))
  | .writing [] own status =>
    match publish s own status with
    | some s' => .commit s' .written
    | none => .stop (.failed sequenceTaken)
  | .appending event rest own status =>
    -- `max(sequence)` is over what is committed and what the transaction itself has added.
    match insertAll? s.events own with
    | some visible => .run (.writing rest (own ++ [(last visible + 1, event)]) status)
    | none => .stop (.failed sequenceTaken)
  | .polling m =>
    if streamAuthorized (requests i) m.round then
      if !m.replayChecked && decide (0 < m.cursor) then .run (.checking m) else .run (.listing m)
    else .stop (.ended m .unauthorized)
  | .checking m => .run (.listing (replayCheck s.events m))
  | .listing m => .run (.listed m (page s.events m.cursor settings.runSseReplayLimit))
  | .listed m events =>
    match s.status with
    | none => .stop (.ended (deliver m events) .missing)
    | some status =>
      if status ∈ runTerminalStatuses ∧ events.isEmpty then .stop (.ended (deliver m events) .terminal)
      else .run (.polling { deliver m events with round := m.round + 1 })
  | .written => .stop .written
  | .failed e => .stop (.failed e)
  | .ended m why => .stop (.ended m why)
  | .rolledBack => .stop .rolledBack

def stateOf : Txn → Option StreamState
  | .polling m | .checking m | .listing m | .listed m _ | .ended m _ => some m
  | _ => none

/-- The transaction is about to commit the end of the run. -/
def endsRun (s : Rows) : Txn → Bool
  | .writing [] _ (some status) => s.status.isSome && !terminal s.status && terminal (some status)
  | _ => false

/-- No transaction ends the run between the two reads of an iteration whose list was empty. -/
def Separate (st : System Rows Txn Lock) : Event → Prop
  | .advance i => endsRun st.committed (st.txn i) = true → ∀ j m, st.txn j ≠ .listed m []
  | .abort _ => True

/-- The retained events have no gap, and those of the end of the run are among them. -/
structure Retained (first : ℕ) (rows : Rows) : Prop where
  gapless : Gapless first rows.events
  settled : rows.terminalLast ≤ last rows.events

/-- A `Last-Event-ID` within the retained window. -/
def InWindow (first : ℕ) (rows : Rows) : Request → Prop
  | .write _ => True
  | .stream lastEventId _ => first ≤ lastEventId + 1 ∧ lastEventId ≤ last rows.events

/-- What a stream has sent: all events after its start up to its cursor. -/
structure Delivered (start first : ℕ) (s : Rows) (m : StreamState) : Prop where
  window : first ≤ start + 1
  cursor : m.cursor = start + m.delivered.length
  bound : m.cursor ≤ last s.events
  consecutive : m.delivered.map Prod.fst = List.range' (start + 1) m.delivered.length
  committed : ∀ event ∈ m.delivered, s.events.get? event.1 = some event.2

/-- What the list of an iteration holds: the events that follow the cursor. -/
structure Lists (s : Rows) (m : StreamState) (events : List (ℕ × RunEvent)) : Prop where
  bound : m.cursor + events.length ≤ last s.events
  consecutive : events.map Prod.fst = List.range' (m.cursor + 1) events.length
  committed : ∀ event ∈ events, s.events.get? event.1 = some event.2

def Knows (first : ℕ) (request : Request) (s : Rows) : Txn → Prop
  | .ready => InWindow first s request
  | .writing _ own _ | .appending _ _ own _ =>
    own.map Prod.fst = List.range' (last s.events + 1) own.length
  | .polling m | .checking m | .listing m | .ended m _ => Delivered (startOf request) first s m
  | .listed m events => Delivered (startOf request) first s m ∧ Lists s m events
  | .written | .failed _ | .rolledBack => True

def Owns : Txn → Lock → Prop
  | .writing _ own _, _ => own ≠ []
  | .appending _ _ _ _, _ => True
  | _, _ => False

section Stream
variable {first start : ℕ} {s s' : Rows}
  {m : StreamState} {events own : List (ℕ × RunEvent)}

theorem deliver_delivered (m : StreamState) (events : List (ℕ × RunEvent)) :
    (deliver m events).delivered = m.delivered ++ events := by
  unfold deliver
  induction events generalizing m with
  | nil => simp
  | cons event events ih => rw [List.foldl_cons, ih, List.append_assoc, List.singleton_append]

theorem deliver_cursor (h : events.map Prod.fst = List.range' (m.cursor + 1) events.length) :
    (deliver m events).cursor = m.cursor + events.length := by
  unfold deliver
  induction events generalizing m with
  | nil => rfl
  | cons event events ih =>
    rw [List.map_cons, List.length_cons, List.range'_succ, List.cons.injEq] at h
    obtain ⟨hfirst, hrest⟩ := h
    rw [List.foldl_cons, ih]
    · rw [List.length_cons]
      dsimp only
      omega
    · rw [hrest, hfirst]

theorem Delivered.deliver (h : Delivered start first s m) (hl : Lists s m events) :
    Delivered start first s (deliver m events) := by
  have hcursor := h.cursor
  have hmoved := deliver_cursor hl.consecutive
  refine ⟨h.window, ?_, ?_, ?_, ?_⟩
  · rw [hmoved, deliver_delivered, List.length_append]
    omega
  · rw [hmoved]
    exact hl.bound
  · rw [deliver_delivered, List.map_append, List.length_append, h.consecutive, hl.consecutive,
      hcursor, Nat.add_right_comm, List.range'_append_1]
  · intro event hevent
    rw [deliver_delivered, List.mem_append] at hevent
    exact hevent.elim (h.committed event) (hl.committed event)

theorem Delivered.lists (hr : Retained first s) (h : Delivered start first s m) (limit : ℕ) :
    Lists s m (page s.events m.cursor limit) := by
  have hcursor := h.cursor
  have hbound := h.bound
  have hwindow := h.window
  have hafter : first ≤ m.cursor + 1 := by omega
  have hnumbers := hr.gapless.page_numbers hafter limit
  have hlength := congrArg List.length hnumbers
  rw [List.length_map, List.length_range'] at hlength
  refine ⟨by omega, ?_, fun event hevent => mem_page hevent⟩
  rw [hnumbers, hlength]

/-- Within the window the replay check leaves the cursor where it is. -/
theorem replayCheck_eq (hr : Retained first s) (h : Delivered start first s m) :
    replayCheck s.events m = { m with replayChecked := true } := by
  have hcursor := h.cursor
  have hwindow := h.window
  unfold replayCheck
  cases hmin : first? s.events with
  | none => rfl
  | some minimum =>
    have hle := hr.gapless.first?_le hmin
    dsimp only
    rw [if_neg (by omega)]

/-- What a writer leaves as it was. -/
structure Extends (s s' : Rows) : Prop where
  last_le : last s.events ≤ last s'.events
  kept : ∀ n event, s.events.get? n = some event → s'.events.get? n = some event

theorem publish_ok (status : Option RunStatus) (hr : Retained first s)
    (hown : own.map Prod.fst = List.range' (last s.events + 1) own.length) :
    ∃ s', publish s own status = some s' ∧ Retained first s' ∧ Extends s s' ∧
      (own = [] → s'.events = s.events) := by
  obtain ⟨events, hinsert, hgapless, hlast, hkept⟩ := hr.gapless.insertAll hown
  have hsettled := hr.settled
  have hpublish : publish s own status = some (published s status events) := by
    rw [publish, hinsert, Option.map_some]
  refine ⟨_, hpublish, ⟨hgapless, ?_⟩, ⟨?_, hkept⟩, ?_⟩
  · simp only [published]
    split_ifs <;> omega
  · simp only [published]
    omega
  · rintro rfl
    exact (Option.some.inj hinsert).symm

theorem Delivered.extends (h : Delivered start first s m) (he : Extends s s') :
    Delivered start first s' m :=
  ⟨h.window, h.cursor, h.bound.trans he.last_le, h.consecutive,
    fun event hevent => he.kept _ _ (h.committed event hevent)⟩

theorem Lists.extends (h : Lists s m events) (he : Extends s s') : Lists s' m events :=
  ⟨h.bound.trans he.last_le, h.consecutive, fun event hevent => he.kept _ _ (h.committed event hevent)⟩

/-- A commit of another transaction. It adds no events while this one holds the lock. -/
theorem knows_extends {request : Request} {t : Txn} (h : Knows first request s t)
    (he : Extends s s') (hlock : Owns t .runEvents → last s'.events = last s.events) :
    Knows first request s' t := by
  cases t with
  | ready =>
    cases request with
    | write _ => trivial
    | stream lastEventId _ => exact ⟨h.1, h.2.trans he.last_le⟩
  | writing rest own status =>
    cases own with
    | nil => rfl
    | cons event own =>
      have hlast := hlock (List.cons_ne_nil event own)
      simp only [Knows, hlast] at h ⊢
      exact h
  | appending event rest own status =>
    have hlast := hlock trivial
    simp only [Knows, hlast] at h ⊢
    exact h
  | polling m => exact Delivered.extends h he
  | checking m => exact Delivered.extends h he
  | listing m => exact Delivered.extends h he
  | listed m events => exact ⟨h.1.extends he, h.2.extends he⟩
  | ended m why => exact Delivered.extends h he
  | written => trivial
  | failed e => trivial
  | rolledBack => trivial

end Stream

end RoozDataCloud.RunEventStream
