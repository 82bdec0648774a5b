import RoozDataCloud.QueueCounts
import RoozDataCloud.StatusChains
import Mathlib.Logic.Relation

set_option autoImplicit false

/-!
# The lifecycle of a queued request

Whatever a transaction commits to a queue is a chain of writes to single
requests, each with its transition. What these writes keep holds after every
interleaving of enqueues, claims and completions, also where the counters of the
queue row do not.
-/
namespace RoozDataCloud.QueueLifecycle
open KeyedTable ExecutionModels FallibleSteps ReadCommitted StatusChains RequestQueues QueueCounts

/-- What is written over a stored request, and under which reason. -/
inductive RequestChange (old : RequestQueueRequest) : RequestQueueRequest → String → Prop
  | reclaimed (now : Time) (h : claimExpired now old = true) :
      RequestChange old (reclaimedRequest old) "LEASE_EXPIRED"
  | claimed (call : ClaimCall) (h : old.status = .pending) :
      RequestChange old (claimedRequest call old) "CLAIMED"
  | completed (c : Completion) (h : claimHeld c old) :
      RequestChange old (completedRequest c old) "WORKER_COMPLETED"

/-- A write, seen on the requests and their transitions. -/
inductive Move (s s' : Rows) : Prop
  | enqueue (e : Enqueue)
      (hfresh : ∀ id request, s.requests.get? id = some request →
        request.identityDigest ≠ e.identityDigest)
      (hinsert : s.requests.insert? e.requestId (pendingRequest e) = some s'.requests)
      (hlog : s'.transitions = s.transitions ++ [⟨e.requestId, none, .pending, "ENQUEUED", 0⟩])
  | change {id : Uuid} {old new : RequestQueueRequest} {reason : String}
      (hget : s.requests.get? id = some old) (hchange : RequestChange old new reason)
      (hrequests : s'.requests = s.requests.modify id (fun _ => new))
      (hlog : s'.transitions = s.transitions ++
        [⟨id, some old.status, new.status, reason, new.attemptCount⟩])

/-- The queue row and the receipts are not looked at. -/
def SameRequests (s s' : Rows) : Prop := s'.requests = s.requests ∧ s'.transitions = s.transitions

abbrev Moves : Rows → Rows → Prop := Relation.ReflTransGen (fun s s' => Move s s' ∨ SameRequests s s')

section Writes
variable {s s' : Rows} {queue session changed : RequestQueue} {call : ClaimCall}

theorem flush_same {loaded stored : RequestQueue} {rows : Rows}
    (h : flush loaded stored s = .ok rows) : SameRequests s rows := by
  simp only [flush, bind_ok, require_ok, pure_ok] at h
  obtain ⟨-, -, rfl⟩ := h
  exact ⟨rfl, rfl⟩

theorem Move.moves (h : Move s s') : Moves s s' := .single (.inl h)

theorem SameRequests.moves (h : SameRequests s s') : Moves s s' := .single (.inr h)

theorem insertRequest_moves {e : Enqueue} (h : insertRequest e queue s = .ok s') : Moves s s' := by
  simp only [insertRequest, bind_ok, require_ok, demand_ok, Option.isNone_iff_eq_none] at h
  obtain ⟨-, hnone, requests, hinsert, receipts, -, hflush⟩ := h
  obtain ⟨hrequests, hlog⟩ := flush_same hflush
  refine (Move.enqueue e (fun id request hget => ?_) (hrequests ▸ hinsert) hlog).moves
  exact of_decide_eq_false (Table.find?_none hnone hget)

theorem claimExpired_claimed {now : Time} {request : RequestQueueRequest}
    (h : claimExpired now request = true) : request.status = .claimed := by
  simp only [claimExpired, Bool.and_eq_true, decide_eq_true_eq] at h
  exact h.1

theorem reclaim_moves {now : Time} (entries : List (Uuid × RequestQueueRequest)) (s : Rows)
    (hnodup : (entries.map Prod.fst).Nodup)
    (hentries : ∀ entry ∈ entries, s.requests.get? entry.1 = some entry.2 ∧
      claimExpired now entry.2 = true) : Moves s (entries.foldl reclaimRequest s) := by
  induction entries generalizing s with
  | nil => exact .refl
  | cons entry entries ih =>
    rw [List.map_cons, List.nodup_cons] at hnodup
    obtain ⟨hget, hexpired⟩ := hentries entry List.mem_cons_self
    have hfirst : Move s (reclaimRequest s entry) := by
      refine .change hget (.reclaimed now hexpired) rfl ?_
      rw [claimExpired_claimed hexpired]
      rfl
    refine hfirst.moves.trans (ih _ hnodup.2 (fun other hother => ?_))
    have hne : other.1 ≠ entry.1 := fun heq => hnodup.1 (heq ▸ List.mem_map_of_mem hother)
    obtain ⟨hother', hstatus⟩ := hentries other (List.mem_cons_of_mem _ hother)
    exact ⟨(Table.get?_modify_ne _ _ hne).trans hother', hstatus⟩

theorem reclaimExpiredRequests_moves
    (h : reclaimExpiredRequests call queue s = .ok (session, s')) : Moves s s' := by
  simp only [reclaimExpiredRequests, bind_ok, pure_ok] at h
  obtain ⟨flushed, hflush, hpair⟩ := h
  obtain ⟨rfl, rfl⟩ := Prod.mk.inj hpair
  have hqueue : Moves s { s with queue := queue } := SameRequests.moves ⟨rfl, rfl⟩
  have hloop : Moves { s with queue := queue } ((s.requests.select (fun _ request =>
      claimExpired call.now request)).foldl reclaimRequest { s with queue := queue }) :=
    reclaim_moves _ _ (Table.select_keys_nodup _ _)
      (fun entry hentry => (Table.mem_select _ _ entry.1 entry.2).1 hentry)
  exact (hqueue.trans hloop).trans (flush_same hflush).moves

theorem claimNextRequest_moves {claimed : Option Uuid}
    (h : claimNextRequest call session s = .ok (changed, s', claimed)) : Moves s s' := by
  simp only [claimNextRequest, bind_ok, require_ok] at h
  obtain ⟨-, -, h⟩ := h
  split at h
  · obtain ⟨-, hrest⟩ := Prod.mk.inj (pure_ok.1 h)
    obtain ⟨rfl, -⟩ := Prod.mk.inj hrest
    exact .refl
  next id request hpending =>
    simp only [bind_ok, pure_ok] at h
    obtain ⟨flushed, hflush, hpair⟩ := h
    obtain ⟨-, hrest⟩ := Prod.mk.inj hpair
    obtain ⟨rfl, -⟩ := Prod.mk.inj hrest
    obtain ⟨hget, hstatus⟩ := nextPending_some hpending
    obtain ⟨hrequests, hlog⟩ := flush_same hflush
    refine (Move.change hget (.claimed call hstatus) hrequests ?_).moves
    rw [hstatus]
    exact hlog

theorem finishRequest_move {c : Completion} {request : RequestQueueRequest}
    (hget : s.requests.get? c.requestId = some request)
    (h : finishRequest c queue request s = .ok s') :
    claimHeld c request ∧ Move s s' ∧
      s'.requests.get? c.requestId = some (completedRequest c request) := by
  simp only [finishRequest, bind_ok, require_ok] at h
  obtain ⟨-, hheld, hflush⟩ := h
  obtain ⟨hrequests, hlog⟩ := flush_same hflush
  refine ⟨hheld, .change hget (.completed c hheld) hrequests ?_, ?_⟩
  · rw [hheld.1]
    exact hlog
  · rw [hrequests]
    exact (Table.get?_modify_self _ _ _).trans (by rw [hget, Option.map_some])

end Writes

/-- A commit is made under the queue's lock, and is a chain of writes. -/
theorem commit_moves {requests : ℕ → Request} {i : ℕ} {s s' : Rows} {t t' : Txn}
    (hknows : Knows s (requests i) t) (h : next requests i s t = .commit s' t') :
    t' = .finished ∧ Owns t .queue ∧ Moves s s' := by
  unfold next at h
  cases hrequest : requests i with
  | enqueue e =>
    simp only [hrequest] at h
    cases t with
    | unseen queue =>
      obtain ⟨hinsert, rfl⟩ := settle_commit h
      exact ⟨rfl, trivial, insertRequest_moves hinsert⟩
    | locked queue =>
      simp only [enqueueNext] at h
      split at h <;> cases h
    | _ => cases h
  | claim call =>
    simp only [hrequest] at h hknows
    cases t with
    | reclaimed queue session rows =>
      obtain ⟨hresult, rfl⟩ := settle_commit h
      obtain ⟨⟨changed, rows', claimed⟩, hclaim, rfl⟩ := map_ok.1 hresult
      exact ⟨rfl, trivial, (reclaimExpiredRequests_moves hknows).trans (claimNextRequest_moves hclaim)⟩
    | locked queue =>
      simp only [claimNext] at h
      split at h <;> cases h
    | _ => cases h
  | complete c =>
    simp only [hrequest] at h hknows
    cases t with
    | selected queue request =>
      obtain ⟨hfinish, rfl⟩ := settle_commit h
      exact ⟨rfl, trivial, (finishRequest_move hknows.2 hfinish).2.1.moves⟩
    | locked queue =>
      simp only [completeNext] at h
      split at h <;> cases h
    | _ => cases h

section Runs
variable {requests : ℕ → Request} {st : System Rows Txn Lock}

/-- What the queue's lock protects, whatever the counters are. -/
def locking (requests : ℕ → Request) : Protocol (next requests) .finished (fun _ _ _ => True) where
  Good _ := True
  Knows i s t := Knows s (requests i) t
  Owns := Owns
  run _ _ _ _ _ hknows _ h := next_run hknows h
  lock _ _ _ _ _ _ _ _ h := ⟨next_lock h, fun _ _ => .inl rfl⟩
  commit _ _ _ _ _ _ hknows _ h := by
    obtain ⟨rfl, howns, -⟩ := commit_moves hknows h
    exact ⟨trivial, knows_unowned _ id, fun _ => id,
      fun j _ _ hdisjoint => knows_unowned (requests j) (hdisjoint .queue howns)⟩
  stop _ _ _ _ _ _ _ h := by
    rw [next_stop h]
    exact ⟨knows_unowned _ id, fun _ => id⟩
  abort := finished_knows requests

theorem step_locking (h : (locking requests).Holds st) (e : Event) :
    (locking requests).Holds (step (next requests) .finished st e) ∧
      Moves st.committed (step (next requests) .finished st e).committed := by
  refine ⟨(locking requests).step_holds h e ?_, ?_⟩
  · cases e with
    | advance i => exact fun _ => trivial
    | abort i => trivial
  · rcases committed_cases (next requests) .finished st e with hsame | ⟨i, t, -, hcommit⟩
    · rw [hsame]
    · exact (commit_moves (h.knows i) hcommit).2.2

theorem exec_locking (h : (locking requests).Holds st) (events : List Event) :
    (locking requests).Holds (exec (step (next requests) .finished) st events) ∧
      Moves st.committed (exec (step (next requests) .finished) st events).committed := by
  induction events generalizing st with
  | nil => exact ⟨h, .refl⟩
  | cons e events ih =>
    obtain ⟨hholds, hmoves⟩ := step_locking h e
    obtain ⟨hlast, hrest⟩ := ih hholds
    exact ⟨hlast, hmoves.trans hrest⟩

def systemAfter (requests : ℕ → Request) (events : List Event) : System Rows Txn Lock :=
  exec (step (next requests) .finished) (opening newQueue .ready) events

/-- The rows that are committed after some interleaving. -/
def rowsAfter (requests : ℕ → Request) (events : List Event) : Rows :=
  (systemAfter requests events).committed

theorem systemAfter_locking (requests : ℕ → Request) (events : List Event) :
    (locking requests).Holds (systemAfter requests events) :=
  (exec_locking ((locking requests).holds_opening (t := Txn.ready) trivial
    (fun _ => knows_unowned _ id) (fun _ => id)) events).1

theorem systemAfter_append (requests : ℕ → Request) (events later : List Event) :
    systemAfter requests (events ++ later) =
      exec (step (next requests) .finished) (systemAfter requests events) later :=
  exec_append _ _ events later

theorem rowsAfter_moves (requests : ℕ → Request) (events later : List Event) :
    Moves (rowsAfter requests events) (rowsAfter requests (events ++ later)) := by
  rw [rowsAfter, rowsAfter, systemAfter_append]
  exact (exec_locking (systemAfter_locking requests events) later).2

theorem Moves.keeps {P : Rows → Prop} {s s' : Rows} (h : Moves s s')
    (hsame : ∀ s s', P s → SameRequests s s' → P s') (hmove : ∀ s s', P s → Move s s' → P s')
    (hs : P s) : P s' := by
  induction h with
  | refl => exact hs
  | tail _ hlast ih => exact hlast.elim (hmove _ _ ih) (hsame _ _ ih)

theorem rowsAfter_invariant {P : Rows → Prop} (requests : ℕ → Request) (events : List Event)
    (hnew : P newQueue) (hsame : ∀ s s', P s → SameRequests s s' → P s')
    (hmove : ∀ s s', P s → Move s s' → P s') : P (rowsAfter requests events) :=
  (rowsAfter_moves requests [] events).keeps hsame hmove hnew

end Runs

def statusOf (rows : Rows) (id : Uuid) : Option QueueStatus :=
  (rows.requests.get? id).map (·.status)

def changesOf (rows : Rows) (id : Uuid) : List (Option QueueStatus × QueueStatus) :=
  (rows.transitions.filter (fun t => t.requestId = id)).map (fun t => (t.fromStatus, t.toStatus))

def Terminal (status : QueueStatus) : Prop := status = .handled ∨ status = .failed

/-- The completion names the worker and the token of the claim that is held now, before it expires. -/
def HoldsClaim (rows : Rows) (c : Completion) : Prop :=
  ∃ request expiry, rows.requests.get? c.requestId = some request ∧ request.status = .claimed ∧
    request.claimedBy = some c.workerId ∧ request.claimToken = some c.claimToken ∧
    request.claimExpiresAt = some expiry ∧ c.now < expiry

structure Bounded (request : RequestQueueRequest) : Prop where
  attempts : request.attemptCount ≤ request.maxAttempts
  pending : request.status = .pending → request.attemptCount < request.maxAttempts

section Changes
variable {s s' : Rows} {id : Uuid} {old new : RequestQueueRequest} {reason : String}

theorem Bounded.change (h : Bounded old) (hchange : RequestChange old new reason) : Bounded new := by
  cases hchange with
  | reclaimed now hexpired =>
    refine ⟨h.attempts, fun hpending => ?_⟩
    simp only [reclaimedRequest, reclaimTarget] at hpending ⊢
    split_ifs at hpending with hspent
    exact Nat.not_le.1 hspent
  | claimed call hpending => exact ⟨h.pending hpending, nofun⟩
  | completed c hheld =>
    refine ⟨h.attempts, fun hpending => ?_⟩
    simp only [completedRequest] at hpending
    cases hc : c.outcome <;> rw [hc] at hpending <;> cases hpending

theorem status_changed (hchange : RequestChange old new reason) :
    old.status ≠ new.status ∧ ¬ Terminal old.status ∧ new.identityDigest = old.identityDigest := by
  cases hchange with
  | reclaimed now hexpired =>
    rw [claimExpired_claimed hexpired]
    refine ⟨?_, fun h => h.elim nofun nofun, rfl⟩
    simp only [reclaimedRequest, reclaimTarget]
    split_ifs <;> exact nofun
  | claimed call hpending =>
    rw [hpending]
    exact ⟨nofun, fun h => h.elim nofun nofun, rfl⟩
  | completed c hheld =>
    rw [hheld.1]
    refine ⟨?_, fun h => h.elim nofun nofun, rfl⟩
    simp only [completedRequest]
    cases c.outcome <;> exact nofun

theorem request_move (hmove : Move s s') (id : Uuid) :
    (s'.requests.get? id = s.requests.get? id ∧ changesOf s' id = changesOf s id) ∨
    (∃ e, s.requests.get? id = none ∧ s'.requests.get? id = some (pendingRequest e) ∧
      changesOf s' id = changesOf s id ++ [(none, .pending)]) ∨
    ∃ old new reason, s.requests.get? id = some old ∧ RequestChange old new reason ∧
      s'.requests.get? id = some new ∧
      changesOf s' id = changesOf s id ++ [(some old.status, new.status)] := by
  have hother : ∀ (t : RequestQueueTransition) (log : List RequestQueueTransition),
      t.requestId ≠ id → (log ++ [t]).filter (fun t => t.requestId = id) =
        log.filter (fun t => t.requestId = id) := by
    intro t log hne
    simp [hne]
  cases hmove with
  | enqueue e hfresh hinsert hlog =>
    by_cases hid : e.requestId = id
    · subst hid
      refine .inr (.inl ⟨e, Table.insert_fresh hinsert, ?_, ?_⟩)
      · rw [Table.get?_insert hinsert, if_pos rfl]
      · rw [changesOf, hlog]
        simp [changesOf]
    · refine .inl ⟨?_, ?_⟩
      · rw [Table.get?_insert hinsert, if_neg (Ne.symm hid)]
      · rw [changesOf, hlog, hother _ _ hid, ← changesOf]
  | @change id' old new reason hget hchange hrequests hlog =>
    by_cases hid : id' = id
    · subst hid
      refine .inr (.inr ⟨old, new, reason, hget, hchange, ?_, ?_⟩)
      · rw [hrequests, Table.get?_modify_self, hget, Option.map_some]
      · rw [changesOf, hlog]
        simp [changesOf]
    · refine .inl ⟨?_, ?_⟩
      · rw [hrequests, Table.get?_modify_ne _ _ (Ne.symm hid)]
      · rw [changesOf, hlog, hother _ _ hid, ← changesOf]

theorem bounded_move (h : ∀ id request, s.requests.get? id = some request → Bounded request)
    (hmove : Move s s') (id : Uuid) (request : RequestQueueRequest)
    (hget : s'.requests.get? id = some request) : Bounded request := by
  rcases request_move hmove id with ⟨hsame, -⟩ | ⟨e, -, hnew, -⟩ | ⟨old, new, _, hold, hchange, hnew, -⟩
  · exact h id request (hsame ▸ hget)
  · obtain rfl := Option.some.inj (hnew.symm.trans hget)
    exact ⟨Nat.zero_le _, fun _ => Nat.succ_pos 2⟩
  · obtain rfl := Option.some.inj (hnew.symm.trans hget)
    exact (h id old hold).change hchange

theorem chain_move (h : Composes none (changesOf s id) (statusOf s id)) (hmove : Move s s') :
    Composes none (changesOf s' id) (statusOf s' id) := by
  unfold statusOf at h ⊢
  rcases request_move hmove id with ⟨hsame, hlog⟩ | ⟨e, hnone, hnew, hlog⟩ |
    ⟨old, new, reason, hold, hchange, hnew, hlog⟩
  · rw [hsame, hlog]
    exact h
  · rw [hnone] at h
    rw [hnew, hlog]
    exact h.snoc nofun
  · rw [hold] at h
    rw [hnew, hlog]
    exact h.snoc (fun heq => (status_changed hchange).1 (Option.some.inj heq))

theorem terminal_move {status : QueueStatus} (hterminal : Terminal status)
    (h : statusOf s id = some status) (hmove : Move s s') : statusOf s' id = some status := by
  unfold statusOf at h ⊢
  rcases request_move hmove id with ⟨hsame, -⟩ | ⟨e, hnone, -⟩ | ⟨old, new, reason, hold, hchange, -⟩
  · rw [hsame, h]
  · rw [hnone] at h
    cases h
  · rw [hold] at h
    obtain rfl := Option.some.inj h
    exact absurd hterminal (status_changed hchange).2.1

/-- No two requests have the same identity. -/
def Distinct (s : Rows) : Prop :=
  ∀ id id' request request', s.requests.get? id = some request →
    s.requests.get? id' = some request' → request.identityDigest = request'.identityDigest → id = id'

theorem distinct_move (h : Distinct s) (hmove : Move s s') : Distinct s' := by
  cases hmove with
  | enqueue e hfresh hinsert hlog =>
    intro id id' request request' hget hget' hsame
    rw [Table.get?_insert hinsert] at hget hget'
    split_ifs at hget hget' with hid hid' hid'
    · rw [hid, hid']
    · obtain rfl := Option.some.inj hget
      exact absurd hsame.symm (hfresh id' request' hget')
    · obtain rfl := Option.some.inj hget'
      exact absurd hsame (hfresh id request hget)
    · exact h id id' request request' hget hget' hsame
  | @change id₀ old new reason hold hchange hrequests hlog =>
    -- every row of the new table has the identity that the old row under its key had
    have hkept : ∀ id request, s'.requests.get? id = some request →
        ∃ before, s.requests.get? id = some before ∧
          before.identityDigest = request.identityDigest := by
      intro id request hget
      rw [hrequests, Table.get?_modify] at hget
      split_ifs at hget with hid
      · subst hid
        rw [hold, Option.map_some, Option.some.injEq] at hget
        exact ⟨old, hold, hget ▸ (status_changed hchange).2.2.symm⟩
      · exact ⟨request, hget, rfl⟩
    intro id id' request request' hget hget' hsame
    obtain ⟨before, hbefore, hdigest⟩ := hkept id request hget
    obtain ⟨before', hbefore', hdigest'⟩ := hkept id' request' hget'
    exact h id id' before before' hbefore hbefore' (hdigest.trans (hsame.trans hdigest'.symm))

end Changes
section Completions
variable {requests : ℕ → Request} {events : List Event} {i : ℕ} {c : Completion}

theorem rowsAfter_snoc (requests : ℕ → Request) (events : List Event) (e : Event) :
    rowsAfter requests (events ++ [e]) =
      (step (next requests) .finished (systemAfter requests events) e).committed := by
  rw [rowsAfter, systemAfter_append]
  rfl

theorem completion_effect (hrequest : requests i = .complete c)
    (heffect : rowsAfter requests (events ++ [.advance i]) ≠ rowsAfter requests events) :
    HoldsClaim (rowsAfter requests events) c ∧
      statusOf (rowsAfter requests (events ++ [.advance i])) c.requestId =
        some c.outcome.status := by
  rw [rowsAfter_snoc] at heffect ⊢
  rcases committed_cases (next requests) .finished (systemAfter requests events) (.advance i) with
    hsame | ⟨i', t, hi, hcommit⟩
  · exact absurd hsame heffect
  obtain rfl := Event.advance.inj hi
  have hknows : Knows _ (requests i) ((systemAfter requests events).txn i) :=
    (systemAfter_locking requests events).knows i
  rw [hrequest] at hknows
  simp only [next, hrequest] at hcommit
  cases htxn : (systemAfter requests events).txn i with
  | selected queue request =>
    rw [htxn] at hcommit hknows
    obtain ⟨hfinish, -⟩ := settle_commit hcommit
    obtain ⟨hheld, -, hafter⟩ := finishRequest_move hknows.2 hfinish
    obtain ⟨hclaimed, hworker, htoken, hexpiry⟩ := hheld
    obtain ⟨hsome, hlt⟩ := (Option.any_eq_true_iff_get _ _).1 hexpiry
    refine ⟨⟨request, _, hknows.2, hclaimed, hworker, htoken, (Option.some_get hsome).symm,
      of_decide_eq_true hlt⟩, ?_⟩
    rw [statusOf, hafter, Option.map_some]
    rfl
  | locked queue =>
    rw [htxn, completeNext] at hcommit
    split at hcommit <;> cases hcommit
  | _ =>
    rw [htxn] at hcommit
    cases hcommit

theorem outcome_terminal (outcome : RequestQueues.Outcome) : Terminal outcome.status := by
  cases outcome
  · exact .inl rfl
  · exact .inr rfl

theorem terminal_stays {id : Uuid} {status : QueueStatus} (hterminal : Terminal status)
    (h : statusOf (rowsAfter requests events) id = some status) (later : List Event) :
    statusOf (rowsAfter requests (events ++ later)) id = some status := by
  refine (rowsAfter_moves requests events later).keeps (P := fun rows => statusOf rows id = some status)
    (fun s s' hs hsame => ?_) (fun _ _ => terminal_move hterminal) h
  rw [statusOf, hsame.1]
  exact hs

end Completions

/-- The lifecycle of a request, after every interleaving of requests to the queue. -/
theorem request_lifecycle (requests : ℕ → Request) (events : List Event) :
    (∀ id status, Terminal status → statusOf (rowsAfter requests events) id = some status →
      ∀ later, statusOf (rowsAfter requests (events ++ later)) id = some status) ∧
    (∀ id request, (rowsAfter requests events).requests.get? id = some request →
      request.attemptCount ≤ request.maxAttempts) ∧
    (∀ i c, requests i = .complete c →
      rowsAfter requests (events ++ [.advance i]) ≠ rowsAfter requests events →
      HoldsClaim (rowsAfter requests events) c ∧
      statusOf (rowsAfter requests (events ++ [.advance i])) c.requestId = some c.outcome.status ∧
      ∀ middle j c', requests j = .complete c' → c'.requestId = c.requestId →
        rowsAfter requests (events ++ [.advance i] ++ middle ++ [.advance j]) =
          rowsAfter requests (events ++ [.advance i] ++ middle)) ∧
    (∀ id, Composes none (changesOf (rowsAfter requests events) id)
      (statusOf (rowsAfter requests events) id)) ∧
    (∀ id id' request request', (rowsAfter requests events).requests.get? id = some request →
      (rowsAfter requests events).requests.get? id' = some request' →
      request.identityDigest = request'.identityDigest → id = id') := by
  refine ⟨fun id status hterminal h => terminal_stays hterminal h, ?_, ?_, fun id => ?_, ?_⟩
  · have hbounded : ∀ id request, (rowsAfter requests events).requests.get? id = some request →
        Bounded request :=
      rowsAfter_invariant (P := fun rows => ∀ id request, rows.requests.get? id = some request →
        Bounded request) requests events (fun _ _ hget => (nomatch hget))
        (fun _ _ hs hsame => hsame.1 ▸ hs) (fun _ _ => bounded_move)
    exact fun id request hget => (hbounded id request hget).attempts
  · intro i c hrequest heffect
    obtain ⟨hholds, hstatus⟩ := completion_effect hrequest heffect
    refine ⟨hholds, hstatus, fun middle j c' hrequest' hid => ?_⟩
    by_contra hchanged
    obtain ⟨⟨request, _, hget, hclaimed, -⟩, -⟩ := completion_effect hrequest' hchanged
    have hfinal := terminal_stays (outcome_terminal c.outcome) hstatus middle
    rw [statusOf, ← hid, hget, Option.map_some, hclaimed, Option.some.injEq] at hfinal
    cases hc : c.outcome <;> rw [hc] at hfinal <;> cases hfinal
  · refine rowsAfter_invariant (P := fun rows => Composes none (changesOf rows id) (statusOf rows id))
      requests events rfl (fun s s' hs hsame => ?_) (fun _ _ => chain_move)
    rw [changesOf, statusOf, hsame.1, hsame.2]
    exact hs
  · exact rowsAfter_invariant (P := Distinct) requests events (fun _ _ _ _ hget => (nomatch hget))
      (fun s s' hs hsame => by rw [Distinct, hsame.1]; exact hs) (fun _ _ => distinct_move)

end RoozDataCloud.QueueLifecycle
