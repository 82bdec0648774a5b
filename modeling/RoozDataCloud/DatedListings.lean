import RoozDataCloud.KeyValueListing
import Mathlib.Data.Prod.Lex

set_option autoImplicit false

/-!
# Lists by time

Runs, request queues and the transitions of a queue are listed with the latest
first. Rows of one time are told apart by their identifiers, and so is the place
of a cursor among them.
-/
namespace RoozDataCloud.DatedListings
open KeyedTable KeysetPages Cursors FallibleSteps
open ExecutionModels (RunStatus apiError)
open CursorSeparation (Page Issued Listed decode_accepts)
open KeyValueListing (normalizeLimit)

section Queries
variable {Id Stamp Row : Type} [LinearOrder Id] [LinearOrder Stamp]

/-- The clause of a query that begins behind a cursor. -/
def behind (stampOf : Row → Stamp) : Option (Stamp × Id) → Id → Row → Bool
  | none, _, _ => true
  | some (createdAt, resourceId), id, row =>
    stampOf row < createdAt || (stampOf row = createdAt && id < resourceId)

/-- The order by time and then by identifier, both descending. -/
def latestFirst (stampOf : Row → Stamp) (a b : Id × Row) : Prop :=
  stampOf b.2 < stampOf a.2 ∨ (stampOf b.2 = stampOf a.2 ∧ b.1 ≤ a.1)

instance (stampOf : Row → Stamp) : DecidableRel (fun a b : Id × Row => latestFirst stampOf a b) :=
  fun _ _ => inferInstanceAs (Decidable (_ ∨ _))

/-- The query of the three lists: a page, and whether there are rows behind it. -/
def selectPage (table : Table Id Row) (stampOf : Row → Stamp) (wanted : Row → Bool)
    (cursor : Option (Stamp × Id)) (limit : ℕ) : List (Id × Row) × Bool :=
  let rows := ((table.select (fun id row => wanted row && behind stampOf cursor id row)).insertionSort
    (latestFirst stampOf)).take (limit + 1)
  (rows.take limit, decide (limit < rows.length))

end Queries

section Lists
variable {Id Stamp : Type}

structure Run (Id Stamp : Type) where
  projectId : Id
  status : RunStatus
  queuedAt : Stamp

structure RequestQueue (Id Stamp : Type) where
  projectId : Id
  createdAt : Stamp

structure RequestQueueTransition (Id Stamp : Type) where
  queueId : Id
  requestId : Id
  createdAt : Stamp

variable [LinearOrder Id] [LinearOrder Stamp]

def listProjectRuns (runs : Table Id (Run Id Stamp)) (projectId : Id) (status : Option RunStatus) :
    Option (Stamp × Id) → ℕ → List (Id × Run Id Stamp) × Bool :=
  selectPage runs Run.queuedAt
    (fun run => decide (run.projectId = projectId) && status.all (fun s => decide (run.status = s)))

def listRequestQueues (queues : Table Id (RequestQueue Id Stamp)) (projectId : Id) :
    Option (Stamp × Id) → ℕ → List (Id × RequestQueue Id Stamp) × Bool :=
  selectPage queues RequestQueue.createdAt (fun queue => decide (queue.projectId = projectId))

def listQueueTransitions (transitions : Table Id (RequestQueueTransition Id Stamp)) (queueId : Id)
    (requestId : Option Id) :
    Option (Stamp × Id) → ℕ → List (Id × RequestQueueTransition Id Stamp) × Bool :=
  selectPage transitions RequestQueueTransition.createdAt (fun transition =>
    decide (transition.queueId = queueId) && requestId.all (fun r => decide (transition.requestId = r)))

end Lists

section Routes
variable {Id Stamp Row : Type}

/-- What a route answers. What is shown of a row is left out. -/
structure Reply (Id Row : Type) where
  data : List (Id × Row)
  nextCursor : Option String

/-- `next_cursor is not None` -/
def Reply.hasMore (reply : Reply Id Row) : Bool := reply.nextCursor.isSome

def placed : Position Id Stamp → Option (Stamp × Id)
  | .at createdAt resourceId => some (createdAt, resourceId)
  | _ => none

/-- The body of the three routes. -/
def listRoute (decode : Option String → Except CursorError (Option (Position Id Stamp)))
    (encode : Stamp → Id → String) (stampOf : Row → Stamp)
    (list : Option (Stamp × Id) → ℕ → List (Id × Row) × Bool) (limit : ℤ) (cursor : Option String) :
    Except CursorError (Reply Id Row) := do
  let normalized ← normalizeLimit limit
  let position ← decode cursor
  let (rows, more) := list (position.bind placed) normalized
  pure ⟨rows, if more then rows.getLast?.map (fun last => encode (stampOf last.2) last.1) else none⟩

variable [LinearOrder Id] [LinearOrder Stamp] (lib : Signing Id Stamp)

def listProjectRunsRoute (runs : Table Id (Run Id Stamp)) (projectId : Id)
    (status : Option RunStatus) : ℤ → Option String → Except CursorError (Reply Id (Run Id Stamp)) :=
  listRoute (decodeCursor lib) (encodeCursor lib) Run.queuedAt (listProjectRuns runs projectId status)

def listQueues (queues : Table Id (RequestQueue Id Stamp)) (projectId : Id) :
    ℤ → Option String → Except CursorError (Reply Id (RequestQueue Id Stamp)) :=
  listRoute (decodeRequestQueueListCursor lib projectId) (encodeRequestQueueListCursor lib projectId)
    RequestQueue.createdAt (listRequestQueues queues projectId)

def listTransitions (transitions : Table Id (RequestQueueTransition Id Stamp)) (queueId : Id)
    (requestId : Option Id) :
    ℤ → Option String → Except CursorError (Reply Id (RequestQueueTransition Id Stamp)) :=
  listRoute (decodeQueueTransitionCursor lib queueId requestId)
    (encodeQueueTransitionCursor lib queueId requestId) RequestQueueTransition.createdAt
    (listQueueTransitions transitions queueId requestId)

end Routes

section Pages
variable {Id Stamp Row : Type}

/-- A page of a route, as it is followed. -/
def followed (route : Option String → Except CursorError (Reply Id Row)) (cursor : Option String) :
    Except CursorError (List (Id × Row) × Option String) :=
  (fun reply => (reply.data, reply.nextCursor)) <$> route cursor

/-- `b` is listed behind `a`. -/
def Precedes [LT Id] [LT Stamp] (stampOf : Row → Stamp) (a b : Id × Row) : Prop :=
  stampOf b.2 < stampOf a.2 ∨ (stampOf b.2 = stampOf a.2 ∧ b.1 < a.1)

/-- What a service gives for a cursor. -/
def served (decode : Option String → Except CursorError (Option (Position Id Stamp)))
    (list : Option (Stamp × Id) → ℕ → List (Id × Row) × Bool) (limit : ℕ) (cursor : Option String) :
    Except CursorError (List (Id × Row) × Bool) :=
  (fun position => list (position.bind placed) limit) <$> decode cursor

/-- The pages come to an end and have between them the rows that match, each once and with the
latest first; a page has more behind it exactly when a row that matches comes behind it. The route
says of a page what the service says. -/
structure ListsExactly [LT Id] [LT Stamp] (stampOf : Row → Stamp) (Matches : Id → Row → Prop)
    (service : Option String → Except CursorError (List (Id × Row) × Bool))
    (route : Option String → Except CursorError (Reply Id Row)) : Prop where
  ends : ∃ fuel pages, walk (followed route) fuel none = .ok (some pages)
  ordered : ∀ fuel pages, walk (followed route) fuel none = .ok (some pages) →
    pages.flatten.Pairwise (Precedes stampOf)
  exact : ∀ fuel pages, walk (followed route) fuel none = .ok (some pages) →
    ∀ id row, (id, row) ∈ pages.flatten ↔ Matches id row
  more : ∀ cursor reply, Reached (followed route) cursor → route cursor = .ok reply →
    (reply.hasMore = true ↔
      ∃ id row, Matches id row ∧ ∀ other ∈ reply.data, Precedes stampOf other (id, row))
  flagged : ∀ cursor, (fun reply => (reply.data, reply.hasMore)) <$> route cursor = service cursor

end Pages

section Order
variable {Id Stamp Row : Type} [LinearOrder Id] [LinearOrder Stamp]

/-- The place of a row in the order of the list, from the earliest. -/
def place (stampOf : Row → Stamp) (row : Id × Row) : Stamp ×ₗ Id := toLex (stampOf row.2, row.1)

theorem precedes_iff {stampOf : Row → Stamp} {a b : Id × Row} :
    Precedes stampOf a b ↔ place stampOf b < place stampOf a := by
  simp [Precedes, place, Prod.Lex.toLex_lt_toLex]

theorem latestFirst_iff {stampOf : Row → Stamp} {a b : Id × Row} :
    latestFirst stampOf a b ↔ place stampOf b ≤ place stampOf a := by
  simp [latestFirst, place, Prod.Lex.toLex_le_toLex]

theorem behind_iff {stampOf : Row → Stamp} {row other : Id × Row} :
    behind stampOf (some (stampOf row.2, row.1)) other.1 other.2 = true ↔
      Precedes stampOf row other := by
  simp [behind, Precedes]

instance (stampOf : Row → Stamp) : Std.Total (fun a b : Id × Row => latestFirst stampOf a b) where
  total a b := by
    rw [latestFirst_iff, latestFirst_iff]
    exact le_total _ _

instance (stampOf : Row → Stamp) :
    IsTrans (Id × Row) (fun a b => latestFirst stampOf a b) where
  trans a b c hab hbc := by
    rw [latestFirst_iff] at *
    exact hbc.trans hab

variable {table : Table Id Row} {stampOf : Row → Stamp} {wanted : Row → Bool}

omit [LinearOrder Stamp] in
theorem place_injective {a b : Id × Row} (ha : a ∈ table.rows) (hb : b ∈ table.rows)
    (h : place stampOf a = place stampOf b) : a = b := by
  have hid : a.1 = b.1 := congrArg (fun position => (ofLex position).2) h
  have hrow := (table.get?_eq_some a.1 a.2).2 ha
  rw [hid, (table.get?_eq_some b.1 b.2).2 hb] at hrow
  exact Prod.ext hid (Option.some.inj hrow).symm

/-- The rows of the list, in its order. -/
def listed (table : Table Id Row) (stampOf : Row → Stamp) (wanted : Row → Bool) : List (Id × Row) :=
  (table.select (fun _ row => wanted row)).insertionSort (latestFirst stampOf)

theorem mem_listed {id : Id} {row : Row} :
    (id, row) ∈ listed table stampOf wanted ↔ table.get? id = some row ∧ wanted row = true := by
  rw [listed, List.mem_insertionSort, Table.mem_select]

theorem listed_ordered (table : Table Id Row) (stampOf : Row → Stamp) (wanted : Row → Bool) :
    (listed table stampOf wanted).Pairwise (Precedes stampOf) := by
  have hsorted := List.pairwise_insertionSort (latestFirst stampOf)
    (table.select (fun _ row => wanted row))
  have hdistinct : (listed table stampOf wanted).Pairwise (fun a b => a ≠ b) :=
    (List.perm_insertionSort _ _).nodup_iff.2
      (List.Nodup.of_map Prod.fst (Table.select_keys_nodup _ _))
  refine (hsorted.and hdistinct).imp_of_mem ?_
  rintro ⟨id, row⟩ ⟨id', row'⟩ ha hb ⟨hle, hne⟩
  have hmem := (table.get?_eq_some id row).1 (mem_listed.1 ha).1
  have hmem' := (table.get?_eq_some id' row').1 (mem_listed.1 hb).1
  refine precedes_iff.2 (lt_of_le_of_ne (latestFirst_iff.1 hle) (fun hplace => hne ?_))
  exact (place_injective hmem' hmem hplace).symm

theorem selectPage_eq (cursor : Option (Stamp × Id)) (limit : ℕ) :
    selectPage table stampOf wanted cursor limit =
      let rest := (listed table stampOf wanted).filter (fun row => behind stampOf cursor row.1 row.2)
      (rest.take limit, decide (limit < rest.length)) := by
  have hselect : table.select (fun id row => wanted row && behind stampOf cursor id row) =
      (table.select (fun _ row => wanted row)).filter
        (fun row => behind stampOf cursor row.1 row.2) := by
    simp only [Table.select, List.filter_filter]
    exact List.filter_congr fun row _ => Bool.and_comm _ _
  have hanti : ∀ a ∈ table.select (fun _ row => wanted row),
      ∀ b ∈ table.select (fun _ row => wanted row),
      latestFirst stampOf a b → latestFirst stampOf b a → a = b := by
    intro a ha b hb hab hba
    rw [latestFirst_iff] at hab hba
    exact place_injective (List.mem_of_mem_filter ha) (List.mem_of_mem_filter hb)
      (le_antisymm hba hab)
  have hmore : ∀ m, limit < min (limit + 1) m ↔ limit < m := by omega
  unfold selectPage listed
  rw [hselect, insertionSort_filter _ _ _ hanti]
  dsimp only
  rw [List.take_take, min_eq_left (Nat.le_succ limit), List.length_take]
  simp only [hmore]

theorem filter_behind {before rest : List (Id × Row)} {row : Id × Row}
    (h : listed table stampOf wanted = before ++ row :: rest) :
    (listed table stampOf wanted).filter
      (fun other => behind stampOf (some (stampOf row.2, row.1)) other.1 other.2) = rest := by
  have hordered := listed_ordered table stampOf wanted
  rw [h] at hordered ⊢
  refine filter_later (fun a b => behind stampOf (some (stampOf a.2, a.1)) b.1 b.2) ?_
    (hordered.imp fun {a b} hab => ?_)
  · simp [behind]
  · have hback : ¬ behind stampOf (some (stampOf b.2, b.1)) a.1 a.2 = true := by
      rw [behind_iff, precedes_iff]
      exact lt_asymm (precedes_iff.1 hab)
    exact ⟨behind_iff.2 hab, Bool.not_eq_true _ ▸ hback⟩

end Order

section Walking
variable {Id Stamp Row : Type} [LinearOrder Id] [LinearOrder Stamp]
  {table : Table Id Row} {stampOf : Row → Stamp} {wanted : Row → Bool}
  {decode : Option String → Except CursorError (Option (Position Id Stamp))}
  {encode : Stamp → Id → String} {limit : ℤ}

/-- A decoder takes the cursors of its own list, and no cursor for the beginning. -/
structure Decodes (decode : Option String → Except CursorError (Option (Position Id Stamp)))
    (encode : Stamp → Id → String) : Prop where
  first : decode none = .ok none
  own : ∀ createdAt resourceId,
    decode (some (encode createdAt resourceId)) = .ok (some (.at createdAt resourceId))

theorem normalizeLimit_of (h : 1 ≤ limit ∧ limit ≤ 200) :
    normalizeLimit limit = .ok limit.toNat := by
  simp only [normalizeLimit, require, if_pos h]
  rfl

theorem followed_left (table : Table Id Row) (stampOf : Row → Stamp) (wanted : Row → Bool)
    (hdecodes : Decodes decode encode) (hlimit : 1 ≤ limit ∧ limit ≤ 200)
    {cursor : Option String} {rest : List (Id × Row)}
    (hleft : Behind (fun row => encode (stampOf row.2) row.1) (listed table stampOf wanted)
      cursor rest) :
    followed (listRoute decode encode stampOf (selectPage table stampOf wanted) limit) cursor =
      .ok (pageOf (fun row => encode (stampOf row.2) row.1) limit.toNat rest) := by
  have hnormal := normalizeLimit_of hlimit
  rcases hleft with ⟨rfl, rfl⟩ | ⟨before, row, hfound, rfl⟩
  · simp [followed, listRoute, hnormal, hdecodes.first, selectPage_eq, behind, pageOf, Bind.bind,
      Except.bind, pure, Except.pure]
  · simp [followed, listRoute, hnormal, hdecodes.own, selectPage_eq, placed, filter_behind hfound,
      pageOf, Bind.bind, Except.bind, pure, Except.pure]

theorem listRoute_flagged (table : Table Id Row) (stampOf : Row → Stamp) (wanted : Row → Bool)
    (hlimit : 1 ≤ limit ∧ limit ≤ 200) (cursor : Option String) :
    (fun reply => (reply.data, reply.hasMore)) <$>
        listRoute decode encode stampOf (selectPage table stampOf wanted) limit cursor =
      served decode (selectPage table stampOf wanted) limit.toNat cursor := by
  simp only [listRoute, normalizeLimit_of hlimit, served]
  cases decode cursor with
  | error e => rfl
  | ok position =>
    obtain ⟨rest, hpage⟩ : ∃ rest : List (Id × Row),
        selectPage table stampOf wanted (position.bind placed)
        limit.toNat = (rest.take limit.toNat, decide (limit.toNat < rest.length)) :=
      ⟨_, selectPage_eq _ _⟩
    have hpositive : 0 < limit.toNat := by omega
    have hlast : limit.toNat < rest.length → (rest.take limit.toNat).getLast?.isSome = true := by
      intro hmore
      rw [List.getLast?_isSome, ← List.length_pos_iff, List.length_take]
      omega
    by_cases hmore : limit.toNat < rest.length
    · simp [Reply.hasMore, hpage, hmore, hlast hmore, Bind.bind, Except.bind, pure, Except.pure]
    · simp [Reply.hasMore, hpage, hmore, Bind.bind, Except.bind, pure, Except.pure]

theorem listRoute_exact (table : Table Id Row) (stampOf : Row → Stamp) {wanted : Row → Bool}
    {Matches : Id → Row → Prop}
    (hmatches : ∀ id row, Matches id row ↔ table.get? id = some row ∧ wanted row = true)
    (hdecodes : Decodes decode encode) (hlimit : 1 ≤ limit ∧ limit ≤ 200) :
    ListsExactly stampOf Matches (served decode (selectPage table stampOf wanted) limit.toNat)
      (listRoute decode encode stampOf (selectPage table stampOf wanted) limit) := by
  have hserves := serves_pages (by omega) fun _ _ hleft =>
    followed_left table stampOf wanted hdecodes hlimit hleft
  obtain ⟨hends, hrows⟩ := walk_rows hserves (by omega)
  refine ⟨hends, fun fuel pages hwalk => ?_, fun fuel pages hwalk id row => ?_,
    fun cursor reply hreached hreply => ?_, listRoute_flagged table stampOf wanted hlimit⟩
  · rw [hrows fuel pages hwalk]
    exact listed_ordered table stampOf wanted
  · rw [hrows fuel pages hwalk, hmatches]
    exact mem_listed
  · have hfetch : followed (listRoute decode encode stampOf (selectPage table stampOf wanted) limit)
        cursor = .ok (reply.data, reply.nextCursor) := by
      rw [followed, hreply]
      rfl
    rw [Reply.hasMore, more_iff hserves (.inl ⟨rfl, rfl⟩) (listed_ordered table stampOf wanted)
      (fun a b hab hba => lt_asymm (precedes_iff.1 hab) (precedes_iff.1 hba)) hreached hfetch]
    constructor
    · rintro ⟨⟨id, row⟩, hmem, hbehind⟩
      exact ⟨id, row, (hmatches id row).2 (mem_listed.1 hmem), hbehind⟩
    · rintro ⟨id, row, hrow, hbehind⟩
      exact ⟨(id, row), mem_listed.2 ((hmatches id row).1 hrow), hbehind⟩

omit [LinearOrder Id] [LinearOrder Stamp] in
theorem decodes_own {lib : Signing Id Stamp} (page : Page Id) (hfilter : page.filter = none)
    (hlisted : ∀ t id, Listed page (.at t id : Position Id Stamp))
    (hencode : ∀ t id, CursorSeparation.encode lib page (.at t id) = some (encode t id))
    (hfirst : CursorSeparation.decode lib page none = .ok none) :
    Decodes (CursorSeparation.decode lib page) encode where
  first := hfirst
  own t id := by
    have hissued : Issued lib page (.at t id) (encode t id) :=
      ⟨fun _ hsome => (nomatch hfilter.symm.trans hsome), trivial, hlisted t id, hencode t id⟩
    exact decode_accepts hissued (.inl rfl)

end Walking

section Listings
variable {Id Stamp : Type} [LinearOrder Id] [LinearOrder Stamp]

def limitRefused : CursorError :=
  .api (apiError 422 "VALIDATION_FAILED" "The page limit must be between 1 and 200.")

end Listings
end RoozDataCloud.DatedListings
