import RoozDataCloud.Datasets

set_option autoImplicit false

/-!
# Concurrent appends to one dataset

An append loads the dataset row before it locks it. What it computes from an
outdated row starts at a sequence number that is taken, so it fails and leaves
the items, the receipts and the counters as they are.
-/
namespace RoozDataCloud.DatasetAppends
open KeyedTable ExecutionModels FallibleSteps ReadCommitted Datasets

inductive Lock where
  | dataset
  deriving DecidableEq

inductive Txn where
  | ready
  | loaded (dataset : Dataset)
  | locked (dataset : Dataset) (v : ValidatedDatasetAppend)
  | unseen (dataset : Dataset) (v : ValidatedDatasetAppend)
  | answered (outcome : DatasetAppendOutcome)
  | failed (e : Failure)
  | rolledBack

/-- `append_dataset_items` behind its permission dependency. -/
def next (codec : Codec) (requests : ℕ → AppendRequest) (i : ℕ) (s : Rows) :
    Txn → Action Rows Txn Lock
  | .ready => .run (.loaded s.dataset)
  | .loaded dataset =>
    match validateDatasetAppend codec (requests i).payload with
    | .ok v => .lock .dataset (.locked dataset v)
    | .error message => .stop (.failed (.value message))
  | .locked dataset v =>
    match s.receipts.get? v.idempotencyKey with
    | some receipt =>
      match replayReceipt v receipt with
      | .ok outcome => .stop (.answered outcome)
      | .error e => .stop (.failed e)
    | none => .run (.unseen dataset v)
  | .unseen dataset v =>
    match insertAppend codec (requests i).userId v dataset s with
    | .ok (s', receipt) => .commit s' (.answered { receipt := receipt, replayed := false })
    | .error e => .stop (.failed e)
  | .answered outcome => .stop (.answered outcome)
  | .failed e => .stop (.failed e)
  | .rolledBack => .stop .rolledBack

/-- The sequence counter is as the append loaded it, unless a quota refuses the append first. -/
def upToDate (codec : Codec) (s : Rows) : Txn → Bool
  | .unseen dataset v =>
    !(admitAppend codec v dataset).isOk || dataset.nextSequence = s.dataset.nextSequence
  | _ => true

def Current (codec : Codec) (_ : ℕ) (s : Rows) (t : Txn) : Prop := upToDate codec s t = true

instance decidableCurrent (codec : Codec) (i : ℕ) (s : Rows) (t : Txn) :
    Decidable (Current codec i s t) :=
  inferInstanceAs (Decidable (upToDate codec s t = true))

/-- The items are numbered without gap from one, the counters are theirs, and every item belongs to
the receipt whose range its number is in. -/
structure Accounted (codec : Codec) (rows : Rows) : Prop where
  sequences : ∀ k, (rows.items.get? k).isSome ↔ 1 ≤ k ∧ k ≤ rows.items.rows.length
  next_sequence : rows.dataset.nextSequence = rows.items.rows.length + 1
  item_count : rows.dataset.itemCount = rows.items.rows.length
  total_bytes : (rows.dataset.totalBytes : ℤ) = rows.items.sum (fun _ item => item.sizeBytes)
  canonical : ∀ k item, rows.items.get? k = some item →
    (codec.canonicalJsonBytes item.item).map List.length = some item.sizeBytes
  covered : ∀ k item, rows.items.get? k = some item →
    ∃ receipt, rows.receipts.get? item.receiptKey = some receipt ∧
      receipt.firstSequence ≤ k ∧ k < receipt.firstSequence + receipt.itemCount
  ranges : ∀ key receipt, rows.receipts.get? key = some receipt → 1 ≤ receipt.itemCount ∧
    ∀ k, receipt.firstSequence ≤ k → k < receipt.firstSequence + receipt.itemCount →
      ∃ item, rows.items.get? k = some item ∧ item.receiptKey = key

section Insertion
variable {codec : Codec} {v : ValidatedDatasetAppend} {dataset : Dataset} {s s' : Rows}
  {userId : Uuid} {receipt : DatasetAppendReceipt} {encoded : List (List UInt8)}

theorem encodeItems_ok {items : List Json} (h : encodeItems codec items = .ok encoded) :
    List.Forall₂ (fun item bytes => codec.canonicalJsonBytes item = some bytes) items encoded := by
  unfold encodeItems at h
  induction items generalizing encoded with
  | nil =>
    obtain rfl := pure_ok.1 h
    exact .nil
  | cons item items ih =>
    simp only [List.mapM_cons, bind_ok, demand_ok, pure_ok] at h
    obtain ⟨bytes, hbytes, rest, hrest, rfl⟩ := h
    exact .cons hbytes (ih hrest)

theorem encodeItems_error {items : List Json} {e : Failure}
    (h : encodeItems codec items = .error e) : e = .value notEncodable := by
  unfold encodeItems at h
  induction items with
  | nil => exact (pure_error.1 h).elim
  | cons item items ih =>
    simp only [List.mapM_cons, bind_error, demand_error, pure_error, and_false, exists_false,
      or_false] at h
    rcases h with ⟨-, rfl⟩ | ⟨bytes, -, hrest⟩
    · rfl
    · exact ih hrest

/-- The new items of an append: of its receipt, with their canonical sizes. -/
theorem newItems_spec {items : List Json} (key : String)
    (h : List.Forall₂ (fun item bytes => codec.canonicalJsonBytes item = some bytes) items encoded) :
    (List.zipWith (newItem codec key) items encoded).length = items.length ∧
      (∀ item ∈ List.zipWith (newItem codec key) items encoded, item.receiptKey = key ∧
        (codec.canonicalJsonBytes item.item).map List.length = some item.sizeBytes) ∧
      ((List.zipWith (newItem codec key) items encoded).map
        (fun item => (item.sizeBytes : ℤ))).sum = byteCount encoded := by
  induction h with
  | nil => exact ⟨rfl, fun item hitem => (nomatch hitem), rfl⟩
  | cons hbytes hrest ih =>
    obtain ⟨hlength, hitems, hsum⟩ := ih
    refine ⟨by simp [hlength], fun item hitem => ?_, ?_⟩
    · rw [List.zipWith_cons_cons, List.mem_cons] at hitem
      rcases hitem with rfl | hitem
      · exact ⟨rfl, by simp only [newItem, hbytes, Option.map_some]⟩
      · exact hitems item hitem
    · rw [List.zipWith_cons_cons, List.map_cons, List.sum_cons, hsum]
      simp only [newItem, byteCount, List.map_cons, List.sum_cons]
      push_cast
      rfl

theorem admitAppend_ok (h : admitAppend codec v dataset = .ok encoded) :
    encodeItems codec v.items = .ok encoded ∧ dataset.itemCount + v.itemCount ≤ 100000 ∧
      dataset.totalBytes + byteCount encoded ≤ 268435456 := by
  simp only [admitAppend, bind_ok, require_ok, pure_ok] at h
  obtain ⟨_, hencoded, -, hitems, -, hbytes, -, -, rfl⟩ := h
  exact ⟨hencoded, hitems, hbytes⟩

theorem admitAppend_error {e : Failure} (h : admitAppend codec v dataset = .error e) :
    e ≠ sequenceCollision := by
  simp only [admitAppend, bind_error, require_error, pure_error, and_false, exists_false,
    or_false] at h
  rcases h with hencode | ⟨encoded, -, ⟨-, rfl⟩ | ⟨_, -, ⟨-, rfl⟩ | ⟨_, -, -, rfl⟩⟩⟩
  · rw [encodeItems_error hencode]
    rintro ⟨⟩
  · rintro ⟨⟩
  · rintro ⟨⟩
  · simp only [sequenceCollision, ne_eq, Failure.integrity.injEq]
    decide

/-- A row as it was stored at some time: it is the stored row, or behind it. -/
structure Behind (loaded stored : Dataset) : Prop where
  counter : loaded.nextSequence = loaded.itemCount + 1
  behind : loaded = stored ∨ loaded.nextSequence < stored.nextSequence

theorem flushDataset_self (loaded changed : Dataset) :
    flushDataset loaded changed loaded = changed := by
  simp only [flushDataset, flushColumn_self]

theorem insertFrom_outdated (ha : Accounted codec s) (hb : Behind dataset s.dataset)
    (hne : dataset.nextSequence ≠ s.dataset.nextSequence) {items : List DatasetItem}
    (hitems : items ≠ []) : s.items.insertFrom? dataset.nextSequence items = none := by
  have hlt : dataset.nextSequence < s.dataset.nextSequence := by
    rcases hb.behind with rfl | hlt
    · exact absurd rfl hne
    · exact hlt
  refine insertFrom_taken ((ha.sequences _).2 ?_) hitems
  have hcounter := hb.counter
  have hnext := ha.next_sequence
  omega

theorem insertFrom_current (ha : Accounted codec s) (items : List DatasetItem) :
    ∃ items', s.items.insertFrom? s.dataset.nextSequence items = some items' := by
  apply insertFrom_of_fresh
  intro k hk
  rw [← Option.not_isSome_iff_eq_none, ha.sequences]
  have hnext := ha.next_sequence
  omega

theorem newItems_nonempty (hencoded : encodeItems codec v.items = .ok encoded) :
    List.zipWith (newItem codec v.idempotencyKey) v.items encoded ≠ [] := by
  intro hnil
  have hlength := (newItems_spec v.idempotencyKey (encodeItems_ok hencoded)).1
  rw [hnil, List.length_nil] at hlength
  have hbounds := v.item_bounds
  omega

/-- What an append that goes through has written. It has loaded the stored row. -/
theorem insertAppend_ok (ha : Accounted codec s) (hb : Behind dataset s.dataset)
    (h : insertAppend codec userId v dataset s = .ok (s', receipt)) :
    dataset = s.dataset ∧ ∃ encoded, encodeItems codec v.items = .ok encoded ∧
      receipt = newReceipt v encoded s.dataset userId ∧
      s'.dataset = counted v encoded s.dataset ∧
      s.receipts.insert? v.idempotencyKey receipt = some s'.receipts ∧
      s.items.insertFrom? s.dataset.nextSequence
        (List.zipWith (newItem codec v.idempotencyKey) v.items encoded) = some s'.items := by
  simp only [insertAppend, bind_ok, demand_ok, require_ok, pure_ok, Prod.mk.injEq] at h
  obtain ⟨encoded, hadmit, receipts, hreceipts, items, hitems, -, -, -, -, -, -, rfl, rfl⟩ := h
  obtain ⟨hencoded, -, -⟩ := admitAppend_ok hadmit
  obtain rfl : dataset = s.dataset := by
    refine hb.behind.resolve_right (fun hlt => ?_)
    rw [insertFrom_outdated ha hb (Nat.ne_of_lt hlt) (newItems_nonempty hencoded)] at hitems
    cases hitems
  exact ⟨rfl, encoded, hencoded, rfl, flushDataset_self .., hreceipts, hitems⟩

theorem insertAppend_collides (userId : Uuid) (ha : Accounted codec s) (hb : Behind dataset s.dataset)
    (hfresh : s.receipts.get? v.idempotencyKey = none) :
    insertAppend codec userId v dataset s = .error sequenceCollision ↔
      upToDate codec s (.unseen dataset v) = false := by
  simp only [upToDate, Bool.or_eq_false_iff, Bool.not_eq_false', decide_eq_false_iff_not]
  cases hadmit : admitAppend codec v dataset with
  | error e =>
    simp only [insertAppend, hadmit]
    refine iff_of_false (fun h => ?_) (fun h => Bool.noConfusion h.1)
    exact admitAppend_error hadmit (Except.error.inj h)
  | ok encoded =>
    obtain ⟨hencoded, hitemQuota, hbyteQuota⟩ := admitAppend_ok hadmit
    obtain ⟨receipts, hreceipts⟩ :=
      Table.insert_of_fresh (r := newReceipt v encoded dataset userId) hfresh
    by_cases heq : dataset.nextSequence = s.dataset.nextSequence
    · obtain rfl : dataset = s.dataset :=
        hb.behind.resolve_right (fun hlt => Nat.lt_irrefl _ (heq ▸ hlt))
      refine iff_of_false (fun h => ?_) (fun h => h.2 rfl)
      -- Nothing is left that could fail: the numbers are free and the constraints hold.
      obtain ⟨items, hitems⟩ := insertFrom_current ha
        (List.zipWith (newItem codec v.idempotencyKey) v.items encoded)
      have hcounter : (counted v encoded s.dataset).nextSequence =
          (counted v encoded s.dataset).itemCount + 1 := by
        have hstored := hb.counter
        simp only [counted]
        omega
      have hok : insertAppend codec userId v s.dataset s =
          .ok ({ dataset := counted v encoded s.dataset, receipts := receipts, items := items },
            newReceipt v encoded s.dataset userId) := by
        simp only [insertAppend, bind_ok, demand_ok, require_ok, pure_ok, flushDataset_self]
        exact ⟨encoded, hadmit, receipts, hreceipts, items, hitems, (), hcounter, (), hitemQuota, (),
          hbyteQuota, rfl⟩
      rw [hok] at h
      cases h
    · refine iff_of_true ?_ ⟨rfl, heq⟩
      have hnone := insertFrom_outdated ha hb heq (newItems_nonempty hencoded)
      simp only [insertAppend, bind_error, demand_error]
      exact .inr ⟨encoded, hadmit, .inr ⟨receipts, demand_ok.2 hreceipts, .inl ⟨hnone, trivial⟩⟩⟩

theorem sequences_append (ha : Accounted codec s) (hb : Behind dataset s.dataset)
    (h : insertAppend codec userId v dataset s = .ok (s', receipt)) :
    (∀ k, (s'.items.get? k).isSome ↔ 1 ≤ k ∧ k ≤ s'.items.rows.length) ∧
      s'.dataset.nextSequence = s'.items.rows.length + 1 ∧
      s'.dataset.itemCount = s'.items.rows.length := by
  obtain ⟨rfl, encoded, hencoded, rfl, hdataset, hreceipts, hitems⟩ := insertAppend_ok ha hb h
  obtain ⟨hlength, hnew, hsum⟩ := newItems_spec v.idempotencyKey (encodeItems_ok hencoded)
  have hnext := ha.next_sequence
  have hcount := length_insertFrom hitems
  rw [hlength] at hcount
  refine ⟨fun k => ?_, ?_, ?_⟩
  · by_cases hk : s.dataset.nextSequence ≤ k ∧ k < s.dataset.nextSequence + v.items.length
    · obtain ⟨item, -, hitem⟩ := insertFrom_new hitems hk.1 (by rw [hlength]; exact hk.2)
      rw [hitem]
      refine iff_of_true rfl ?_
      omega
    · rw [insertFrom_old hitems (by rwa [hlength]), ha.sequences]
      omega
  · rw [hdataset, hcount]
    simp only [counted, ValidatedDatasetAppend.itemCount]
    omega
  · rw [hdataset, hcount]
    simp only [counted, ValidatedDatasetAppend.itemCount, ha.item_count]

theorem covered_append (ha : Accounted codec s) (hb : Behind dataset s.dataset)
    (h : insertAppend codec userId v dataset s = .ok (s', receipt)) (k : ℕ) (item : DatasetItem)
    (hitem : s'.items.get? k = some item) :
    ∃ stored, s'.receipts.get? item.receiptKey = some stored ∧ stored.firstSequence ≤ k ∧
      k < stored.firstSequence + stored.itemCount := by
  obtain ⟨rfl, encoded, hencoded, rfl, hdataset, hreceipts, hitems⟩ := insertAppend_ok ha hb h
  obtain ⟨hlength, hnew, hsum⟩ := newItems_spec v.idempotencyKey (encodeItems_ok hencoded)
  rcases insertFrom_cases hitems hitem with ⟨hk, hmem⟩ | hold
  · rw [hlength] at hk
    refine ⟨newReceipt v encoded s.dataset userId, ?_, hk⟩
    rw [(hnew item hmem).1, Table.get?_insert hreceipts, if_pos rfl]
  · obtain ⟨stored, hstored, hrange⟩ := ha.covered k item hold
    exact ⟨stored, Table.get?_insert_old hreceipts hstored, hrange⟩

theorem ranges_append (ha : Accounted codec s) (hb : Behind dataset s.dataset)
    (h : insertAppend codec userId v dataset s = .ok (s', receipt)) (key : String)
    (stored : DatasetAppendReceipt) (hstored : s'.receipts.get? key = some stored) :
    1 ≤ stored.itemCount ∧
      ∀ k, stored.firstSequence ≤ k → k < stored.firstSequence + stored.itemCount →
        ∃ item, s'.items.get? k = some item ∧ item.receiptKey = key := by
  obtain ⟨rfl, encoded, hencoded, rfl, hdataset, hreceipts, hitems⟩ := insertAppend_ok ha hb h
  obtain ⟨hlength, hnew, hsum⟩ := newItems_spec v.idempotencyKey (encodeItems_ok hencoded)
  have hnext := ha.next_sequence
  rw [Table.get?_insert hreceipts] at hstored
  split_ifs at hstored with heq
  · obtain rfl := Option.some.inj hstored
    refine ⟨v.item_bounds.1, fun k hle hlt => ?_⟩
    obtain ⟨item, hmem, hitem⟩ := insertFrom_new hitems hle (by rw [hlength]; exact hlt)
    exact ⟨item, hitem, by rw [(hnew item hmem).1, heq]⟩
  · obtain ⟨hone, hrange⟩ := ha.ranges key stored hstored
    refine ⟨hone, fun k hle hlt => ?_⟩
    obtain ⟨item, hitem, hkey⟩ := hrange k hle hlt
    refine ⟨item, (insertFrom_old hitems ?_).trans hitem, hkey⟩
    have hold := (ha.sequences k).1 (by rw [hitem]; rfl)
    omega

/-- The rows after an append are accounted for. -/
theorem accounted_append (ha : Accounted codec s) (hb : Behind dataset s.dataset)
    (h : insertAppend codec userId v dataset s = .ok (s', receipt)) : Accounted codec s' := by
  obtain ⟨hsequences, hnextSequence, hitemCount⟩ := sequences_append ha hb h
  have hcovered := covered_append ha hb h
  have hranges := ranges_append ha hb h
  obtain ⟨rfl, encoded, hencoded, rfl, hdataset, hreceipts, hitems⟩ := insertAppend_ok ha hb h
  obtain ⟨hlength, hnew, hsum⟩ := newItems_spec v.idempotencyKey (encodeItems_ok hencoded)
  refine ⟨hsequences, hnextSequence, hitemCount, ?_, fun k item hitem => ?_, hcovered, hranges⟩
  · rw [sum_insertFrom (fun item => (item.sizeBytes : ℤ)) hitems, hsum, hdataset, ← ha.total_bytes]
    simp only [counted]
    push_cast
    rfl
  · rcases insertFrom_cases hitems hitem with ⟨-, hmem⟩ | hold
    · exact (hnew item hmem).2
    · exact ha.canonical k item hold

theorem Behind.append {loaded : Dataset} (hd : Behind loaded s.dataset) (ha : Accounted codec s)
    (hb : Behind dataset s.dataset) (h : insertAppend codec userId v dataset s = .ok (s', receipt)) :
    Behind loaded s'.dataset := by
  obtain ⟨rfl, encoded, -, -, hdataset, -, -⟩ := insertAppend_ok ha hb h
  have hadvance : s.dataset.nextSequence < s'.dataset.nextSequence := by
    have hbounds := v.item_bounds
    rw [hdataset]
    simp only [counted, ValidatedDatasetAppend.itemCount]
    omega
  refine ⟨hd.counter, .inr ?_⟩
  rcases hd.behind with rfl | hlt
  · exact hadvance
  · exact hlt.trans hadvance

end Insertion

section Interleavings
variable {codec : Codec} {requests : ℕ → AppendRequest} {rows : Rows}

/-- What a transaction knows of the rows. -/
def Knows (codec : Codec) (request : AppendRequest) (s : Rows) : Txn → Prop
  | .loaded dataset => Behind dataset s.dataset
  | .locked dataset v => Behind dataset s.dataset ∧
    validateDatasetAppend codec request.payload = .ok v
  | .unseen dataset v => Behind dataset s.dataset ∧
    validateDatasetAppend codec request.payload = .ok v ∧ s.receipts.get? v.idempotencyKey = none
  | .answered outcome => ∃ v, validateDatasetAppend codec request.payload = .ok v ∧
    s.receipts.get? v.idempotencyKey = some outcome.receipt ∧
    outcome.receipt.requestDigest = v.requestDigest
  | _ => True

def Owns : Txn → Lock → Prop
  | .locked _ _, _ | .unseen _ _, _ => True
  | _, _ => False

theorem replayReceipt_ok {v : ValidatedDatasetAppend} {receipt : DatasetAppendReceipt}
    {outcome : DatasetAppendOutcome} (h : replayReceipt v receipt = .ok outcome) :
    receipt.requestDigest = v.requestDigest ∧ outcome = ⟨receipt, true⟩ := by
  simp only [replayReceipt, bind_ok, require_ok, pure_ok] at h
  obtain ⟨-, hdigest, rfl⟩ := h
  exact ⟨hdigest, rfl⟩

theorem next_keeps (i : ℕ) (s : Rows) (t : Txn) (ha : Accounted codec s) (_ : True)
    (hk : Knows codec (requests i) s t) :
    Keeps (Accounted codec) (fun _ => True) (fun i => Knows codec (requests i)) Owns
      (fun _ _ _ => True) i s t (next codec requests i s t) := by
  cases t with
  | ready =>
    refine ⟨⟨?_, .inl rfl⟩, fun l hl => hl⟩
    rw [ha.next_sequence, ha.item_count]
  | loaded dataset =>
    simp only [next]
    split
    next v hv => exact ⟨⟨hk, hv⟩, fun l' _ => .inl rfl⟩
    next e he => exact ⟨trivial, fun l => id⟩
  | locked dataset v =>
    obtain ⟨hbehind, hv⟩ := hk
    simp only [next]
    split
    next receipt hreceipt =>
      split
      next outcome houtcome =>
        obtain ⟨hdigest, rfl⟩ := replayReceipt_ok houtcome
        exact ⟨⟨v, hv, hreceipt, hdigest⟩, fun l => id⟩
      next e he => exact ⟨trivial, fun l => id⟩
    next hnone => exact ⟨⟨hbehind, hv, hnone⟩, fun l hl => hl⟩
  | unseen dataset v =>
    obtain ⟨hbehind, hv, hnone⟩ := hk
    simp only [next]
    split
    next s' receipt hinsert =>
      obtain ⟨-, encoded, -, hreceipt, -, hreceipts, -⟩ := insertAppend_ok ha hbehind hinsert
      refine ⟨accounted_append ha hbehind hinsert, Iff.rfl, ⟨v, hv, ?_, ?_⟩, fun l => id,
        fun j u hu hdisjoint => ?_⟩
      · rw [Table.get?_insert hreceipts, if_pos rfl]
      · rw [hreceipt]
        rfl
      · cases u with
        | loaded d => exact hu.append ha hbehind hinsert
        | locked d v' => exact absurd trivial (hdisjoint .dataset trivial)
        | unseen d v' => exact absurd trivial (hdisjoint .dataset trivial)
        | answered outcome =>
          obtain ⟨v', hv', hget, hdigest⟩ := hu
          exact ⟨v', hv', Table.get?_insert_old hreceipts hget, hdigest⟩
        | _ => trivial
    next e he => exact ⟨trivial, fun l => id⟩
  | answered outcome => exact ⟨hk, fun l => id⟩
  | failed e => exact ⟨trivial, fun l => id⟩
  | rolledBack => exact ⟨trivial, fun l => id⟩

def protocol (codec : Codec) (requests : ℕ → AppendRequest) :
    Protocol (next codec requests) .rolledBack (AtCommit (next codec requests) fun _ _ _ => True) :=
  Protocol.ofKeeps (fun i s t => next_keeps i s t)
    (fun _ _ => ⟨trivial, fun _ => id⟩)

abbrev after (codec : Codec) (requests : ℕ → AppendRequest) (rows : Rows) (events : List Event) :
    System Rows Txn Lock :=
  exec (step (next codec requests) .rolledBack) (opening rows .ready) events

theorem step_holds {st : System Rows Txn Lock} (h : (protocol codec requests).Holds st) (e : Event) :
    (protocol codec requests).Holds (step (next codec requests) .rolledBack st e) := by
  refine (protocol codec requests).step_holds h e ?_
  cases e with
  | abort i => trivial
  | advance i => exact fun _ _ _ _ => trivial

theorem opening_holds (requests : ℕ → AppendRequest) (ha : Accounted codec rows) :
    (protocol codec requests).Holds (opening rows .ready) :=
  (protocol codec requests).holds_opening (t := Txn.ready) ⟨ha, trivial⟩ (fun _ => trivial)
    (fun _ => id)

/-- What holds of the committed rows and of the answers in a reached state. -/
structure Settled (codec : Codec) (requests : ℕ → AppendRequest) (st : System Rows Txn Lock) :
    Prop where
  accounted : Accounted codec st.committed
  answered : ∀ i outcome, st.txn i = .answered outcome →
    ∃ v, validateDatasetAppend codec (requests i).payload = .ok v ∧
      st.committed.receipts.get? v.idempotencyKey = some outcome.receipt ∧
      outcome.receipt.requestDigest = v.requestDigest
  replayed : ∀ i dataset v receipt, st.txn i = .locked dataset v →
    st.committed.receipts.get? v.idempotencyKey = some receipt →
    receipt.requestDigest = v.requestDigest →
    (step (next codec requests) .rolledBack st (.advance i)).committed = st.committed ∧
      (step (next codec requests) .rolledBack st (.advance i)).txn i = .answered ⟨receipt, true⟩
  appended_once : ∀ i s' t', next codec requests i st.committed (st.txn i) = .commit s' t' →
    ∃ v, validateDatasetAppend codec (requests i).payload = .ok v ∧
      st.committed.receipts.get? v.idempotencyKey = none

theorem after_settled (ha : Accounted codec rows) (events : List Event) :
    Settled codec requests (after codec requests rows events) := by
  have hholds : (protocol codec requests).Holds (after codec requests rows events) :=
    exec_invariant _ (P := (protocol codec requests).Holds) (fun _ e h => step_holds h e) events _
      (opening_holds requests ha)
  generalize after codec requests rows events = st at hholds
  refine ⟨hholds.good.1, fun i outcome hi => ?_, fun i dataset v receipt hi hget hdigest => ?_,
    fun i s' t' hcommit => ?_⟩
  · have hknows := hholds.knows i
    rw [hi] at hknows
    exact hknows
  · have hreplay : replayReceipt v receipt = .ok ⟨receipt, true⟩ := by
      simp only [replayReceipt, bind_ok, require_ok, pure_ok, and_true]
      exact ⟨(), hdigest⟩
    have hnext : next codec requests i st.committed (st.txn i) = .stop (.answered ⟨receipt, true⟩) := by
      simp only [next, hi, hget, hreplay]
    simp only [step, hnext, Function.update_self, and_self]
  · have hknows := hholds.knows i
    cases hi : st.txn i with
    | unseen dataset v =>
      rw [hi] at hknows
      obtain ⟨-, hv, hnone⟩ := hknows
      exact ⟨v, hv, hnone⟩
    | loaded dataset =>
      simp only [next, hi] at hcommit
      split at hcommit <;> cases hcommit
    | locked dataset v =>
      simp only [next, hi] at hcommit
      split at hcommit
      · split at hcommit <;> cases hcommit
      · cases hcommit
    | _ =>
      rw [hi] at hcommit
      cases hcommit

theorem next_collides {i : ℕ} {s : Rows} {t : Txn} (ha : Accounted codec s)
    (hk : Knows codec (requests i) s t) (ht : t ≠ .failed sequenceCollision) :
    (next codec requests i s t).txn = .failed sequenceCollision ↔ ¬ Current codec i s t := by
  unfold Current
  rw [Bool.not_eq_true]
  cases t with
  | unseen dataset v =>
    obtain ⟨hbehind, -, hnone⟩ := hk
    have hcollides := insertAppend_collides (requests i).userId ha hbehind hnone
    rw [← hcollides]
    simp only [next]
    cases insertAppend codec (requests i).userId v dataset s with
    | ok result => exact iff_of_false (by rintro ⟨⟩) (by rintro ⟨⟩)
    | error e => simp only [Action.txn, Txn.failed.injEq, Except.error.injEq]
  | failed e => exact iff_of_false (fun h => ht h) (by rintro ⟨⟩)
  | loaded dataset =>
    refine iff_of_false (fun h => ?_) (by rintro ⟨⟩)
    simp only [next] at h
    split at h
    · cases h
    · cases h
  | locked dataset v =>
    refine iff_of_false (fun h => ?_) (by rintro ⟨⟩)
    simp only [next] at h
    split at h
    next receipt _ =>
      split at h
      · cases h
      next e he =>
        simp only [replayReceipt, bind_error, require_error, pure_error, and_false, exists_false,
          or_false] at he
        obtain ⟨-, rfl⟩ := he
        cases h
    · cases h
  | ready => exact iff_of_false (by rintro ⟨⟩) (by rintro ⟨⟩)
  | answered outcome => exact iff_of_false (by rintro ⟨⟩) (by rintro ⟨⟩)
  | rolledBack => exact iff_of_false (by rintro ⟨⟩) (by rintro ⟨⟩)

/-- Over every interleaving of appends to one dataset, the committed rows stay accounted for, every
answer is the receipt that is stored for its key, and a replay adds nothing. No append fails for a
taken sequence number if and only if every append that gets past the quotas has loaded the stored
sequence counter. -/
theorem appends_accounted (codec : Codec) (requests : ℕ → AppendRequest) (rows : Rows)
    (ha : Accounted codec rows) (events : List Event) :
    (∀ before rest, events = before ++ rest →
      Settled codec requests (after codec requests rows before)) ∧
    ((∀ before rest, events = before ++ rest → ∀ i,
        (after codec requests rows before).txn i ≠ .failed sequenceCollision) ↔
      Along (step (next codec requests) .rolledBack) (Meets (next codec requests) (Current codec))
        (opening rows .ready) events) := by
  refine ⟨fun before _ _ => after_settled ha before, ?_⟩
  refine avoids_iff (H := (protocol codec requests).Holds) (B := (· = .failed sequenceCollision))
    (fun _ e h => step_holds h e) (fun h => nomatch h) (fun st i h htxn => ?_) events _
    (opening_holds requests ha) (fun _ h => nomatch h)
  exact next_collides h.good.1 (h.knows i) htxn

/-- A dataset as it is created. -/
def newDataset : Rows where
  dataset := ⟨0, 0, 1, 1⟩
  receipts := .empty
  items := .empty

theorem newDataset_accounted (codec : Codec) : Accounted codec newDataset := by
  refine ⟨fun k => ?_, rfl, rfl, rfl, fun k item h => ?_, fun k item h => ?_, fun key r h => ?_⟩
  · refine iff_of_false (fun h => nomatch h) ?_
    simp only [newDataset, Table.empty, List.length_nil]
    omega
  · cases h
  · cases h
  · cases h

def sampleCodec : Codec where
  canonicalJsonBytes := fun _ => some [123, 125]
  sha256 := fun _ => "digest"

/-- Request `i` appends one item under a key of its own. -/
def ownBatches (i : ℕ) : AppendRequest where
  payload := .object [("schema_version", .text "rdc.dataset-append/v1"),
    ("idempotency_key", .text ("batch-" ++ toString i)), ("items", .list [.object []])]
  userId := 1

def constraintOf : Txn → Option String
  | .failed (.integrity constraint) => some constraint
  | _ => none

theorem constraintOf_some {t : Txn} {constraint : String} (h : constraintOf t = some constraint) :
    t = .failed (.integrity constraint) := by
  unfold constraintOf at h
  split at h
  · rw [Option.some.inj h]
  · cases h

/-- Both appends are authorized before either has the lock; the second meets a taken number. -/
theorem second_batch_collides :
    (after sampleCodec ownBatches newDataset [.advance 0, .advance 1, .advance 0, .advance 0,
      .advance 0, .advance 1, .advance 1, .advance 1]).txn 1 = .failed sequenceCollision := by
  have hconstraint : constraintOf ((after sampleCodec ownBatches newDataset [.advance 0, .advance 1,
      .advance 0, .advance 0, .advance 0, .advance 1, .advance 1, .advance 1]).txn 1) =
        some "uq_dataset_items_dataset_sequence" := by
    decide +kernel
  exact constraintOf_some hconstraint

/-- One after the other, neither does. -/
theorem batches_in_turn :
    let st := after sampleCodec ownBatches newDataset [.advance 0, .advance 0, .advance 0,
      .advance 0, .advance 1, .advance 1, .advance 1, .advance 1]
    Settled sampleCodec ownBatches st ∧ st.committed.items.rows.length = 2 ∧
      ∀ i, st.txn i ≠ .failed sequenceCollision := by
  have hturn := appends_accounted sampleCodec ownBatches newDataset (newDataset_accounted _)
    [.advance 0, .advance 0, .advance 0, .advance 0, .advance 1, .advance 1, .advance 1, .advance 1]
  exact ⟨hturn.1 _ [] (List.append_nil _).symm, by decide +kernel,
    hturn.2.2 (by decide +kernel) _ [] (List.append_nil _).symm⟩

end Interleavings
end RoozDataCloud.DatasetAppends
