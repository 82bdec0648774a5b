import RoozDataCloud.KeyValueStores

set_option autoImplicit false

/-!
# Store totals under concurrent mutations

The store row is loaded without a lock when a request is authorized. The later
`FOR UPDATE` waits for the row, but the session keeps the object it has.
-/
namespace RoozDataCloud.KeyValueTotals
open KeyedTable ExecutionModels FallibleSteps ReadCommitted KeyValueStores

inductive Lock where
  | store
  | record (id : Uuid)
  deriving DecidableEq

inductive Txn where
  | ready
  | loaded (store : KeyValueStore)
  | locked (store : KeyValueStore)
  | checked (store : KeyValueStore)
  | selected (store : KeyValueStore) (current : Option (Uuid × KeyValueRecord))
  | finished

/-- `mutate_key_value_record` behind its permission dependency, statement by statement. A replay
returns the receipt and writes nothing. -/
def next (mutations : ℕ → Mutation) (i : ℕ) (s : Rows) : Txn → Action Rows Txn Lock
  | .ready => .run (.loaded s.store)
  | .loaded store =>
    if (mutations i).validation.operation.name = (mutations i).requiredOperation then
      .lock .store (.locked store)
    else .stop .finished
  | .locked store =>
    match findReceipt (mutations i) s.receipts with
    | some _ => .stop .finished
    | none => .run (.checked store)
  | .checked store =>
    match findRecord (mutations i) s.records with
    | some (id, record) => .lock (.record id) (.selected store (some (id, record)))
    | none => .run (.selected store none)
  | .selected store current =>
    match writeMutation s (mutations i) store current with
    | .ok rows => .commit rows .finished
    | .error _ => .stop .finished
  | .finished => .stop .finished

def wasLive (current : Option (Uuid × KeyValueRecord)) : Bool :=
  current.any (fun row => !row.2.deleted)

def previousSize (current : Option (Uuid × KeyValueRecord)) : ℕ :=
  current.elim 0 (fun row => row.2.currentSizeBytes)

/-- The operation leaves a counter of the store alone, or the request has loaded its stored value. -/
structure UpToDate (operation : Operation) (current : Option (Uuid × KeyValueRecord))
    (loaded stored : KeyValueStore) : Prop where
  count : wasLive current = !operation.tombstone ∨ loaded.recordCount = stored.recordCount
  bytes : previousSize current = operation.sizeBytes ∨ loaded.totalBytes = stored.totalBytes

instance decidableUpToDate (operation : Operation) (current : Option (Uuid × KeyValueRecord))
    (loaded stored : KeyValueStore) : Decidable (UpToDate operation current loaded stored) :=
  decidable_of_iff
    ((wasLive current = !operation.tombstone ∨ loaded.recordCount = stored.recordCount) ∧
      (previousSize current = operation.sizeBytes ∨ loaded.totalBytes = stored.totalBytes))
    ⟨fun h => ⟨h.1, h.2⟩, fun h => ⟨h.1, h.2⟩⟩

def Current (mutations : ℕ → Mutation) (i : ℕ) (s : Rows) : Txn → Prop
  | .selected store current => UpToDate (mutations i).validation.operation current store s.store
  | _ => True

instance decidableCurrent (mutations : ℕ → Mutation) (i : ℕ) (s : Rows) :
    (t : Txn) → Decidable (Current mutations i s t)
  | .selected store current =>
    decidableUpToDate (mutations i).validation.operation current store s.store
  | .ready | .loaded _ | .locked _ | .checked _ | .finished => isTrue trivial

def currentVersionOf (versions : Table Uuid KeyValueRecordVersion) (id : Uuid)
    (record : KeyValueRecord) : Option KeyValueRecordVersion :=
  (versions.find? (fun _ row => row.recordId = id && row.version = record.currentVersion)).map
    Prod.snd

def isLive (versions : Table Uuid KeyValueRecordVersion) (id : Uuid) (record : KeyValueRecord) :
    Bool :=
  (currentVersionOf versions id record).any (fun row => !row.operation.tombstone)

def currentSize (versions : Table Uuid KeyValueRecordVersion) (id : Uuid)
    (record : KeyValueRecord) : ℕ :=
  (currentVersionOf versions id record).elim 0 (·.operation.sizeBytes)

/-- The totals of the store row are those of the records whose current version is not a
tombstone, and within the quotas. -/
structure Totals (rows : Rows) : Prop where
  count : rows.store.recordCount = rows.records.count (isLive rows.versions)
  bytes : rows.store.totalBytes =
    rows.records.sum (fun id record =>
      if isLive rows.versions id record then (currentSize rows.versions id record : ℤ) else 0)
  recordQuota : rows.store.recordCount ≤ maxKvRecords
  byteQuota : rows.store.totalBytes ≤ maxKvStoreBytes

/-- Every record points at a version that agrees with it. -/
def Pointers (rows : Rows) : Prop :=
  ∀ id record, rows.records.get? id = some record →
    ∃ row, currentVersionOf rows.versions id record = some row ∧
      row.operation.tombstone = record.deleted ∧ row.operation.sizeBytes = record.currentSizeBytes

def liveUnit (record : KeyValueRecord) : ℤ := if record.deleted then 0 else 1

def sizeUnit (record : KeyValueRecord) : ℤ := record.currentSizeBytes

theorem count_of_pointers {rows : Rows} (h : Pointers rows) :
    (rows.records.count (isLive rows.versions) : ℤ) =
      rows.records.sum (fun _ record => liveUnit record) := by
  rw [Table.count_eq_sum]
  refine Table.sum_congr (fun id record hrecord => ?_)
  obtain ⟨row, hrow, htombstone, -⟩ := h id record hrecord
  simp only [isLive, hrow, Option.any_some, htombstone, liveUnit]
  cases record.deleted <;> rfl

theorem bytes_of_pointers {rows : Rows} (h : Pointers rows) :
    rows.records.sum (fun id record =>
      if isLive rows.versions id record then (currentSize rows.versions id record : ℤ) else 0) =
      rows.records.sum (fun _ record => sizeUnit record) := by
  refine Table.sum_congr (fun id record hrecord => ?_)
  obtain ⟨row, hrow, htombstone, hsize⟩ := h id record hrecord
  simp only [isLive, currentSize, hrow, Option.any_some, Option.elim_some, htombstone, hsize,
    sizeUnit]
  cases hdeleted : record.deleted with
  | true => simp [record.deleted_size hdeleted]
  | false => simp

section Writes
variable {mutation : Mutation} {current : Option (Uuid × KeyValueRecord)}

theorem liveUnit_written :
    liveUnit (writtenRecord mutation current) =
      if mutation.validation.operation.tombstone then 0 else 1 := by
  cases current <;> rfl

theorem sizeUnit_written :
    sizeUnit (writtenRecord mutation current) = mutation.validation.operation.sizeBytes := by
  cases current <;> rfl

/-- What the record that is replaced contributes to a total. -/
def before (unit : KeyValueRecord → ℤ) (current : Option (Uuid × KeyValueRecord)) : ℤ :=
  current.elim 0 (fun row => unit row.2)

theorem project_ok {loaded : KeyValueStore} {projected : Projection}
    (h : project loaded (current.map Prod.snd) mutation.validation.operation = .ok projected) :
    projected.recordCount =
      loaded.recordCount - before liveUnit current + liveUnit (writtenRecord mutation current) ∧
    projected.totalBytes =
      loaded.totalBytes - before sizeUnit current + sizeUnit (writtenRecord mutation current) := by
  rw [liveUnit_written, sizeUnit_written]
  cases hop : mutation.validation.operation with
  | set value =>
    rw [hop] at h
    simp only [project, projectSet, bind_ok, require_ok, pure_ok] at h
    obtain ⟨-, -, -, -, rfl⟩ := h
    cases current with
    | none => simp [before, Operation.tombstone, Operation.sizeBytes]
    | some row =>
      cases hdeleted : row.2.deleted with
      | true =>
        have hsize := row.2.deleted_size hdeleted
        simp [before, liveUnit, sizeUnit, hdeleted, hsize, Option.filter, Operation.tombstone,
          Operation.sizeBytes]
      | false =>
        simp [before, liveUnit, sizeUnit, hdeleted, Option.filter, Operation.tombstone,
          Operation.sizeBytes]
  | delete =>
    rw [hop] at h
    simp only [project, projectDelete, bind_ok, demand_ok, require_ok, pure_ok] at h
    obtain ⟨record, hrecord, -, hlive, rfl⟩ := h
    obtain ⟨row, rfl, rfl⟩ := Option.map_eq_some_iff.1 hrecord
    simp [before, liveUnit, sizeUnit, hlive, Operation.tombstone, Operation.sizeBytes]

/-- The record that a request has selected is the stored one. -/
def Selected (records : Table Uuid KeyValueRecord) (current : Option (Uuid × KeyValueRecord)) : Prop :=
  ∀ id record, current = some (id, record) → records.get? id = some record

theorem writeRecord_get {records records' : Table Uuid KeyValueRecord}
    (hselected : Selected records current) (h : writeRecord mutation current records = .ok records')
    (id : Uuid) :
    records'.get? id = if id = targetId mutation current then some (writtenRecord mutation current)
      else records.get? id := by
  cases current with
  | none =>
    simp only [writeRecord, bind_ok, require_ok, demand_ok] at h
    obtain ⟨-, -, hinsert⟩ := h
    exact Table.get?_insert hinsert id
  | some row =>
    obtain rfl := pure_ok.1 h
    rw [Table.get?_modify]
    by_cases hid : id = row.1
    · simp [targetId, hid, hselected row.1 row.2 rfl]
    · simp [targetId, hid]

theorem writeRecord_sum {records records' : Table Uuid KeyValueRecord}
    (hselected : Selected records current) (h : writeRecord mutation current records = .ok records')
    (unit : KeyValueRecord → ℤ) :
    records'.sum (fun _ record => unit record) =
      records.sum (fun _ record => unit record) - before unit current +
        unit (writtenRecord mutation current) := by
  cases current with
  | none =>
    simp only [writeRecord, bind_ok, require_ok, demand_ok] at h
    obtain ⟨-, -, hinsert⟩ := h
    rw [Table.sum_insert _ hinsert, before, Option.elim_none, sub_zero]
  | some row =>
    obtain rfl := pure_ok.1 h
    rw [Table.sum_modify _ _ (hselected row.1 row.2 rfl)]
    rfl

theorem writeVersion_current {versions versions' : Table Uuid KeyValueRecordVersion}
    (h : writeVersion mutation current versions = .ok versions') :
    currentVersionOf versions' (targetId mutation current) (writtenRecord mutation current) =
      some ⟨targetId mutation current, nextVersion mutation current,
        mutation.validation.operation⟩ := by
  simp only [writeVersion, bind_ok, require_ok, demand_ok, Option.isNone_iff_eq_none] at h
  obtain ⟨-, hfresh, hinsert⟩ := h
  unfold nextVersion at hfresh hinsert ⊢
  rw [currentVersionOf, Table.find?_insert hinsert, hfresh]
  simp

theorem writeVersion_kept {versions versions' : Table Uuid KeyValueRecordVersion}
    (h : writeVersion mutation current versions = .ok versions') {id : Uuid}
    {record : KeyValueRecord} {row : KeyValueRecordVersion}
    (hrow : currentVersionOf versions id record = some row) :
    currentVersionOf versions' id record = some row := by
  simp only [writeVersion, bind_ok, require_ok, demand_ok] at h
  obtain ⟨-, -, hinsert⟩ := h
  obtain ⟨found, hfound, rfl⟩ := Option.map_eq_some_iff.1 hrow
  rw [currentVersionOf, Table.find?_insert hinsert, hfound]
  rfl

theorem writeMutation_ok {rows rows' : Rows} {loaded : KeyValueStore}
    (h : writeMutation rows mutation loaded current = .ok rows') :
    ∃ projected, project loaded (current.map Prod.snd) mutation.validation.operation = .ok projected ∧
      writeRecord mutation current rows.records = .ok rows'.records ∧
      writeVersion mutation current rows.versions = .ok rows'.versions ∧
      rows'.store = flushStore loaded projected rows.store ∧
      rows'.store.recordCount ≤ maxKvRecords ∧ rows'.store.totalBytes ≤ maxKvStoreBytes := by
  simp only [writeMutation, checkStore, bind_ok, pure_ok, require_ok] at h
  obtain ⟨-, -, projected, hprojected, -, -, records, hrecords, versions, hversions, receipts, -,
    -, ⟨-, -, -, -, -, hcount, hbytes⟩, rfl⟩ := h
  exact ⟨projected, hprojected, hrecords, hversions, rfl, hcount, hbytes⟩

theorem pointers_written {rows rows' : Rows} {loaded : KeyValueStore} (hpointers : Pointers rows)
    (hselected : Selected rows.records current)
    (h : writeMutation rows mutation loaded current = .ok rows') : Pointers rows' := by
  obtain ⟨projected, -, hrecords, hversions, -⟩ := writeMutation_ok h
  intro id record hrecord
  rw [writeRecord_get hselected hrecords] at hrecord
  split_ifs at hrecord with hid
  · obtain rfl := Option.some.inj hrecord
    rw [hid]
    refine ⟨_, writeVersion_current hversions, ?_, ?_⟩ <;> cases current <;> rfl
  · obtain ⟨row, hrow, hagree⟩ := hpointers id record hrecord
    exact ⟨row, writeVersion_kept hversions hrow, hagree⟩

theorem before_liveUnit : before liveUnit current = if wasLive current then 1 else 0 := by
  cases current with
  | none => rfl
  | some row =>
    by_cases hdeleted : row.2.deleted = true <;> simp [before, wasLive, liveUnit, hdeleted]

theorem before_sizeUnit : before sizeUnit current = previousSize current := by
  cases current <;> rfl

theorem totals_written {rows rows' : Rows} {loaded : KeyValueStore} (hpointers : Pointers rows)
    (htotals : Totals rows) (hselected : Selected rows.records current)
    (h : writeMutation rows mutation loaded current = .ok rows') :
    Totals rows' ↔ UpToDate mutation.validation.operation current loaded rows.store := by
  have hpointers' := pointers_written hpointers hselected h
  obtain ⟨projected, hprojected, hrecords, -, hstore, hcountQuota, hbyteQuota⟩ := writeMutation_ok h
  obtain ⟨hprojectedCount, hprojectedBytes⟩ := project_ok hprojected
  have hcount : rows'.store.recordCount = rows'.records.count (isLive rows'.versions) ↔
      wasLive current = !mutation.validation.operation.tombstone ∨
        loaded.recordCount = rows.store.recordCount := by
    rw [count_of_pointers hpointers', writeRecord_sum hselected hrecords,
      ← count_of_pointers hpointers, ← htotals.count, hstore]
    refine (flushColumn_shifted hprojectedCount).trans (or_congr_left ?_)
    rw [hprojectedCount, before_liveUnit, liveUnit_written]
    cases wasLive current <;> cases mutation.validation.operation.tombstone <;> simp
  have hbytes : rows'.store.totalBytes = rows'.records.sum (fun id record =>
        if isLive rows'.versions id record then (currentSize rows'.versions id record : ℤ) else 0) ↔
      previousSize current = mutation.validation.operation.sizeBytes ∨
        loaded.totalBytes = rows.store.totalBytes := by
    rw [bytes_of_pointers hpointers', writeRecord_sum hselected hrecords,
      ← bytes_of_pointers hpointers, ← htotals.bytes, hstore]
    refine (flushColumn_shifted hprojectedBytes).trans (or_congr_left ?_)
    rw [hprojectedBytes, before_sizeUnit, sizeUnit_written]
    omega
  exact ⟨fun ht => ⟨hcount.1 ht.count, hbytes.1 ht.bytes⟩,
    fun hu => ⟨hcount.2 hu.count, hbytes.2 hu.bytes, hcountQuota, hbyteQuota⟩⟩

end Writes

/-- A transaction that has locked the store keeps what it selected. -/
def Knows (s : Rows) : Txn → Prop
  | .selected _ current => Selected s.records current
  | _ => True

def Owns : Txn → Lock → Prop
  | .locked _, l | .checked _, l | .selected _ _, l => l = .store
  | _, _ => False

theorem findRecord_selected {mutation : Mutation} {records : Table Uuid KeyValueRecord} :
    Selected records (findRecord mutation records) :=
  fun _ _ h => (Table.find?_some h).1

theorem next_run {mutations : ℕ → Mutation} {i : ℕ} {s : Rows} {t t' : Txn}
    (h : next mutations i s t = .run t') : Knows s t' ∧ ∀ l, Owns t' l → Owns t l := by
  cases t with
  | ready =>
    obtain rfl := Action.run.inj h
    exact ⟨trivial, fun _ => id⟩
  | loaded store =>
    simp only [next] at h
    split_ifs at h
  | locked store =>
    simp only [next] at h
    split at h
    · cases h
    · obtain rfl := Action.run.inj h
      exact ⟨trivial, fun _ => id⟩
  | checked store =>
    simp only [next] at h
    split at h
    · cases h
    · obtain rfl := Action.run.inj h
      exact ⟨fun _ _ hnone => absurd hnone (by simp), fun _ => id⟩
  | selected store current =>
    simp only [next] at h
    split at h <;> cases h
  | finished => cases h

theorem next_lock {mutations : ℕ → Mutation} {i : ℕ} {s : Rows} {t t' : Txn} {l : Lock}
    (h : next mutations i s t = .lock l t') : Knows s t' ∧ ∀ l', Owns t' l' → l' = l ∨ Owns t l' := by
  cases t with
  | ready => cases h
  | loaded store =>
    simp only [next] at h
    split_ifs at h
    obtain ⟨rfl, rfl⟩ := Action.lock.inj h
    exact ⟨trivial, fun _ => .inl⟩
  | locked store =>
    simp only [next] at h
    split at h <;> cases h
  | checked store =>
    simp only [next] at h
    split at h
    · rename_i id record hfound
      obtain ⟨rfl, rfl⟩ := Action.lock.inj h
      exact ⟨hfound ▸ findRecord_selected, fun _ => .inr⟩
    · cases h
  | selected store current =>
    simp only [next] at h
    split at h <;> cases h
  | finished => cases h

theorem next_commit {mutations : ℕ → Mutation} {i : ℕ} {s s' : Rows} {t t' : Txn}
    (h : next mutations i s t = .commit s' t') :
    ∃ store current, t = .selected store current ∧ t' = .finished ∧
      writeMutation s (mutations i) store current = .ok s' := by
  cases t with
  | ready => cases h
  | loaded store =>
    simp only [next] at h
    split_ifs at h
  | locked store =>
    simp only [next] at h
    split at h <;> cases h
  | checked store =>
    simp only [next] at h
    split at h <;> cases h
  | selected store current =>
    simp only [next] at h
    split at h
    · rename_i rows hrows
      obtain ⟨rfl, rfl⟩ := Action.commit.inj h
      exact ⟨store, current, rfl, rfl, hrows⟩
    · cases h
  | finished => cases h

theorem next_stop {mutations : ℕ → Mutation} {i : ℕ} {s : Rows} {t t' : Txn}
    (h : next mutations i s t = .stop t') : t' = .finished := by
  cases t with
  | ready => cases h
  | loaded store =>
    simp only [next] at h
    split_ifs at h
    exact (Action.stop.inj h).symm
  | locked store =>
    simp only [next] at h
    split at h
    · exact (Action.stop.inj h).symm
    · cases h
  | checked store =>
    simp only [next] at h
    split at h <;> cases h
  | selected store current =>
    simp only [next] at h
    split at h
    · cases h
    · exact (Action.stop.inj h).symm
  | finished => exact (Action.stop.inj h).symm

/-- The store lock protects the records, so the selected one stays current. The store row that
was loaded before the lock is not covered. -/
def protocol (mutations : ℕ → Mutation) :
    Protocol (next mutations) .finished (AtCommit (next mutations) (Current mutations)) where
  Good s := Pointers s ∧ Totals s
  Knows _ s t := Knows s t
  Owns := Owns
  run _ _ _ _ _ _ _ h := next_run h
  lock _ _ _ _ _ _ _ _ h := next_lock h
  commit i s _ s' _ hgood hknows hcurrent h := by
    have hupToDate := hcurrent _ _ h
    obtain ⟨store, current, rfl, rfl, hwrite⟩ := next_commit h
    refine ⟨⟨pointers_written hgood.1 hknows hwrite, ?_⟩, trivial, fun _ => id, ?_⟩
    · exact (totals_written hgood.1 hgood.2 hknows hwrite).2 hupToDate
    · intro j u hu hdisjoint
      cases u with
      | selected store' current' => exact absurd rfl (hdisjoint .store rfl)
      | _ => trivial
  stop _ _ _ _ _ _ _ h := by
    rw [next_stop h]
    exact ⟨trivial, fun _ => id⟩
  abort _ _ := ⟨trivial, fun _ => id⟩

/-- Over every interleaving of mutations, the totals are right after each step if and only if no
mutation commits a counter that it computed from an outdated store row. -/
theorem totals_hold_iff (mutations : ℕ → Mutation) (rows : Rows) (hpointers : Pointers rows)
    (htotals : Totals rows) (events : List Event) :
    (∀ before after, events = before ++ after →
      Totals (exec (step (next mutations) .finished) (opening rows .ready) before).committed) ↔
    Along (step (next mutations) .finished)
      (Meets (next mutations) (AtCommit (next mutations) (Current mutations)))
      (opening rows .ready) events := by
  refine (Protocol.along_iff (protocol mutations) (P := Totals) (fun _ => And.right) ?_ events
    ((protocol mutations).holds_opening (t := Txn.ready) ⟨hpointers, htotals⟩ (fun _ => trivial)
      (fun _ => id))).symm
  intro i s t s' t' hgood hknows hcommit htotals'
  obtain ⟨store, current, rfl, rfl, hwrite⟩ := next_commit hcommit
  exact (totals_written hgood.1 hgood.2 hknows hwrite).1 htotals'

/-- A store as it is created. -/
def newStore : Rows where
  store := ⟨0, 0, 1⟩
  records := .empty
  versions := .empty
  receipts := .empty

theorem newStore_totals : Totals newStore := ⟨rfl, rfl, by decide, by decide⟩

/-- Request `i` sets a key of its own to a value of five bytes. -/
def ownKeys (i : ℕ) : Mutation where
  validation :=
    { idempotencyKey := "set-" ++ toString i
      requestDigest := "digest-" ++ toString i
      operation := .set ⟨"text/plain; charset=utf-8", "utf8", "sha", 5⟩
      key := "key-" ++ toString i
      expectedVersion := none }
  requiredOperation := "set"
  recordId := i
  versionId := i
  receiptId := i
  storageError := none

def rowsAfter (events : List Event) : Rows :=
  (exec (step (next ownKeys) .finished) (opening newStore .ready) events).committed

/-- Both requests are authorized before either has the lock; the second then overwrites the
totals with its own. -/
theorem second_set_uncounted :
    let rows := rowsAfter [.advance 0, .advance 1, .advance 0, .advance 0, .advance 0, .advance 0,
      .advance 1, .advance 1, .advance 1, .advance 1]
    rows.records.count (isLive rows.versions) = 2 ∧ rows.store.recordCount = 1 ∧
      rows.store.totalBytes = 5 := by
  decide +kernel

/-- One after the other, both are counted. -/
theorem both_sets_counted :
    Totals (rowsAfter [.advance 0, .advance 0, .advance 0, .advance 0, .advance 0, .advance 1,
      .advance 1, .advance 1, .advance 1, .advance 1]) :=
  (totals_hold_iff ownKeys newStore (fun _ _ h => absurd h (by simp [newStore])) newStore_totals _).2
    (by decide +kernel) _ [] (List.append_nil _).symm

end RoozDataCloud.KeyValueTotals
