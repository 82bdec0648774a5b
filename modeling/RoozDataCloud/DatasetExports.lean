import RoozDataCloud.DatasetAppends
import Mathlib.Data.List.Range

set_option autoImplicit false

/-!
# The export of a dataset

The counters of a dataset are summed up when items are appended; the export
checks its limits on them, and then encodes the items once more. Both add up to
the same sizes, so nothing but the two limits stands against an export.
-/
namespace RoozDataCloud.DatasetExports
open KeyedTable ExecutionModels FallibleSteps Datasets DatasetAppends

section Export

def exportItemLimit : Failure := apiError 413 "DATASET_EXPORT_ITEM_LIMIT_EXCEEDED"
  "The Dataset exceeds the bounded export item limit; use cursor pagination."

def exportByteLimit : Failure := apiError 413 "DATASET_EXPORT_BYTE_LIMIT_EXCEEDED"
  "The Dataset exceeds the bounded export byte limit; use cursor pagination."

def exportTooLong : Failure := apiError 413 "DATASET_EXPORT_BYTE_LIMIT_EXCEEDED"
  "The encoded Dataset export exceeds the bounded byte limit; use cursor pagination."

def exportIncomplete : Failure := apiError 409 "DATASET_EXPORT_INCOMPLETE"
  "Dataset export consistency verification failed."

def exportSequenceGap : Failure := apiError 409 "DATASET_EXPORT_SEQUENCE_GAP"
  "Dataset export sequence verification failed."

def maxDatasetExportItems : ℕ := 10000

def maxDatasetExportBytes : ℕ := 16777216

structure DatasetExportOutcome where
  content : List UInt8
  sha256Digest : String
  itemCount : ℕ

/-- The rows in the order of their numbers. -/
def inSequence (items : Table ℕ DatasetItem) : List (ℕ × DatasetItem) :=
  items.rows.insertionSort (fun a b => a.1 ≤ b.1)

/-- An item on a line of its own. -/
def line (codec : Codec) (item : Json) : Except Failure (List UInt8) := do
  let bytes ← demand (codec.canonicalJsonBytes item) (.value notEncodable)
  pure (bytes ++ [10])

/-- The loop over the rows, from the number that is expected next. -/
def exportLines (codec : Codec) : ℕ → List (ℕ × DatasetItem) → Except Failure (List (List UInt8))
  | _, [] => pure []
  | expectedSequence, row :: rows => do
    require (row.1 = expectedSequence) exportSequenceGap
    let chunk ← line codec row.2.item
    let chunks ← exportLines codec (expectedSequence + 1) rows
    pure (chunk :: chunks)

/-- The event of the audit log is left out. -/
def exportDatasetJsonl (codec : Codec) (s : Rows) : Except Failure DatasetExportOutcome := do
  require (s.dataset.itemCount ≤ maxDatasetExportItems) exportItemLimit
  require (s.dataset.totalBytes + s.dataset.itemCount ≤ maxDatasetExportBytes) exportByteLimit
  let rows := (inSequence s.items).take (maxDatasetExportItems + 1)
  require (rows.length = s.dataset.itemCount) exportIncomplete
  let chunks ← exportLines codec 1 rows
  let content := chunks.flatten
  require (content.length ≤ maxDatasetExportBytes) exportTooLong
  pure ⟨content, codec.sha256 content, rows.length⟩

end Export

section Appends

/-- One append, which is rolled back when it fails. -/
def appendStep (codec : Codec) (s : Rows) (request : AppendRequest) : Rows :=
  commit s (appendDatasetItems codec s request)

/-- The items that an append adds: those of the request, unless it fails or is a replay. -/
def addedItems (codec : Codec) (s : Rows) (request : AppendRequest) : List Json :=
  match appendDatasetItems codec s request, validateDatasetAppend codec request.payload with
  | .ok (_, outcome), .ok v => if outcome.replayed then [] else v.items
  | _, _ => []

/-- The items of all appends, in their order. -/
def appendedItems (codec : Codec) : Rows → List AppendRequest → List Json
  | _, [] => []
  | s, request :: requests =>
    addedItems codec s request ++ appendedItems codec (appendStep codec s request) requests

/-- The item with the number `k + 1` is the `k`-th that was appended. -/
structure Logged (codec : Codec) (s : Rows) (log : List Json) : Prop where
  accounted : Accounted codec s
  item : ∀ k, (s.items.get? (k + 1)).map DatasetItem.item = log[k]?

variable {codec : Codec} {s s' : Rows} {log : List Json}

theorem Logged.length (h : Logged codec s log) : s.items.rows.length = log.length := by
  have hnumbers : ∀ k, k < log.length ↔ k < s.items.rows.length := by
    intro k
    have hitem := congrArg Option.isSome (h.item k)
    have hsequence := h.accounted.sequences (k + 1)
    rw [Option.isSome_map] at hitem
    rw [hitem, isSome_getElem?] at hsequence
    omega
  have hlow := hnumbers log.length
  have hhigh := hnumbers s.items.rows.length
  omega

theorem current (h : Accounted codec s) : Behind s.dataset s.dataset :=
  ⟨by rw [h.next_sequence, h.item_count], .inl rfl⟩

theorem newItems_item (key : String) {items : List Json} {encoded : List (List UInt8)}
    (h : List.Forall₂ (fun item bytes => codec.canonicalJsonBytes item = some bytes) items encoded) :
    (List.zipWith (newItem codec key) items encoded).map DatasetItem.item = items := by
  induction h with
  | nil => rfl
  | cons _ _ ih =>
    rw [List.zipWith_cons_cons, List.map_cons, ih]
    rfl

theorem Logged.insert {v : ValidatedDatasetAppend} {userId : Uuid} {receipt : DatasetAppendReceipt}
    (h : Logged codec s log)
    (hinsert : insertAppend codec userId v s.dataset s = .ok (s', receipt)) :
    Logged codec s' (log ++ v.items) := by
  refine ⟨accounted_append h.accounted (current h.accounted) hinsert, fun k => ?_⟩
  obtain ⟨-, encoded, hencoded, -, -, -, hitems⟩ :=
    insertAppend_ok h.accounted (current h.accounted) hinsert
  have hforall := encodeItems_ok hencoded
  have hlength := (newItems_spec v.idempotencyKey hforall).1
  have hnext := h.accounted.next_sequence
  rw [h.length] at hnext
  rw [get?_insertFrom hitems, hlength, hnext]
  by_cases hold : k < log.length
  · rw [if_neg (by omega), h.item, List.getElem?_append_left hold]
  · have hshift : k + 1 - (log.length + 1) = k - log.length := by omega
    rw [List.getElem?_append_right (by omega)]
    split
    next =>
      rw [hshift, ← List.getElem?_map, newItems_item _ hforall]
    next hout =>
      rw [h.item, List.getElem?_eq_none (by omega), List.getElem?_eq_none (by omega)]

theorem Logged.append (h : Logged codec s log) (request : AppendRequest) :
    Logged codec (appendStep codec s request) (log ++ addedItems codec s request) := by
  unfold appendStep addedItems
  cases happend : appendDatasetItems codec s request with
  | error e => simpa [commit] using h
  | ok result =>
    obtain ⟨s', outcome⟩ := result
    simp only [appendDatasetItems, bind_ok, mapError_ok] at happend
    obtain ⟨v, hv, happend⟩ := happend
    simp only [hv, commit]
    split at happend
    next receipt hreceipt =>
      simp only [replayReceipt, bind_ok, require_ok, pure_ok, Prod.mk.injEq] at happend
      obtain ⟨_, ⟨-, -, rfl⟩, rfl, rfl⟩ := happend
      simpa using h
    next hreceipt =>
      simp only [bind_ok, pure_ok, Prod.mk.injEq] at happend
      obtain ⟨⟨_, receipt⟩, hinsert, rfl, rfl⟩ := happend
      simpa using h.insert hinsert

theorem Logged.run (h : Logged codec s log) (requests : List AppendRequest) :
    Logged codec (exec (appendStep codec) s requests) (log ++ appendedItems codec s requests) := by
  induction requests generalizing s log with
  | nil => simpa [appendedItems] using h
  | cons request requests ih =>
    rw [appendedItems, ← List.append_assoc]
    exact ih (h.append request)

theorem logged_after (codec : Codec) (requests : List AppendRequest) :
    Logged codec (exec (appendStep codec) newDataset requests)
      (appendedItems codec newDataset requests) := by
  have hnew : Logged codec newDataset [] := ⟨newDataset_accounted codec, fun _ => rfl⟩
  exact hnew.run requests

end Appends

section Rows
variable {codec : Codec} {s : Rows} {log : List Json}

theorem inSequence_numbers (h : Accounted codec s) :
    (inSequence s.items).map Prod.fst = List.range' 1 s.items.rows.length := by
  have hperm := (List.perm_insertionSort (fun a b : ℕ × DatasetItem => a.1 ≤ b.1)
    s.items.rows).map Prod.fst
  have hsorted : ((inSequence s.items).map Prod.fst).Pairwise (· ≤ ·) :=
    List.pairwise_map.2 (List.pairwise_insertionSort _ _)
  refine List.Perm.eq_of_pairwise (fun a b _ _ => Nat.le_antisymm) hsorted
    ((List.pairwise_lt_range' 1 Nat.zero_lt_one).imp Nat.le_of_lt) ?_
  refine hperm.trans ((List.perm_ext_iff_of_nodup s.items.nodup List.nodup_range').2 fun k => ?_)
  have hsequence := h.sequences k
  rw [List.mem_range'_1]
  have hmem : k ∈ s.items.rows.map Prod.fst ↔ (s.items.get? k).isSome = true := by
    rw [← not_iff_not, ← Table.get?_eq_none, Option.not_isSome_iff_eq_none]
  rw [hmem, hsequence]
  omega

theorem mem_inSequence {row : ℕ × DatasetItem} :
    row ∈ inSequence s.items ↔ s.items.get? row.1 = some row.2 := by
  rw [inSequence, List.mem_insertionSort, Table.get?_eq_some]

theorem inSequence_items (h : Logged codec s log) :
    (inSequence s.items).map (fun row => row.2.item) = log := by
  have hnumbers := inSequence_numbers h.accounted
  have hlength : (inSequence s.items).length = log.length := by
    rw [inSequence, List.length_insertionSort, h.length]
  refine List.ext_getElem? fun k => ?_
  by_cases hk : k < log.length
  · have hnumber : ((inSequence s.items).get ⟨k, by omega⟩).1 = k + 1 := by
      have hget := congrArg (fun numbers => numbers[k]?) hnumbers
      simp only [List.getElem?_map, List.getElem?_eq_getElem (hlength.symm ▸ hk), Option.map_some,
        List.getElem?_range' (h.length.symm ▸ hk), Option.some.injEq] at hget
      rw [List.get_eq_getElem, hget]
      omega
    have hstored := mem_inSequence.1 (List.get_mem (inSequence s.items) ⟨k, by omega⟩)
    rw [hnumber] at hstored
    rw [← h.item, hstored, List.getElem?_map, List.getElem?_eq_getElem (hlength.symm ▸ hk)]
    rfl
  · rw [List.getElem?_eq_none (by rw [List.length_map]; omega), List.getElem?_eq_none (by omega)]

theorem exportLines_eq {rows : List (ℕ × DatasetItem)} {expected : ℕ}
    (hnumbers : rows.map Prod.fst = List.range' expected rows.length)
    (hcanonical : ∀ row ∈ rows,
      (codec.canonicalJsonBytes row.2.item).map List.length = some row.2.sizeBytes) :
    ∃ encoded, exportLines codec expected rows = .ok (encoded.map (· ++ [10])) ∧
      List.Forall₂ (fun item bytes => codec.canonicalJsonBytes item = some bytes)
        (rows.map (fun row => row.2.item)) encoded ∧
      (encoded.map (· ++ [10])).flatten.length =
        (rows.map (fun row => row.2.sizeBytes)).sum + rows.length := by
  induction rows generalizing expected with
  | nil => exact ⟨[], rfl, .nil, rfl⟩
  | cons row rows ih =>
    rw [List.map_cons, List.length_cons, List.range'_succ, List.cons.injEq] at hnumbers
    obtain ⟨hrow, hrows⟩ := List.forall_mem_cons.1 hcanonical
    obtain ⟨bytes, hbytes, hsize⟩ := Option.map_eq_some_iff.1 hrow
    obtain ⟨encoded, hlines, hencoded, htotal⟩ := ih hnumbers.2 hrows
    refine ⟨bytes :: encoded, ?_, .cons hbytes hencoded, ?_⟩
    · simp only [exportLines, line, bind_ok, require_ok, demand_ok, pure_ok]
      exact ⟨(), hnumbers.1, _, ⟨bytes, hbytes, rfl⟩, _, hlines, rfl⟩
    · simp only [List.map_cons, List.flatten_cons, List.length_append, List.length_cons,
        List.length_nil, List.sum_cons, htotal, hsize]
      omega

theorem inSequence_bytes (h : Accounted codec s) :
    ((inSequence s.items).map (fun row => row.2.sizeBytes)).sum = s.dataset.totalBytes := by
  have hperm := ((List.perm_insertionSort (fun a b : ℕ × DatasetItem => a.1 ≤ b.1)
    s.items.rows).map (fun row => row.2.sizeBytes)).sum_eq
  have htotal := h.total_bytes
  rw [Table.sum] at htotal
  rw [inSequence, hperm]
  have hcast : (((s.items.rows.map (fun row => row.2.sizeBytes)).sum : ℕ) : ℤ) =
      (s.items.rows.map (fun row => (row.2.sizeBytes : ℤ))).sum := by
    simpa [Function.comp_def] using
      map_list_sum (Nat.castAddMonoidHom ℤ) (s.items.rows.map (fun row => row.2.sizeBytes))
  omega

theorem export_within (h : Logged codec s log)
    (hitems : s.dataset.itemCount ≤ maxDatasetExportItems)
    (hbytes : s.dataset.totalBytes + s.dataset.itemCount ≤ maxDatasetExportBytes) :
    ∃ encoded, List.Forall₂ (fun item bytes => codec.canonicalJsonBytes item = some bytes)
        log encoded ∧
      exportDatasetJsonl codec s = .ok ⟨(encoded.map (· ++ [10])).flatten,
        codec.sha256 (encoded.map (· ++ [10])).flatten, s.dataset.itemCount⟩ := by
  have hlength : (inSequence s.items).length = s.dataset.itemCount := by
    rw [inSequence, List.length_insertionSort, h.accounted.item_count]
  have hall : (inSequence s.items).take (maxDatasetExportItems + 1) = inSequence s.items :=
    List.take_of_length_le (by omega)
  have hnumbers : (inSequence s.items).map Prod.fst =
      List.range' 1 (inSequence s.items).length := by
    rw [inSequence_numbers h.accounted, hlength, h.accounted.item_count]
  obtain ⟨encoded, hlines, hencoded, htotal⟩ := exportLines_eq hnumbers
    (fun row hrow => h.accounted.canonical row.1 row.2 (mem_inSequence.1 hrow))
  rw [inSequence_items h] at hencoded
  rw [inSequence_bytes h.accounted, hlength] at htotal
  refine ⟨encoded, hencoded, ?_⟩
  simp only [exportDatasetJsonl, hall, bind_ok, require_ok, pure_ok]
  exact ⟨(), hitems, (), hbytes, (), hlength, _, hlines, (), htotal ▸ hbytes, by rw [hlength]⟩

end Rows

/-- After any appends an export succeeds exactly when the counters are within the limits, and then
it has the canonical text of each item on a line, in the order of the appends. The limits are all
that an export is refused for. -/
theorem export_exact (codec : Codec) (requests : List AppendRequest) :
    ((∃ outcome, exportDatasetJsonl codec (exec (appendStep codec) newDataset requests) =
        .ok outcome) ↔
      (exec (appendStep codec) newDataset requests).dataset.itemCount ≤ maxDatasetExportItems ∧
      (exec (appendStep codec) newDataset requests).dataset.totalBytes +
        (exec (appendStep codec) newDataset requests).dataset.itemCount ≤ maxDatasetExportBytes) ∧
    (∀ outcome, exportDatasetJsonl codec (exec (appendStep codec) newDataset requests) =
        .ok outcome →
      ∃ encoded, List.Forall₂ (fun item bytes => codec.canonicalJsonBytes item = some bytes)
          (appendedItems codec newDataset requests) encoded ∧
        outcome.content = (encoded.map (· ++ [10])).flatten) ∧
    exportDatasetJsonl codec (exec (appendStep codec) newDataset requests) ≠
      .error exportIncomplete ∧
    exportDatasetJsonl codec (exec (appendStep codec) newDataset requests) ≠
      .error exportSequenceGap := by
  have hlogged := logged_after codec requests
  generalize exec (appendStep codec) newDataset requests = s at *
  by_cases hitems : s.dataset.itemCount ≤ maxDatasetExportItems
  · by_cases hbytes : s.dataset.totalBytes + s.dataset.itemCount ≤ maxDatasetExportBytes
    · obtain ⟨encoded, hencoded, hexport⟩ := export_within hlogged hitems hbytes
      rw [hexport]
      refine ⟨⟨fun _ => ⟨hitems, hbytes⟩, fun _ => ⟨_, rfl⟩⟩, fun outcome hok => ?_,
        by rintro ⟨⟩, by rintro ⟨⟩⟩
      obtain rfl := Except.ok.inj hok
      exact ⟨encoded, hencoded, rfl⟩
    · have hexport : exportDatasetJsonl codec s = .error exportByteLimit := by
        simp only [exportDatasetJsonl, bind_error, require_error]
        exact .inr ⟨(), require_ok.2 hitems, .inl ⟨hbytes, trivial⟩⟩
      rw [hexport]
      exact ⟨⟨by rintro ⟨_, ⟨⟩⟩, fun hwithin => absurd hwithin.2 hbytes⟩, by rintro _ ⟨⟩,
        by rintro ⟨⟩, by rintro ⟨⟩⟩
  · have hexport : exportDatasetJsonl codec s = .error exportItemLimit := by
      simp only [exportDatasetJsonl, bind_error, require_error]
      exact .inl ⟨hitems, trivial⟩
    rw [hexport]
    exact ⟨⟨by rintro ⟨_, ⟨⟩⟩, fun hwithin => absurd hwithin.1 hitems⟩, by rintro _ ⟨⟩,
      by rintro ⟨⟩, by rintro ⟨⟩⟩

end RoozDataCloud.DatasetExports
