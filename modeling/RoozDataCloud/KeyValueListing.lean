import RoozDataCloud.CursorSeparation
import RoozDataCloud.KeyValueRefinement
import RoozDataCloud.KeysetPages
import Mathlib.Data.List.Infix
import Mathlib.Data.String.Basic

set_option autoImplicit false

/-!
# The records of a store, page by page

A listing asks the database for the keys that are `LIKE` its prefix. What the
pages have between them is what `LIKE` finds, in the order of the keys; it is
what the prefix asks for unless an underscore of the prefix stands for another
character in some live key.
-/
namespace RoozDataCloud.KeyValueListing
open KeyedTable ExecutionModels FallibleSteps KeyValueStores KeyValueProtocol KeyValueVaults
open KeyValueRefinement KeysetPages Cursors
open CursorSeparation (Issued decode_accepts twoResources)
open KeyValueTotals (writeRecord_get findRecord_selected)

section Prefixes

/-- The key begins as the prefix does, if an underscore of the prefix may stand for any character. -/
def Agrees (start key : String) : Prop :=
  ∃ head behind, key.toList = head ++ behind ∧
    List.Forall₂ (fun c d => c = '_' ∨ c = d) start.toList head

/-- The key begins as the prefix does but for some characters at its underscores. -/
def Blurred (start key : String) : Prop := Agrees start key ∧ ¬ start.toList <+: key.toList

theorem like_cons {c : Char} {pattern text : List Char} (hpercent : c ≠ '%') (hescape : c ≠ '\\') :
    like (c :: pattern) text = true ↔
      ∃ d rest, text = d :: rest ∧ (c = '_' ∨ c = d) ∧ like pattern rest = true := by
  by_cases hany : c = '_'
  · cases text with
    | nil => simp [like, hany]
    | cons d rest => simp [like, hany]
  · have hlike : like (c :: pattern) text =
        (decide (text.head? = some c) && like pattern text.tail) :=
      like.eq_5 text c pattern hpercent hany (fun _ _ heq _ => hescape heq)
    cases text with
    | nil => simp [hlike]
    | cons d rest => simp [hlike, hany, @eq_comm Char d c]

theorem like_any {start text : List Char} (h : ∀ c ∈ start, c ≠ '%' ∧ c ≠ '\\') :
    like (start ++ ['%']) text = true ↔
      ∃ head behind, text = head ++ behind ∧
        List.Forall₂ (fun c d => c = '_' ∨ c = d) start head := by
  induction start generalizing text with
  | nil =>
    have hend : [] ∈ text.tails := (List.mem_tails [] text).2 (List.nil_suffix)
    simp only [List.nil_append, like, List.any_eq_true, List.forall₂_nil_left_iff]
    exact ⟨fun _ => ⟨[], text, rfl, rfl⟩, fun _ => ⟨[], hend, rfl⟩⟩
  | cons c start ih =>
    obtain ⟨hc, hstart⟩ := List.forall_mem_cons.1 h
    rw [List.cons_append, like_cons hc.1 hc.2]
    constructor
    · rintro ⟨d, rest, rfl, hd, hrest⟩
      obtain ⟨head, behind, rfl, hhead⟩ := (ih hstart).1 hrest
      exact ⟨d :: head, behind, rfl, .cons hd hhead⟩
    · rintro ⟨_, behind, rfl, _ | ⟨hd, hhead⟩⟩
      exact ⟨_, _, rfl, hd, (ih hstart).2 ⟨_, behind, rfl, hhead⟩⟩

theorem logicalKey_plain {start : String} (h : logicalKeyValid start = true) :
    ∀ c ∈ start.toList, c ≠ '%' ∧ c ≠ '\\' := by
  have halpha : ∀ c : Char, c.isAlphanum = true → c ≠ '%' ∧ c ≠ '\\' := by
    rintro c hc
    constructor <;> rintro rfl <;> revert hc <;> decide
  intro c hc
  unfold logicalKeyValid at h
  split at h
  next => cases h
  next first rest hlist =>
    rw [hlist] at hc
    simp only [Bool.and_eq_true, List.all_eq_true, Bool.or_eq_true, decide_eq_true_eq] at h
    rcases List.mem_cons.1 hc with rfl | hrest
    · exact halpha c h.1.1
    · rcases h.2 c hrest with hletter | hmark
      · exact halpha c hletter
      · constructor <;> rintro rfl <;> revert hmark <;> decide

theorem startsWith_iff {start key : String} (h : logicalKeyValid start = true) :
    startsWith start key = true ↔ Agrees start key :=
  like_any (logicalKey_plain h)

theorem agrees_of_begins {start key : String} (h : start.toList <+: key.toList) :
    Agrees start key := by
  obtain ⟨behind, hbehind⟩ := h
  exact ⟨start.toList, behind, hbehind.symm, List.forall₂_same.2 fun _ _ => .inr rfl⟩

end Prefixes

section Stores

/-- The key of a record is legal, and no other record of the store has it. -/
structure Keyed (rows : Rows) : Prop where
  unique : ∀ id id' record record', rows.records.get? id = some record →
    rows.records.get? id' = some record' → record.key = record'.key → id = id'
  legal : ∀ id record, rows.records.get? id = some record → logicalKeyValid record.key = true

variable {codec : ValueCodec} {supply : Supply} {vault : Vault}

theorem validateKvMutation_key {payload : Datasets.Json} {v : ValidatedRequest codec}
    (h : validateKvMutation codec payload = .ok v) : logicalKeyValid v.key = true := by
  have hmembers : ∀ members set, validateMembers codec members set = .ok v →
      logicalKeyValid v.key = true := by
    intro members set hvalid
    simp only [validateMembers, bind_ok, demand_ok, pure_ok] at hvalid
    obtain ⟨-, -, -, -, _, -, key, hkey, _, -, _, -, _, -, -, -, rfl⟩ := hvalid
    exact (Option.filter_eq_some_iff.1 hkey).2
  cases payload with
  | object members =>
    simp only [validateKvMutation] at h
    split at h
    · exact hmembers members true h
    · exact hmembers members false h
    · cases h
  | _ => cases h

theorem legal_step (h : ∀ id record, vault.rows.records.get? id = some record →
    logicalKeyValid record.key = true) (request : Request) :
    ∀ id record, (step codec supply vault request).rows.records.get? id = some record →
      logicalKeyValid record.key = true := by
  unfold step
  rcases mutateRecord_cases codec supply vault request with ⟨e, hrun⟩ | ⟨v, hvalid,
    ⟨e, -, hrun⟩ | ⟨receipt, -, hrun⟩ | ⟨rows, receipt, hmutate, hrun⟩⟩ <;> rw [hrun]
  · exact h
  · exact h
  · exact h
  · rcases mutate_cases hmutate with ⟨htrue, -⟩ | ⟨-, -, -, hrecords, -, -⟩
    · cases htrue
    intro id record hget
    rw [writeRecord_get findRecord_selected hrecords id] at hget
    split at hget
    next =>
      obtain rfl := Option.some.inj hget
      cases hfound : findRecord (mutationOf codec supply vault request v) vault.rows.records with
      | none => exact validateKvMutation_key hvalid
      | some row => exact h row.1 row.2 (findRecord_selected row.1 row.2 hfound)
    next => exact h id record hget

end Stores

section Pages
variable {Id Stamp : Type} (lib : Signing Id Stamp) (storeId : Id) (collation : LinearOrder String)
  (rows : Rows) (start : Option String)

def normalizeLimit (limit : ℤ) : Except CursorError ℕ := do
  require (1 ≤ limit ∧ limit ≤ 200)
    (.api (apiError 422 "VALIDATION_FAILED" "The page limit must be between 1 and 200."))
  pure limit.toNat

def positionKey : Position Id Stamp → Option String
  | .key text => some text
  | _ => none

/-- `list_key_value_records_route`: the records of a page and its cursor. What is shown of a record
is left out. -/
def listPage (limit : ℤ) (cursor : Option String) :
    Except CursorError (List (Uuid × KeyValueRecord) × Option String) := do
  let position ← decodeKeyValueRecordCursor lib storeId cursor
  let limit ← normalizeLimit limit
  let (records, more) :=
    listKeyValueRecords collation rows ⟨start, position.bind positionKey⟩ limit
  pure (records, if more then records.getLast?.map (fun row =>
    encodeKeyValueRecordCursor lib storeId row.2.key) else none)

/-- A live record whose key begins with the prefix. -/
def Asked (id : Uuid) (record : KeyValueRecord) : Prop :=
  rows.records.get? id = some record ∧ record.deleted = false ∧
    ∀ s, start = some s → s.toList <+: record.key.toList

/-- The pages come to an end, and have between them the records that are asked for, each once and
in the order of their keys. -/
structure ListsExactly (limit : ℤ) : Prop where
  ends : ∃ fuel pages,
    walk (listPage lib storeId collation rows start limit) fuel none = .ok (some pages)
  ordered : ∀ fuel pages,
    walk (listPage lib storeId collation rows start limit) fuel none = .ok (some pages) →
    pages.flatten.Pairwise (fun a b => collation.lt a.2.key b.2.key)
  exact : ∀ fuel pages,
    walk (listPage lib storeId collation rows start limit) fuel none = .ok (some pages) →
    ∀ id record, (id, record) ∈ pages.flatten ↔ Asked rows start id record

/-- What `LIKE` finds among the live records, in the order of the keys. -/
def found : List (Uuid × KeyValueRecord) :=
  (rows.records.select (fun _ record => !record.deleted &&
    start.all (fun s => startsWith s record.key))).insertionSort
      (fun a b => keyLe collation a.2.key b.2.key)

end Pages

section Walking
variable {Id Stamp : Type} {lib : Signing Id Stamp} {storeId : Id} {collation : LinearOrder String}
  {rows : Rows} {start : Option String} {limit : ℤ}

theorem mem_found {id : Uuid} {record : KeyValueRecord} :
    (id, record) ∈ found collation rows start ↔ rows.records.get? id = some record ∧
      record.deleted = false ∧ ∀ s, start = some s → startsWith s record.key = true := by
  rw [found, List.mem_insertionSort, Table.mem_select]
  simp [Option.all_eq_true]

theorem found_ordered (collation : LinearOrder String) (start : Option String)
    (hkeyed : Keyed rows) :
    (found collation rows start).Pairwise (fun a b => collation.lt a.2.key b.2.key) := by
  have hsorted := List.pairwise_insertionSort
    (fun a b : Uuid × KeyValueRecord => keyLe collation a.2.key b.2.key = true)
    (rows.records.select (fun _ record => !record.deleted &&
      start.all (fun s => startsWith s record.key)))
  have hdistinct : (found collation rows start).Pairwise (fun a b => a ≠ b) :=
    (List.perm_insertionSort _ _).nodup_iff.2
      (List.Nodup.of_map Prod.fst (Table.select_keys_nodup _ _))
  refine (hsorted.and hdistinct).imp_of_mem ?_
  rintro ⟨id, record⟩ ⟨id', record'⟩ ha hb ⟨hle, hne⟩
  have hget := (mem_found.1 ha).1
  have hget' := (mem_found.1 hb).1
  refine @lt_of_le_of_ne _ collation.toPartialOrder _ _ (keyLe_iff.1 hle) (fun hkey => hne ?_)
  obtain rfl := hkeyed.unique id id' record record' hget hget' hkey
  rw [Option.some.inj (hget.symm.trans hget')]

theorem listed_later (hkeyed : Keyed rows) (afterKey : Option String) (n : ℕ) :
    listKeyValueRecords collation rows ⟨start, afterKey⟩ n =
      let rest := (found collation rows start).filter (fun row =>
        afterKey.all (fun last => !keyLe collation row.2.key last))
      (rest.take n, decide (n < rest.length)) := by
  have hselect : (rows.records.select (fun _ record => !record.deleted &&
      Page.lists ⟨start, afterKey⟩ collation record.key)) =
      (rows.records.select (fun _ record => !record.deleted &&
        start.all (fun s => startsWith s record.key))).filter (fun row =>
          afterKey.all (fun last => !keyLe collation row.2.key last)) := by
    simp only [Table.select, List.filter_filter, Page.lists]
    refine List.filter_congr fun row _ => ?_
    cases row.2.deleted <;> simp [Bool.and_comm]
  have hanti : ∀ a ∈ rows.records.select (fun _ record => !record.deleted &&
      start.all (fun s => startsWith s record.key)),
      ∀ b ∈ rows.records.select (fun _ record => !record.deleted &&
        start.all (fun s => startsWith s record.key)),
      keyLe collation a.2.key b.2.key = true → keyLe collation b.2.key a.2.key = true → a = b := by
    rintro ⟨id, record⟩ ha ⟨id', record'⟩ hb hab hba
    have hget := ((Table.mem_select _ _ _ _).1 ha).1
    have hget' := ((Table.mem_select _ _ _ _).1 hb).1
    have hkey := collation.le_antisymm _ _ (keyLe_iff.1 hab) (keyLe_iff.1 hba)
    obtain rfl := hkeyed.unique id id' record record' hget hget' hkey
    rw [Option.some.inj (hget.symm.trans hget')]
  have hmore : ∀ m, n < min (n + 1) m ↔ n < m := by omega
  unfold listKeyValueRecords found
  rw [hselect, insertionSort_filter _ _ _ hanti]
  dsimp only
  rw [List.take_take, min_eq_left (Nat.le_succ n), List.length_take]
  simp only [hmore]

/-- The cursor that stands for `rest`: none at the beginning, and else the cursor of the record
before. -/
def Left (lib : Signing Id Stamp) (storeId : Id) (collation : LinearOrder String) (rows : Rows)
    (start : Option String) (cursor : Option String) (rest : List (Uuid × KeyValueRecord)) : Prop :=
  (cursor = none ∧ rest = found collation rows start) ∨
    ∃ before row, found collation rows start = before ++ row :: rest ∧
      cursor = some (encodeKeyValueRecordCursor lib storeId row.2.key)

theorem decode_own (lib : Signing Id Stamp) (storeId : Id) {key : String}
    (h : logicalKeyValid key = true) :
    decodeKeyValueRecordCursor lib storeId (some (encodeKeyValueRecordCursor lib storeId key)) =
      .ok (some (.key key)) := by
  have hissued : Issued lib (.keyValueRecords storeId none) (.key key)
      (encodeKeyValueRecordCursor lib storeId key) :=
    ⟨fun _ hsome => (nomatch hsome), h, trivial, rfl⟩
  have htaken : CursorSeparation.decode lib (.keyValueRecords storeId none)
      (some (encodeKeyValueRecordCursor lib storeId key)) = .ok (some (.key key)) :=
    decode_accepts hissued (.inl rfl)
  exact htaken

theorem listPage_left (hkeyed : Keyed rows) (hlimit : 1 ≤ limit ∧ limit ≤ 200)
    {cursor : Option String} {rest : List (Uuid × KeyValueRecord)}
    (hleft : Left lib storeId collation rows start cursor rest) :
    listPage lib storeId collation rows start limit cursor = .ok (rest.take limit.toNat,
      if limit.toNat < rest.length then (rest.take limit.toNat).getLast?.map (fun row =>
        encodeKeyValueRecordCursor lib storeId row.2.key) else none) := by
  have hnormal : normalizeLimit limit = .ok limit.toNat := by
    simp only [normalizeLimit, require, if_pos hlimit]
    rfl
  rcases hleft with ⟨rfl, rfl⟩ | ⟨before, row, hfound, rfl⟩
  · have hstart : decodeKeyValueRecordCursor lib storeId none = .ok none := rfl
    simp only [listPage, hstart, hnormal, listed_later hkeyed]
    simp [Bind.bind, Except.bind, pure, Except.pure]
  · have hrow : (row.1, row.2) ∈ found collation rows start := by
      rw [hfound]
      exact List.mem_append_right before List.mem_cons_self
    have hordered := found_ordered collation start hkeyed
    rw [hfound] at hordered
    have hlater : (found collation rows start).filter (fun other =>
        !keyLe collation other.2.key row.2.key) = rest := by
      rw [hfound]
      refine filter_later (fun a b => !keyLe collation b.2.key a.2.key) ?_
        (hordered.imp fun {a b} hlt => ?_)
      · simp [keyLe_iff.2 (collation.le_refl row.2.key)]
      · have hle := (collation.lt_iff_le_not_ge _ _).1 hlt
        simp only [Bool.not_eq_true', ← Bool.not_eq_true, keyLe_iff]
        exact ⟨hle.2, not_not.2 hle.1⟩
    have hdecoded := decode_own lib storeId
      (hkeyed.legal row.1 row.2 (mem_found.1 hrow).1)
    simp only [listPage, hdecoded, hnormal, listed_later hkeyed]
    simp [Bind.bind, Except.bind, pure, Except.pure, positionKey, hlater]

theorem listPage_serves (lib : Signing Id Stamp) (storeId : Id) (collation : LinearOrder String)
    (start : Option String) (hkeyed : Keyed rows) (hlimit : 1 ≤ limit ∧ limit ≤ 200) :
    Serves (listPage lib storeId collation rows start limit)
      (Left lib storeId collation rows start) limit.toNat :=
  serves_pages (by omega) fun _ _ hleft => listPage_left hkeyed hlimit hleft

theorem walk_found (lib : Signing Id Stamp) (storeId : Id) (collation : LinearOrder String)
    (start : Option String) (hkeyed : Keyed rows) (hlimit : 1 ≤ limit ∧ limit ≤ 200) :
    (∃ fuel pages,
      walk (listPage lib storeId collation rows start limit) fuel none = .ok (some pages)) ∧
    ∀ fuel pages,
      walk (listPage lib storeId collation rows start limit) fuel none = .ok (some pages) →
      pages.flatten = found collation rows start := by
  exact walk_rows (listPage_serves lib storeId collation start hkeyed hlimit) (by omega)

theorem listsExactly_iff (hkeyed : Keyed rows)
    (hstart : ∀ s, start = some s → logicalKeyValid s = true)
    (hlimit : 1 ≤ limit ∧ limit ≤ 200) :
    ListsExactly lib storeId collation rows start limit ↔
      ∀ id record, (id, record) ∈ found collation rows start → Asked rows start id record := by
  obtain ⟨⟨fuel, pages, hwalk⟩, hfound⟩ := walk_found lib storeId collation start hkeyed
    hlimit
  constructor
  · intro h id record hmem
    rw [← hfound fuel pages hwalk] at hmem
    exact (h.exact fuel pages hwalk id record).1 hmem
  · intro h
    refine ⟨⟨fuel, pages, hwalk⟩, fun fuel pages hwalk => ?_, fun fuel pages hwalk id record => ?_⟩
    · rw [hfound fuel pages hwalk]
      exact found_ordered collation start hkeyed
    · rw [hfound fuel pages hwalk]
      refine ⟨h id record, fun hasked => mem_found.2 ⟨hasked.1, hasked.2.1, fun s hs => ?_⟩⟩
      exact (startsWith_iff (hstart s hs)).2 (agrees_of_begins (hasked.2.2 s hs))

end Walking

section Instance

/-- A store with two live records. -/
def twoRecords (first second : String) : Rows where
  store := ⟨2, 2, 3⟩
  records := ⟨[(1, ⟨first, 1, false, 1, 1, by simp⟩), (2, ⟨second, 1, false, 1, 1, by simp⟩)],
    show List.Nodup [(1 : Uuid), 2] by decide⟩
  versions := .empty
  receipts := .empty

theorem twoRecords_get {first second : String} {id : Uuid} {record : KeyValueRecord}
    (h : (twoRecords first second).records.get? id = some record) :
    (id = 1 ∧ record.key = first) ∨ (id = 2 ∧ record.key = second) := by
  rw [Table.get?_eq_some] at h
  simp only [twoRecords, List.mem_cons, Prod.mk.injEq, List.not_mem_nil, or_false] at h
  rcases h with ⟨rfl, rfl⟩ | ⟨rfl, rfl⟩
  · exact .inl ⟨rfl, rfl⟩
  · exact .inr ⟨rfl, rfl⟩

theorem twoRecords_keyed {first second : String} (hfirst : logicalKeyValid first = true)
    (hsecond : logicalKeyValid second = true) (hne : first ≠ second) :
    Keyed (twoRecords first second) where
  unique id id' record record' hget hget' hkey := by
    rcases twoRecords_get hget with ⟨rfl, h⟩ | ⟨rfl, h⟩ <;>
      rcases twoRecords_get hget' with ⟨rfl, h'⟩ | ⟨rfl, h'⟩
    · rfl
    · exact absurd (h.symm.trans (hkey.trans h')) hne
    · exact absurd (h'.symm.trans (hkey.symm.trans h)) hne
    · rfl
  legal id record hget := by
    rcases twoRecords_get hget with ⟨-, h⟩ | ⟨-, h⟩
    · exact h ▸ hfirst
    · exact h ▸ hsecond

/-- The order of the code points. -/
abbrev codePoints : LinearOrder String := inferInstance

end Instance
end RoozDataCloud.KeyValueListing
