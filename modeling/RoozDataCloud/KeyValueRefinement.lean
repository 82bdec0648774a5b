import RoozDataCloud.KeyValueTotals
import RoozDataCloud.KeyValueVaults

set_option autoImplicit false

/-!
# The key-value store as a versioned map

The rows and objects of a store represent the history of its accepted mutations.
Reading and listing then answer from the history alone.
-/
namespace RoozDataCloud.KeyValueRefinement
open KeyedTable ExecutionModels FallibleSteps KeyValueStores KeyValueProtocol KeyValueVaults
open VersionedMap
open KeyValueTotals (Selected writeRecord_get findRecord_selected)
open Datasets (Json)

/-- The versions of each record are its writes in turn, with their objects. -/
structure Represents (codec : ValueCodec) (supply : Supply) (vault : Vault)
    (h : History String (Content codec)) : Prop where
  unique : ∀ id id' record record', vault.rows.records.get? id = some record →
    vault.rows.records.get? id' = some record' → record.key = record'.key → id = id'
  complete : ∀ key, writes h key ≠ [] →
    ∃ id record, vault.rows.records.get? id = some record ∧ record.key = key
  record : ∀ id record, vault.rows.records.get? id = some record →
    1 ≤ record.currentVersion ∧ record.currentVersion = version h record.key ∧
      record.deleted = (lookup h record.key).isNone
  stored : ∀ id record, vault.rows.records.get? id = some record → ∀ n write,
    (writes h record.key)[n]? = some write →
    ∃ versionId, vault.rows.versions.get? versionId = some ⟨id, n + 1, operationOf codec write⟩ ∧
      ∀ content, write = some content → vault.objects (id, versionId) = some content.bytes
  owned : ∀ versionId row, vault.rows.versions.get? versionId = some row →
    ∃ record, vault.rows.records.get? row.recordId = some record ∧ 1 ≤ row.version ∧
      row.version ≤ record.currentVersion
  numbered : ∀ versionId versionId' row row', vault.rows.versions.get? versionId = some row →
    vault.rows.versions.get? versionId' = some row' → row.recordId = row'.recordId →
    row.version = row'.version → versionId = versionId'
  drawn : ∀ versionId row, vault.rows.versions.get? versionId = some row →
    ∃ n < vault.drawn, versionId = supply.draw n

section Mutations
variable {codec : ValueCodec} {supply : Supply} {rows rows' : Rows} {mutation : Mutation}
  {receipt : KeyValueMutationReceipt} {replayed : Bool}

/-- What a mutation that is not refused has done: it is a replay, or it writes a record, a version
and a receipt. -/
theorem mutate_cases (h : mutateKeyValueRecord rows mutation = .ok (rows', receipt, replayed)) :
    (replayed = true ∧ rows' = rows ∧
      (∃ id, findReceipt mutation rows.receipts = some (id, receipt)) ∧
      receipt.requestDigest = mutation.validation.requestDigest) ∨
    (replayed = false ∧ findReceipt mutation rows.receipts = none ∧
      receipt = issuedReceipt mutation (findRecord mutation rows.records) ∧
      writeRecord mutation (findRecord mutation rows.records) rows.records = .ok rows'.records ∧
      writeVersion mutation (findRecord mutation rows.records) rows.versions = .ok rows'.versions ∧
      rows.receipts.insert? mutation.receiptId receipt = some rows'.receipts) := by
  simp only [mutateKeyValueRecord, bind_ok] at h
  obtain ⟨-, -, h⟩ := h
  split at h
  next id found hfound =>
    simp only [bind_ok, require_ok, pure_ok] at h
    obtain ⟨-, hdigest, hpair⟩ := h
    obtain ⟨rfl, hrest⟩ := Prod.mk.inj hpair
    obtain ⟨rfl, rfl⟩ := Prod.mk.inj hrest
    exact .inl ⟨rfl, rfl, ⟨id, hfound⟩, hdigest⟩
  next hnone =>
    simp only [writeMutation, writeReceipt, bind_ok, demand_ok, pure_ok] at h
    obtain ⟨_, ⟨-, -, _, -, -, -, records, hrecords, versions, hversions, receipts,
      ⟨-, -, hreceipts⟩, -, -, rfl⟩, hpair⟩ := h
    obtain ⟨rfl, hrest⟩ := Prod.mk.inj hpair
    obtain ⟨rfl, rfl⟩ := Prod.mk.inj hrest
    exact .inr ⟨rfl, hnone, rfl, hrecords, hversions, hreceipts⟩

theorem mutate_operation (h : mutateKeyValueRecord rows mutation = .ok (rows', receipt, replayed)) :
    mutation.validation.operation.name = mutation.requiredOperation := by
  simp only [mutateKeyValueRecord, bind_ok, require_ok] at h
  obtain ⟨-, hname, -⟩ := h
  exact hname

theorem writeVersion_ok {current : Option (Uuid × KeyValueRecord)}
    {versions versions' : Table Uuid KeyValueRecordVersion}
    (h : writeVersion mutation current versions = .ok versions') :
    (∀ versionId row, versions.get? versionId = some row → row.recordId = targetId mutation current →
      row.version ≠ nextVersion mutation current) ∧
    versions.insert? mutation.versionId ⟨targetId mutation current, nextVersion mutation current,
      mutation.validation.operation⟩ = some versions' := by
  simp only [writeVersion, bind_ok, require_ok, demand_ok, Option.isNone_iff_eq_none] at h
  obtain ⟨-, hnone, hinsert⟩ := h
  refine ⟨fun versionId row hget hid hversion => ?_, hinsert⟩
  have hfalse := Table.find?_none hnone hget
  simp [hid, hversion] at hfalse

end Mutations

section Records
variable {codec : ValueCodec} {supply : Supply} {vault : Vault} {h : History String (Content codec)}
  {mutation : Mutation}

theorem Represents.found (hr : Represents codec supply vault h) (key : String) :
    (∃ id record, vault.rows.records.find? (fun _ record => record.key = key) = some (id, record) ∧
      vault.rows.records.get? id = some record ∧ record.key = key) ∨
    (vault.rows.records.find? (fun _ record => record.key = key) = none ∧ writes h key = [] ∧
      ∀ id record, vault.rows.records.get? id = some record → record.key ≠ key) := by
  cases hfind : vault.rows.records.find? (fun _ record => record.key = key) with
  | some row =>
    obtain ⟨hget, hkey⟩ := Table.find?_some hfind
    exact .inl ⟨row.1, row.2, rfl, hget, of_decide_eq_true hkey⟩
  | none =>
    have hnone : ∀ id record, vault.rows.records.get? id = some record → record.key ≠ key := by
      intro id record hget
      exact of_decide_eq_false (Table.find?_none hfind hget)
    refine .inr ⟨rfl, ?_, hnone⟩
    by_contra hwritten
    obtain ⟨id, record, hget, hkey⟩ := hr.complete key hwritten
    exact hnone id record hget hkey

/-- The record that a mutation writes has the next version of its key, and it is the one record
that has the key. -/
structure Target (h : History String (Content codec)) (records : Table Uuid KeyValueRecord)
    (mutation : Mutation) (current : Option (Uuid × KeyValueRecord)) : Prop where
  key : (writtenRecord mutation current).key = mutation.validation.key
  version : (writtenRecord mutation current).currentVersion =
    VersionedMap.version h mutation.validation.key + 1
  deleted : (writtenRecord mutation current).deleted = mutation.validation.operation.tombstone
  only : ∀ id record, records.get? id = some record →
    (record.key = mutation.validation.key ↔ id = targetId mutation current)

theorem Represents.target {records : Table Uuid KeyValueRecord}
    (hr : Represents codec supply vault h)
    (hwrite : writeRecord mutation (findRecord mutation vault.rows.records) vault.rows.records =
      .ok records) :
    Target h vault.rows.records mutation (findRecord mutation vault.rows.records) := by
  rcases hr.found mutation.validation.key with ⟨id, record, hfind, hget, hkey⟩ | ⟨hfind, hempty, hnone⟩
  · have hcurrent : findRecord mutation vault.rows.records = some (id, record) := hfind
    rw [hcurrent]
    obtain ⟨-, hversion, -⟩ := hr.record id record hget
    refine ⟨hkey, ?_, rfl, fun id' record' hget' => ⟨fun hkey' => ?_, ?_⟩⟩
    · rw [← hkey, ← hversion]
      rfl
    · exact hr.unique id' id record' record hget' hget (hkey'.trans hkey.symm)
    · rintro rfl
      obtain rfl : record = record' := Option.some.inj (hget.symm.trans hget')
      exact hkey
  · have hcurrent : findRecord mutation vault.rows.records = none := hfind
    rw [hcurrent] at hwrite ⊢
    simp only [writeRecord, bind_ok, demand_ok] at hwrite
    obtain ⟨-, -, hinsert⟩ := hwrite
    refine ⟨rfl, ?_, rfl, fun id record hget => iff_of_false (hnone id record hget) ?_⟩
    · rw [version, hempty]
      rfl
    · rintro rfl
      have hfresh := Table.insert_fresh hinsert
      rw [show targetId mutation none = mutation.recordId from rfl, hfresh] at hget
      cases hget

theorem operationOf_tombstone (content : Option (Content codec)) :
    (operationOf codec content).tombstone = content.isNone := by
  cases content <;> rfl

end Records

section Writes
variable {codec : ValueCodec} {supply : Supply} {vault : Vault} {h : History String (Content codec)}
  {mutation : Mutation} {content : Option (Content codec)} {rows : Rows}

/-- An object under another key stays. -/
theorem putObject_ne {objects : Uuid × Uuid → Option (List UInt8)} {key key' : Uuid × Uuid}
    (hne : key' ≠ key) : putObject codec objects key content key' = objects key' := by
  cases content with
  | none => rfl
  | some content => exact Function.update_of_ne hne _ _

theorem Represents.write_record (hr : Represents codec supply vault h)
    (hop : mutation.validation.operation = operationOf codec content)
    (hrecords : writeRecord mutation (findRecord mutation vault.rows.records) vault.rows.records =
      .ok rows.records) (id : Uuid) (record : KeyValueRecord)
    (hget : rows.records.get? id = some record) :
    1 ≤ record.currentVersion ∧
      record.currentVersion = version (h ++ [⟨mutation.validation.key, content⟩]) record.key ∧
      record.deleted = (lookup (h ++ [⟨mutation.validation.key, content⟩]) record.key).isNone := by
  have ht := hr.target hrecords
  rw [writeRecord_get findRecord_selected hrecords] at hget
  rw [version_snoc, lookup_snoc]
  split_ifs at hget with hid
  · obtain rfl := Option.some.inj hget
    rw [if_pos ht.key.symm, if_pos ht.key.symm, ht.key, ht.version, ht.deleted, hop,
      operationOf_tombstone]
    exact ⟨Nat.le_add_left _ _, rfl, rfl⟩
  · have hne : mutation.validation.key ≠ record.key := fun heq => hid ((ht.only id record hget).1 heq.symm)
    rw [if_neg hne, if_neg hne]
    exact hr.record id record hget

theorem Represents.write_stored (hr : Represents codec supply vault h)
    (hop : mutation.validation.operation = operationOf codec content)
    (hrecords : writeRecord mutation (findRecord mutation vault.rows.records) vault.rows.records =
      .ok rows.records)
    (hversions : writeVersion mutation (findRecord mutation vault.rows.records) vault.rows.versions =
      .ok rows.versions) (id : Uuid) (record : KeyValueRecord)
    (hget : rows.records.get? id = some record) (n : ℕ) (write : Option (Content codec))
    (hn : (writes (h ++ [⟨mutation.validation.key, content⟩]) record.key)[n]? = some write) :
    ∃ versionId, rows.versions.get? versionId = some ⟨id, n + 1, operationOf codec write⟩ ∧
      ∀ value, write = some value →
        putObject codec vault.objects (objectKey vault.rows mutation) content (id, versionId) =
          some value.bytes := by
  have ht := hr.target hrecords
  obtain ⟨-, hinsert⟩ := writeVersion_ok hversions
  -- what was stored before is still there
  have hold : ∀ id record, vault.rows.records.get? id = some record →
      (writes h record.key)[n]? = some write →
      ∃ versionId, rows.versions.get? versionId = some ⟨id, n + 1, operationOf codec write⟩ ∧
        ∀ value, write = some value →
          putObject codec vault.objects (objectKey vault.rows mutation) content (id, versionId) =
            some value.bytes := by
    intro id record hget hn
    obtain ⟨versionId, hversion, hobject⟩ := hr.stored id record hget n write hn
    refine ⟨versionId, Table.get?_insert_old hinsert hversion, fun value hvalue => ?_⟩
    rw [putObject_ne]
    · exact hobject value hvalue
    · intro hkey
      rw [(Prod.mk.inj hkey).2, Table.insert_fresh hinsert] at hversion
      cases hversion
  rw [writeRecord_get findRecord_selected hrecords] at hget
  rw [writes_snoc] at hn
  split_ifs at hget with hid
  · obtain rfl := Option.some.inj hget
    rw [ht.key, if_pos rfl, List.getElem?_append] at hn
    split_ifs at hn with hlt
    · have hwritten : writes h mutation.validation.key ≠ [] := by
        rintro hempty
        rw [hempty] at hlt
        exact Nat.not_lt_zero n hlt
      obtain ⟨id', old, hget', hkey⟩ := hr.complete _ hwritten
      obtain rfl : id' = id := ((ht.only id' old hget').1 hkey).trans hid.symm
      exact hold id' old hget' (hkey ▸ hn)
    · obtain ⟨hindex, hwrite⟩ := List.getElem?_eq_some_iff.1 hn
      have hlast : n = version h mutation.validation.key := by
        rw [List.length_singleton] at hindex
        exact Nat.le_antisymm (by unfold version; omega) (Nat.not_lt.1 hlt)
      have hcontent : content = write := by
        rw [← hwrite]
        exact (List.getElem_singleton _).symm
      subst hcontent
      refine ⟨mutation.versionId, ?_, ?_⟩
      · rw [Table.get?_insert hinsert, if_pos rfl, nextVersion, ht.version, ← hlast, hid, hop]
      · rintro value rfl
        rw [hid]
        exact Function.update_self _ _ _
  · have hne : mutation.validation.key ≠ record.key := fun heq => hid ((ht.only id record hget).1 heq.symm)
    rw [if_neg hne, List.append_nil] at hn
    exact hold id record hget hn

theorem Represents.write (hr : Represents codec supply vault h)
    (hop : mutation.validation.operation = operationOf codec content)
    (hdrawn : mutation.versionId = supply.draw (vault.drawn + 1))
    (hrecords : writeRecord mutation (findRecord mutation vault.rows.records) vault.rows.records =
      .ok rows.records)
    (hversions : writeVersion mutation (findRecord mutation vault.rows.records) vault.rows.versions =
      .ok rows.versions) :
    Represents codec supply
      ⟨rows, putObject codec vault.objects (objectKey vault.rows mutation) content, vault.drawn + 3⟩
      (h ++ [⟨mutation.validation.key, content⟩]) := by
  have ht := hr.target hrecords
  obtain ⟨hfresh, hinsert⟩ := writeVersion_ok hversions
  have hget := writeRecord_get findRecord_selected hrecords
  have hget_self : rows.records.get? (targetId mutation (findRecord mutation vault.rows.records)) =
      some (writtenRecord mutation (findRecord mutation vault.rows.records)) := by
    rw [hget, if_pos rfl]
  refine ⟨?_, ?_, hr.write_record hop hrecords, hr.write_stored hop hrecords hversions, ?_, ?_, ?_⟩
  · intro id id' record record' h₁ h₂ hkey
    simp only [hget] at h₁ h₂
    split_ifs at h₁ h₂ with hid hid' hid'
    · rw [hid, hid']
    · obtain rfl := Option.some.inj h₁
      rw [ht.key] at hkey
      exact absurd ((ht.only id' record' h₂).1 hkey.symm) hid'
    · obtain rfl := Option.some.inj h₂
      rw [ht.key] at hkey
      exact absurd ((ht.only id record h₁).1 hkey) hid
    · exact hr.unique id id' record record' h₁ h₂ hkey
  · intro key hwritten
    by_cases hkey : mutation.validation.key = key
    · exact ⟨_, _, hget_self, ht.key.trans hkey⟩
    · rw [writes_snoc, if_neg hkey, List.append_nil] at hwritten
      obtain ⟨id, record, hold, hrecord⟩ := hr.complete key hwritten
      have hne : id ≠ targetId mutation (findRecord mutation vault.rows.records) := fun hid =>
        hkey (((ht.only id record hold).2 hid).symm.trans hrecord)
      exact ⟨id, record, by rw [hget, if_neg hne, hold], hrecord⟩
  · intro versionId row hrow
    rw [Table.get?_insert hinsert] at hrow
    split_ifs at hrow with hid
    · obtain rfl := Option.some.inj hrow
      have hpos : 1 ≤ nextVersion mutation (findRecord mutation vault.rows.records) := by
        rw [nextVersion, ht.version]
        exact Nat.le_add_left 1 _
      exact ⟨_, hget_self, hpos, Nat.le_refl _⟩
    · obtain ⟨record, hold, hpos, hle⟩ := hr.owned versionId row hrow
      by_cases htarget : row.recordId = targetId mutation (findRecord mutation vault.rows.records)
      · refine ⟨_, by rw [htarget]; exact hget_self, hpos, ?_⟩
        have hkey := (ht.only _ record hold).2 htarget
        obtain ⟨-, hversion, -⟩ := hr.record _ record hold
        rw [ht.version, ← hkey, ← hversion]
        exact Nat.le_succ_of_le hle
      · exact ⟨record, by rw [hget, if_neg htarget, hold], hpos, hle⟩
  · intro versionId versionId' row row' h₁ h₂ hid hversion
    rw [Table.get?_insert hinsert] at h₁ h₂
    split_ifs at h₁ h₂ with hnew hnew' hnew'
    · rw [hnew, hnew']
    · obtain rfl := Option.some.inj h₁
      exact absurd hversion.symm (hfresh versionId' row' h₂ hid.symm)
    · obtain rfl := Option.some.inj h₂
      exact absurd hversion (hfresh versionId row h₁ hid)
    · exact hr.numbered versionId versionId' row row' h₁ h₂ hid hversion
  · intro versionId row hrow
    rw [Table.get?_insert hinsert] at hrow
    split_ifs at hrow with hid
    · exact ⟨vault.drawn + 1, Nat.add_lt_add_left (by decide) _, hid.trans hdrawn⟩
    · obtain ⟨n, hn, hdraw⟩ := hr.drawn versionId row hrow
      exact ⟨n, Nat.lt_add_right 3 hn, hdraw⟩

theorem Represents.cleanedUp {request : Request} {v : ValidatedRequest codec} {id : Uuid}
    (hr : Represents codec supply vault h) :
    Represents codec supply
      (cleanedUp codec vault request v (id, supply.draw (vault.drawn + 1))) h := by
  refine ⟨hr.unique, hr.complete, hr.record, fun id' record hget n write hn => ?_, hr.owned,
    hr.numbered, fun versionId row hrow => ?_⟩
  · obtain ⟨versionId, hversion, hobject⟩ := hr.stored id' record hget n write hn
    refine ⟨versionId, hversion, fun content hcontent => ?_⟩
    have hne : (id', versionId) ≠ (id, supply.draw (vault.drawn + 1)) := by
      intro heq
      obtain ⟨m, hm, hdraw⟩ := hr.drawn versionId _ hversion
      have hsame := supply.injective (hdraw.symm.trans (Prod.mk.inj heq).2)
      omega
    simp only [KeyValueVaults.cleanedUp]
    split_ifs
    · rw [putObject_ne hne]
      exact hobject content hcontent
    · rw [Function.update_of_ne hne]
      exact hobject content hcontent
  · obtain ⟨n, hn, hdraw⟩ := hr.drawn versionId row hrow
    exact ⟨n, Nat.lt_add_right 3 hn, hdraw⟩

end Writes

section Runs
variable {codec : ValueCodec} {supply : Supply} {vault : Vault} {h : History String (Content codec)}

/-- What a request does: it is refused and leaves the rows, it is a replay and leaves everything,
or it is accepted and writes. -/
theorem mutateRecord_cases (codec : ValueCodec) (supply : Supply) (vault : Vault) (request : Request) :
    (∃ e, mutateRecord codec supply vault request = (vault, .error e)) ∨
    (∃ v, validateKvMutation codec request.payload = .ok v ∧
      ((∃ e, uploads vault.rows (mutationOf codec supply vault request v) = true ∧
        mutateRecord codec supply vault request =
          (cleanedUp codec vault request v
            (objectKey vault.rows (mutationOf codec supply vault request v)), .error e)) ∨
      (∃ receipt, mutateKeyValueRecord vault.rows (mutationOf codec supply vault request v) =
          .ok (vault.rows, receipt, true) ∧
        mutateRecord codec supply vault request = (vault, .ok (receipt, true))) ∨
      ∃ rows receipt, mutateKeyValueRecord vault.rows (mutationOf codec supply vault request v) =
          .ok (rows, receipt, false) ∧
        mutateRecord codec supply vault request =
          (⟨rows, putObject codec vault.objects
            (objectKey vault.rows (mutationOf codec supply vault request v)) v.content,
            vault.drawn + 3⟩, .ok (receipt, false)))) := by
  unfold mutateRecord
  cases hvalid : validateKvMutation codec request.payload with
  | error e => exact .inl ⟨e, rfl⟩
  | ok v =>
    dsimp only
    cases hrun : mutateKeyValueRecord vault.rows (mutationOf codec supply vault request v) with
    | error e =>
      by_cases hup : uploads vault.rows (mutationOf codec supply vault request v) = true
      · exact .inr ⟨v, rfl, .inl ⟨e, hup, if_pos hup⟩⟩
      · exact .inl ⟨e, if_neg hup⟩
    | ok result =>
      obtain ⟨rows, receipt, replayed⟩ := result
      refine .inr ⟨v, rfl, .inr ?_⟩
      cases replayed with
      | true =>
        rcases mutate_cases hrun with ⟨-, rfl, -⟩ | ⟨hfalse, -⟩
        · exact .inl ⟨receipt, hrun, rfl⟩
        · cases hfalse
      | false => exact .inr ⟨rows, receipt, hrun, rfl⟩

theorem Represents.step (hr : Represents codec supply vault h) (request : Request) :
    Represents codec supply (step codec supply vault request)
      (h ++ acceptedWrite codec supply vault request) := by
  unfold KeyValueVaults.step acceptedWrite
  rcases mutateRecord_cases codec supply vault request with ⟨e, hrun⟩ | ⟨v, hvalid,
    ⟨e, -, hrun⟩ | ⟨receipt, -, hrun⟩ | ⟨rows, receipt, hmutate, hrun⟩⟩
  · rw [hrun]
    cases validateKvMutation codec request.payload <;> exact (List.append_nil h).symm ▸ hr
  · rw [hrun, hvalid]
    exact (List.append_nil h).symm ▸ hr.cleanedUp
  · rw [hrun, hvalid]
    exact (List.append_nil h).symm ▸ hr
  · rw [hrun, hvalid]
    rcases mutate_cases hmutate with ⟨htrue, -⟩ | ⟨-, -, -, hrecords, hversions, -⟩
    · cases htrue
    · exact hr.write rfl rfl hrecords hversions

theorem Represents.run (hr : Represents codec supply vault h) (requests : List Request) :
    Represents codec supply (exec (KeyValueVaults.step codec supply) vault requests)
      (h ++ accepted codec supply vault requests) := by
  induction requests generalizing vault h with
  | nil => simpa [accepted] using hr
  | cons request requests ih =>
    rw [exec_cons, accepted, ← List.append_assoc]
    exact ih (hr.step request)

theorem represents_newVault : Represents codec supply newVault [] :=
  ⟨fun _ _ _ _ hget => (nomatch hget), fun _ hwritten => absurd rfl hwritten,
    fun _ _ hget => (nomatch hget), fun _ _ hget => (nomatch hget), fun _ _ hget => (nomatch hget),
    fun _ _ _ _ hget => (nomatch hget), fun _ _ hget => (nomatch hget)⟩

theorem represents_after (requests : List Request) :
    Represents codec supply (after codec supply requests)
      (accepted codec supply newVault requests) :=
  represents_newVault.run requests

end Runs
section Reads
variable {codec : ValueCodec} {supply : Supply} {vault : Vault} {h : History String (Content codec)}

/-- What a read of the key should answer. -/
def summaryOf (h : History String (Content codec)) (key : String) (content : Content codec) :
    KeyValueRecordSummary where
  key := key
  version := version h key
  contentType := content.contentType
  encoding := content.encoding
  valueSha256 := codec.sha256 content.bytes
  sizeBytes := content.bytes.length
  value := sorted content.value

/-- The current version of a live record is its last write. -/
theorem Represents.storedVersion (hr : Represents codec supply vault h) {id : Uuid}
    {record : KeyValueRecord} (hget : vault.rows.records.get? id = some record)
    {content : Content codec} (hlookup : lookup h record.key = some content) :
    ∃ versionId, storedVersion vault.rows id record =
        some (versionId, ⟨id, record.currentVersion, .set content.stored⟩) ∧
      vault.objects (id, versionId) = some content.bytes := by
  obtain ⟨hpos, hversion, -⟩ := hr.record id record hget
  have hlast : (writes h record.key)[record.currentVersion - 1]? = some (some content) := by
    rw [hversion, version, ← List.getLast?_eq_getElem?]
    exact Option.join_eq_some_iff.1 hlookup
  obtain ⟨versionId, hrow, hobject⟩ := hr.stored id record hget _ _ hlast
  rw [Nat.sub_add_cancel hpos] at hrow
  refine ⟨versionId, ?_, hobject content rfl⟩
  cases hfind : KeyValueVaults.storedVersion vault.rows id record with
  | none =>
    have hfalse := Table.find?_none hfind hrow
    simp [operationOf, Operation.tombstone] at hfalse
  | some found =>
    obtain ⟨hfound, hmatch⟩ := Table.find?_some hfind
    simp only [Bool.and_eq_true, decide_eq_true_eq] at hmatch
    have hsame := hr.numbered found.1 versionId found.2 _ hfound hrow hmatch.1.1 hmatch.1.2
    rw [hsame, hrow, Option.some.injEq] at hfound
    rw [← hsame]
    exact congrArg some (Prod.ext rfl hfound.symm)

theorem Represents.summary (hr : Represents codec supply vault h) {id : Uuid}
    {record : KeyValueRecord} (hget : vault.rows.records.get? id = some record)
    {content : Content codec} (hlookup : lookup h record.key = some content) :
    keyValueRecordSummary codec vault (id, record) = .ok (summaryOf h record.key content) := by
  obtain ⟨versionId, hstored, hobject⟩ := hr.storedVersion hget hlookup
  obtain ⟨-, hversion, -⟩ := hr.record id record hget
  simp only [keyValueRecordSummary, hstored, readObject, hobject, Content.stored, bind_ok, demand_ok,
    require_ok, pure_ok]
  refine ⟨content.bytes, ⟨content.bytes, rfl, (), Nat.le_refl _, rfl⟩, (), ⟨rfl, rfl⟩,
    sorted content.value, content.readable, ?_⟩
  rw [summaryOf, hversion]

/-- A record is found under a key exactly when its last write is a set. -/
theorem Represents.live (hr : Represents codec supply vault h) (key : String) :
    (vault.rows.records.find? (fun _ record => record.key = key && !record.deleted) = none ∧
      lookup h key = none) ∨
    ∃ id record content, vault.rows.records.find? (fun _ record => record.key = key &&
        !record.deleted) = some (id, record) ∧ vault.rows.records.get? id = some record ∧
      record.key = key ∧ lookup h key = some content := by
  cases hfind : vault.rows.records.find? (fun _ record => record.key = key && !record.deleted) with
  | none =>
    refine .inl ⟨rfl, ?_⟩
    by_contra hsome
    have hwritten : writes h key ≠ [] := fun hempty => hsome (by rw [lookup, hempty]; rfl)
    obtain ⟨id, record, hget, rfl⟩ := hr.complete key hwritten
    obtain ⟨-, -, hdeleted⟩ := hr.record id record hget
    have hfalse := Table.find?_none hfind hget
    simp [hdeleted, hsome] at hfalse
  | some row =>
    obtain ⟨hget, hmatch⟩ := Table.find?_some hfind
    simp only [Bool.and_eq_true, decide_eq_true_eq, Bool.not_eq_true'] at hmatch
    obtain ⟨rfl, hlive⟩ := hmatch
    obtain ⟨-, -, hdeleted⟩ := hr.record row.1 row.2 hget
    rw [hlive] at hdeleted
    obtain ⟨content, hlookup⟩ := Option.isSome_iff_exists.1 (Option.isNone_eq_false_iff.1 hdeleted.symm)
    exact .inr ⟨row.1, row.2, content, rfl, hget, rfl, hlookup⟩

theorem Represents.read (hr : Represents codec supply vault h) (key : String) :
    readRecord codec vault key =
      match lookup h key with
      | some content => .ok (summaryOf h key content)
      | none => .error recordMissing := by
  unfold readRecord getKeyValueRecord
  rcases hr.live key with ⟨hfind, hlookup⟩ | ⟨id, record, content, hfind, hget, rfl, hlookup⟩
  · rw [hfind, hlookup]
    rfl
  · rw [hfind, hlookup]
    exact hr.summary hget hlookup

end Reads

section Listing
variable {codec : ValueCodec} {supply : Supply} {vault : Vault} {h : History String (Content codec)}
  {collation : LinearOrder String}

theorem keyLe_iff {a b : String} : keyLe collation a b = true ↔ collation.le a b :=
  @decide_eq_true_iff _ (collation.toDecidableLE a b)

instance keyLe_total {α : Type} (f : α → String) :
    Std.Total (fun a b => keyLe collation (f a) (f b) = true) where
  total a b := by
    simp only [keyLe_iff]
    exact collation.le_total (f a) (f b)

instance keyLe_trans {α : Type} (f : α → String) :
    IsTrans α (fun a b => keyLe collation (f a) (f b) = true) where
  trans a b c := by
    simp only [keyLe_iff]
    exact collation.le_trans (f a) (f b) (f c)

/-- The live keys that a listing asks for, in their order. -/
def listedKeys (collation : LinearOrder String) (page : Page) (h : History String (Content codec)) :
    List String :=
  ((liveKeys h).filter (page.lists collation)).insertionSort (fun a b => keyLe collation a b)

theorem Represents.live_iff (hr : Represents codec supply vault h) {id : Uuid}
    {record : KeyValueRecord} (hget : vault.rows.records.get? id = some record) :
    (!record.deleted) = (lookup h record.key).isSome := by
  obtain ⟨-, -, hdeleted⟩ := hr.record id record hget
  rw [hdeleted, Option.not_isNone]

theorem Represents.listed (hr : Represents codec supply vault h) (page : Page) :
    ((vault.rows.records.select (fun _ record => !record.deleted &&
      page.lists collation record.key)).insertionSort (fun a b =>
        keyLe collation a.2.key b.2.key)).map (fun row => row.2.key) =
      listedKeys collation page h := by
  -- two sorted lists with the same members, each once, are the same list
  refine List.Perm.eq_of_pairwise (fun a b _ _ hab hba => ?_)
    (List.pairwise_map.2 (List.pairwise_insertionSort _ _))
    (List.pairwise_insertionSort (fun a b => keyLe collation a b = true) _) ?_
  · exact collation.le_antisymm a b (keyLe_iff.1 hab) (keyLe_iff.1 hba)
  · refine ((List.perm_insertionSort _ _).map _).trans
      (List.Perm.trans ?_ (List.perm_insertionSort _ _).symm)
    rw [List.perm_ext_iff_of_nodup _ ((liveKeys_nodup h).filter _)]
    · intro key
      simp only [List.mem_map, List.mem_filter, mem_liveKeys]
      constructor
      · rintro ⟨row, hrow, rfl⟩
        obtain ⟨hget, hmatch⟩ := (Table.mem_select _ _ _ _).1 hrow
        rw [Bool.and_eq_true, hr.live_iff hget] at hmatch
        exact hmatch
      · rintro ⟨hlive, hlists⟩
        have hwritten : writes h key ≠ [] := fun hempty => by simp [lookup, hempty] at hlive
        obtain ⟨id, record, hget, rfl⟩ := hr.complete key hwritten
        refine ⟨(id, record), (Table.mem_select _ _ _ _).2 ⟨hget, ?_⟩, rfl⟩
        rw [Bool.and_eq_true, hr.live_iff hget]
        exact ⟨hlive, hlists⟩
    · refine List.Nodup.map_on (fun row hrow row' hrow' hkey => ?_)
        (List.Nodup.of_map Prod.fst (Table.select_keys_nodup _ _))
      have hget := ((Table.mem_select _ _ _ _).1 hrow).1
      have hget' := ((Table.mem_select _ _ _ _).1 hrow').1
      have hid := hr.unique _ _ _ _ hget hget' hkey
      rw [hid, hget', Option.some.injEq] at hget
      exact Prod.ext hid hget.symm

theorem Represents.summaries (hr : Represents codec supply vault h)
    (rows : List (Uuid × KeyValueRecord))
    (hrows : ∀ row ∈ rows, vault.rows.records.get? row.1 = some row.2 ∧ row.2.deleted = false) :
    rows.mapM (keyValueRecordSummary codec vault) =
      .ok ((rows.map (fun row => row.2.key)).filterMap (fun key =>
        (lookup h key).map (summaryOf h key))) := by
  induction rows with
  | nil => rfl
  | cons row rows ih =>
    obtain ⟨hget, hlive⟩ := hrows row List.mem_cons_self
    have hsome := hr.live_iff hget
    rw [hlive] at hsome
    obtain ⟨content, hlookup⟩ := Option.isSome_iff_exists.1 hsome.symm
    rw [List.mapM_cons, hr.summary hget hlookup, ih (fun row' h' => hrows row' (List.mem_cons_of_mem _ h')),
      List.map_cons, List.filterMap_cons, hlookup]
    rfl

theorem Represents.list (hr : Represents codec supply vault h) (page : Page) (limit : ℕ) :
    listRecords codec collation vault page limit =
      .ok (((listedKeys collation page h).take limit).filterMap (fun key =>
          (lookup h key).map (summaryOf h key)),
        decide (limit < (listedKeys collation page h).length)) := by
  obtain ⟨rows, hrows⟩ : ∃ rows, (vault.rows.records.select (fun _ record => !record.deleted &&
      page.lists collation record.key)).insertionSort (fun a b =>
        keyLe collation a.2.key b.2.key) = rows := ⟨_, rfl⟩
  have hlisted : rows.map (fun row => row.2.key) = listedKeys collation page h :=
    hrows ▸ hr.listed page
  have hlive : ∀ row ∈ rows.take limit,
      vault.rows.records.get? row.1 = some row.2 ∧ row.2.deleted = false := by
    intro row hrow
    obtain ⟨hget, hmatch⟩ := Table.mem_take_sorted (hrows ▸ hrow)
    rw [Bool.and_eq_true, Bool.not_eq_true'] at hmatch
    exact ⟨hget, hmatch.1⟩
  have hmore : ∀ n, limit < min (limit + 1) n ↔ limit < n := by omega
  unfold listRecords listKeyValueRecords
  rw [hrows]
  dsimp only
  rw [List.take_take, min_eq_left (Nat.le_succ limit), hr.summaries _ hlive, List.map_take, hlisted,
    List.length_take, ← hlisted, List.length_map]
  simp only [hmore]
  rfl

end Listing

section Receipts
variable {codec : ValueCodec} {supply : Supply} {vault : Vault}

/-- The receipt that the key was used for. -/
def receiptOf (vault : Vault) (idempotencyKey : String) : Option (Uuid × KeyValueMutationReceipt) :=
  vault.rows.receipts.find? (fun _ receipt => receipt.idempotencyKey = idempotencyKey)

theorem receiptOf_kept {key : String} {found : Uuid × KeyValueMutationReceipt}
    (h : receiptOf vault key = some found) (request : Request) :
    receiptOf (step codec supply vault request) key = some found := by
  unfold step
  rcases mutateRecord_cases codec supply vault request with ⟨e, hrun⟩ | ⟨v, -,
    ⟨e, -, hrun⟩ | ⟨receipt, -, hrun⟩ | ⟨rows, receipt, hmutate, hrun⟩⟩ <;> rw [hrun]
  · exact h
  · exact h
  · exact h
  · rcases mutate_cases hmutate with ⟨htrue, -⟩ | ⟨-, -, -, -, -, hinsert⟩
    · cases htrue
    · refine (Table.find?_insert hinsert _).trans ?_
      rw [receiptOf] at h
      rw [h, Option.some_or]

theorem receiptOf_accepted {request : Request} {receipt : KeyValueMutationReceipt} {replayed : Bool}
    (h : (mutateRecord codec supply vault request).2 = .ok (receipt, replayed)) :
    ∃ v id, validateKvMutation codec request.payload = .ok v ∧
      v.validation.operation.name = request.requiredOperation ∧
      receiptOf (step codec supply vault request) v.idempotencyKey = some (id, receipt) ∧
      receipt.requestDigest = v.requestDigest := by
  unfold step
  rcases mutateRecord_cases codec supply vault request with ⟨e, hrun⟩ | ⟨v, hvalid,
    ⟨e, -, hrun⟩ | ⟨receipt', hmutate, hrun⟩ | ⟨rows, receipt', hmutate, hrun⟩⟩ <;> rw [hrun] at h ⊢
  · cases h
  · cases h
  · obtain ⟨rfl, -⟩ := Prod.mk.inj (Except.ok.inj h)
    rcases mutate_cases hmutate with ⟨-, -, ⟨id, hfound⟩, hdigest⟩ | ⟨hfalse, -⟩
    · exact ⟨v, id, hvalid, mutate_operation hmutate, hfound, hdigest⟩
    · cases hfalse
  · obtain ⟨rfl, -⟩ := Prod.mk.inj (Except.ok.inj h)
    rcases mutate_cases hmutate with ⟨htrue, -⟩ | ⟨-, hnone, hissued, -, -, hinsert⟩
    · cases htrue
    · refine ⟨v, supply.draw (vault.drawn + 2), hvalid, mutate_operation hmutate, ?_, hissued ▸ rfl⟩
      have hkey : receipt'.idempotencyKey = v.idempotencyKey := hissued ▸ rfl
      have hold : receiptOf vault v.idempotencyKey = none := hnone
      rw [receiptOf] at hold ⊢
      refine (Table.find?_insert hinsert _).trans ?_
      rw [hold, Option.none_or, if_pos (decide_eq_true hkey)]
      rfl

variable {requests middle : List Request} {request : Request} {receipt : KeyValueMutationReceipt}
  {replayed : Bool}

theorem after_append (requests middle : List Request) :
    after codec supply (requests ++ middle) =
      exec (step codec supply) (after codec supply requests) middle :=
  exec_append (step codec supply) newVault requests middle

theorem receipt_stays
    (h : (mutateRecord codec supply (after codec supply requests) request).2 = .ok (receipt, replayed))
    (middle : List Request) :
    ∃ v id, validateKvMutation codec request.payload = .ok v ∧
      v.validation.operation.name = request.requiredOperation ∧
      receiptOf (after codec supply (requests ++ [request] ++ middle)) v.idempotencyKey =
        some (id, receipt) ∧ receipt.requestDigest = v.requestDigest := by
  obtain ⟨v, id, hvalid, hname, hfound, hdigest⟩ := receiptOf_accepted h
  refine ⟨v, id, hvalid, hname, ?_, hdigest⟩
  rw [after_append, after_append]
  exact exec_invariant (step codec supply)
    (P := fun vault => receiptOf vault v.idempotencyKey = some (id, receipt))
    (fun _ request h => receiptOf_kept h request) middle _ hfound

/-- With the key of a receipt, a request of the same body is answered with it, and one of another
body is refused. Nothing is changed either way. -/
theorem reused_key {vault : Vault} {v : ValidatedRequest codec} {id : Uuid} {request' : Request}
    (hvalid : validateKvMutation codec request'.payload = .ok v)
    (hfound : receiptOf vault v.idempotencyKey = some (id, receipt)) :
    (v.validation.operation.name = request'.requiredOperation →
      receipt.requestDigest = v.requestDigest →
      mutateRecord codec supply vault request' = (vault, .ok (receipt, true))) ∧
    (receipt.requestDigest ≠ v.requestDigest →
      ∃ e, mutateRecord codec supply vault request' = (vault, .error e)) := by
  have hreceipt : findReceipt (mutationOf codec supply vault request' v) vault.rows.receipts =
      some (id, receipt) := hfound
  constructor
  · intro hname hdigest
    have hmutate : mutateKeyValueRecord vault.rows (mutationOf codec supply vault request' v) =
        .ok (vault.rows, receipt, true) := by
      simp only [mutateKeyValueRecord, hreceipt, bind_ok, require_ok, pure_ok]
      exact ⟨(), hname, (), hdigest, trivial⟩
    simp only [mutateRecord, hvalid, hmutate]
  · intro hdigest
    have hup : uploads vault.rows (mutationOf codec supply vault request' v) = false := by
      simp [uploads, hreceipt]
    cases hmutate : mutateKeyValueRecord vault.rows (mutationOf codec supply vault request' v) with
    | error e => exact ⟨e, by simp only [mutateRecord, hvalid, hmutate, hup, Bool.false_eq_true, if_false]⟩
    | ok result =>
      rcases mutate_cases hmutate with ⟨-, -, ⟨id', hfound'⟩, hdigest'⟩ | ⟨-, hnone, -⟩
      · rw [hreceipt, Option.some.injEq] at hfound'
        rw [← (Prod.mk.inj hfound').2] at hdigest'
        exact absurd hdigest' hdigest
      · rw [hreceipt] at hnone
        cases hnone

end Receipts
section Results
variable {codec : ValueCodec} {supply : Supply} {vault : Vault} {h : History String (Content codec)}

def recordOf (vault : Vault) (key : String) : Option (Uuid × KeyValueRecord) :=
  vault.rows.records.find? (fun _ record => record.key = key)

theorem enforceExpectedVersion_iff (hr : Represents codec supply vault h)
    (v : ValidatedRequest codec) :
    enforceExpectedVersion v.validation ((recordOf vault v.key).map Prod.snd) = .ok () ↔
      v.expectedVersion = none ∨ (v.expectedVersion = some 0 ∧ recordOf vault v.key = none) ∨
        ∃ id record, recordOf vault v.key = some (id, record) ∧
          v.expectedVersion = some record.currentVersion := by
  have hexpected : v.validation.expectedVersion = v.expectedVersion := rfl
  unfold enforceExpectedVersion
  rw [hexpected]
  rcases v.expectedVersion with _ | _ | n
  · exact iff_of_true rfl (.inl rfl)
  · cases hfind : recordOf vault v.key with
    | none => exact iff_of_true rfl (.inr (.inl ⟨rfl, rfl⟩))
    | some row =>
      obtain ⟨id, record⟩ := row
      obtain ⟨hpos, -⟩ := hr.record id record (Table.find?_some hfind).1
      refine iff_of_false (by simp) ?_
      rintro (hnone | ⟨-, hnone⟩ | ⟨id', record', hrow, hzero⟩)
      · cases hnone
      · cases hnone
      · obtain ⟨rfl, rfl⟩ := Prod.mk.inj (Option.some.inj hrow)
        have hzero := Option.some.inj hzero
        omega
  · cases hfind : recordOf vault v.key with
    | none => exact iff_of_false (by simp) (by simp)
    | some row =>
      obtain ⟨id, record⟩ := row
      refine Iff.trans require_ok ⟨fun hversion => ?_, ?_⟩
      · exact .inr (.inr ⟨id, record, rfl, hversion.symm⟩)
      · rintro (hnone | ⟨hzero, -⟩ | ⟨id', record', hrow, hversion⟩)
        · cases hnone
        · cases hzero
        · obtain ⟨rfl, rfl⟩ := Prod.mk.inj (Option.some.inj hrow)
          exact hversion.symm

theorem Represents.versions_iff (hr : Represents codec supply vault h) {id : Uuid}
    {record : KeyValueRecord} (hget : vault.rows.records.get? id = some record) (n : ℕ) :
    (∃ versionId row, vault.rows.versions.get? versionId = some row ∧ row.recordId = id ∧
      row.version = n) ↔ 1 ≤ n ∧ n ≤ record.currentVersion := by
  constructor
  · rintro ⟨versionId, row, hrow, rfl, rfl⟩
    obtain ⟨record', hget', hpos, hle⟩ := hr.owned versionId row hrow
    obtain rfl := Option.some.inj (hget.symm.trans hget')
    exact ⟨hpos, hle⟩
  · rintro ⟨hpos, hle⟩
    obtain ⟨-, hversion, -⟩ := hr.record id record hget
    have hlt : n - 1 < (writes h record.key).length := by
      rw [← version, ← hversion]
      omega
    obtain ⟨versionId, hrow, -⟩ := hr.stored id record hget (n - 1) _ (List.getElem?_eq_getElem hlt)
    exact ⟨versionId, _, hrow, rfl, Nat.sub_add_cancel hpos⟩

end Results

/-- A codec for one request, which sets a key to two bytes. -/
def sampleBytes : Json → Option (List UInt8)
  | .object [("schema_version", .text "rdc.kv-write/v1"), ("idempotency_key", .text "first"),
      ("operation", .text "set"), ("key", .text "greeting"), ("expected_version", .null),
      ("content_type", .text "application/octet-stream"), ("encoding", .text "base64"),
      ("value", .text "aGk=")] => some [1]
  | _ => none

theorem sampleBytes_same {value value' : Json} {bytes bytes' : List UInt8}
    (h : sampleBytes value = some bytes) (h' : sampleBytes value' = some bytes') : value = value' := by
  unfold sampleBytes at h h'
  split at h
  · split at h'
    · rfl
    · cases h'
  · cases h

def sampleRequest : Json :=
  .object [("schema_version", .text "rdc.kv-write/v1"), ("idempotency_key", .text "first"),
    ("operation", .text "set"), ("key", .text "greeting"), ("expected_version", .null),
    ("content_type", .text "application/octet-stream"), ("encoding", .text "base64"),
    ("value", .text "aGk=")]

theorem sampleBytes_request : sampleBytes sampleRequest = some [1] := rfl

def sampleCodec : ValueCodec where
  canonicalJsonBytes := sampleBytes
  sha256 := fun bytes => toString bytes.length
  parseJson := fun _ => some (sorted sampleRequest)
  encodeUtf8 := fun _ => none
  decodeUtf8 := fun _ => none
  b64decode := fun text => if text = "aGk=" then some [104, 105] else none
  b64encode := fun bytes => if bytes = [104, 105] then "aGk=" else ""
  parse_canonical := fun _ _ h => congrArg (fun v => some (sorted v))
    (sampleBytes_same sampleBytes_request h)
  decode_encode := nofun
  digest_eq := fun _ _ _ _ h h' _ => congrArg sorted (sampleBytes_same h h')

example : ((readRecord sampleCodec (after sampleCodec ⟨id, Function.injective_id⟩
    [⟨sampleRequest, "set", none, false⟩]) "greeting").toOption.map (·.version)) = some 1 := by
  decide +kernel

end RoozDataCloud.KeyValueRefinement
