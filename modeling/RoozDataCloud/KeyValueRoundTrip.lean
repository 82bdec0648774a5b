import RoozDataCloud.DocumentMembers
import RoozDataCloud.KeyValueReads
import RoozDataCloud.KeyValueRefinement

set_option autoImplicit false

/-!
# What was written is what the worker reads

Every value that the protocol of mutations accepts passes the checks of the worker
again, after the storage, the read of the API and the transport, with the same bytes.
-/
namespace RoozDataCloud.KeyValueRoundTrip
open KeyedTable ExecutionModels FallibleSteps JsonDocuments DocumentMembers
open KeyValueStores KeyValueProtocol KeyValueVaults KeyValueReads KeyValueRefinement VersionedMap
open WorkerEgress WebFetchContract
open EgressBroker (assign)
open Datasets (Json)

section Depth

-- Depth and finiteness, which all walks over a value check.
mutual

def fits (depth : ℕ) : Json → Bool
  | .float finite _ => decide (depth ≤ 32) && finite
  | .list items => decide (depth ≤ 32) && fitsItems (depth + 1) items
  | .object members => decide (depth ≤ 32) && fitsMembers (depth + 1) members
  | _ => decide (depth ≤ 32)

def fitsItems (depth : ℕ) : List Json → Bool
  | [] => true
  | item :: items => fits depth item && fitsItems depth items

def fitsMembers (depth : ℕ) : Members → Bool
  | [] => true
  | (_, value) :: members => fits depth value && fitsMembers depth members

end

theorem fitsItems_iff {depth : ℕ} {items : List Json} :
    fitsItems depth items = true ↔ ∀ item ∈ items, fits depth item = true := by
  induction items with
  | nil => simp [fitsItems]
  | cons item items ih => simp [fitsItems, ih]

theorem fitsMembers_iff {depth : ℕ} {members : Members} :
    fitsMembers depth members = true ↔ ∀ entry ∈ members, fits depth entry.2 = true := by
  induction members with
  | nil => simp [fitsMembers]
  | cons entry members ih => simp [fitsMembers, ih]

mutual

theorem jsonChecked_ok (tooDeep notFinite : Raised) (depth : ℕ) : (value : Json) →
    (jsonChecked tooDeep notFinite depth value = .ok () ↔ fits depth value = true)
  | .null | .bool _ | .int _ | .text _ => by simp [jsonChecked, fits, require_ok]
  | .float _ _ => by simp [jsonChecked, fits, bind_ok, require_ok]
  | .list items => by
    simp [jsonChecked, fits, bind_ok, require_ok, jsonCheckedItems_ok tooDeep notFinite (depth + 1) items]
  | .object members => by
    simp [jsonChecked, fits, bind_ok, require_ok,
      jsonCheckedMembers_ok tooDeep notFinite (depth + 1) members]

theorem jsonCheckedItems_ok (tooDeep notFinite : Raised) (depth : ℕ) : (items : List Json) →
    (jsonCheckedItems tooDeep notFinite depth items = .ok () ↔ fitsItems depth items = true)
  | [] => by simp [jsonCheckedItems, fitsItems, pure_ok]
  | item :: items => by
    simp [jsonCheckedItems, fitsItems, bind_ok, jsonChecked_ok tooDeep notFinite depth item,
      jsonCheckedItems_ok tooDeep notFinite depth items]

theorem jsonCheckedMembers_ok (tooDeep notFinite : Raised) (depth : ℕ) : (members : Members) →
    (jsonCheckedMembers tooDeep notFinite depth members = .ok () ↔ fitsMembers depth members = true)
  | [] => by simp [jsonCheckedMembers, fitsMembers, pure_ok]
  | (_, value) :: members => by
    simp [jsonCheckedMembers, fitsMembers, bind_ok, jsonChecked_ok tooDeep notFinite depth value,
      jsonCheckedMembers_ok tooDeep notFinite depth members]

end

mutual

theorem validateJsonValue_fits (depth : ℕ) : (value : Json) →
    (KeyValueProtocol.validateJsonValue depth value = .ok () ↔ fits depth value = true)
  | .null | .bool _ | .int _ | .text _ => by
    simp [KeyValueProtocol.validateJsonValue, fits, require_ok]
  | .float _ _ => by simp [KeyValueProtocol.validateJsonValue, fits, bind_ok, require_ok]
  | .list items => by
    simp [KeyValueProtocol.validateJsonValue, fits, bind_ok, require_ok,
      validateJsonItems_fits (depth + 1) items]
  | .object members => by
    simp [KeyValueProtocol.validateJsonValue, fits, bind_ok, require_ok,
      validateJsonMembers_fits (depth + 1) members]

theorem validateJsonItems_fits (depth : ℕ) : (items : List Json) →
    (validateJsonItems depth items = .ok () ↔ fitsItems depth items = true)
  | [] => by simp [validateJsonItems, fitsItems, pure_ok]
  | item :: items => by
    simp [validateJsonItems, fitsItems, bind_ok, validateJsonValue_fits depth item,
      validateJsonItems_fits depth items]

theorem validateJsonMembers_fits (depth : ℕ) : (members : Members) →
    (validateJsonMembers depth members = .ok () ↔ fitsMembers depth members = true)
  | [] => by simp [validateJsonMembers, fitsMembers, pure_ok]
  | (_, value) :: members => by
    simp [validateJsonMembers, fitsMembers, bind_ok, validateJsonValue_fits depth value,
      validateJsonMembers_fits depth members]

end

mutual

theorem fits_sorted (depth : ℕ) : (value : Json) → fits depth (sorted value) = fits depth value
  | .null | .bool _ | .int _ | .float _ _ | .text _ => rfl
  | .list items => by rw [sorted, fits, fits, fits_sortedItems (depth + 1) items]
  | .object members => by
    rw [sorted, fits, fits, ← fits_sortedMembers (depth + 1) members]
    congr 1
    rw [Bool.eq_iff_iff, fitsMembers_iff, fitsMembers_iff]
    simp only [(List.perm_insertionSort _ _).mem_iff]

theorem fits_sortedItems (depth : ℕ) : (items : List Json) →
    fitsItems depth (sortedItems items) = fitsItems depth items
  | [] => rfl
  | item :: items => by
    rw [sortedItems, fitsItems, fitsItems, fits_sorted depth item, fits_sortedItems depth items]

theorem fits_sortedMembers (depth : ℕ) : (members : Members) →
    fitsMembers depth (sortedMembers members) = fitsMembers depth members
  | [] => rfl
  | (key, value) :: members => by
    rw [sortedMembers, fitsMembers, fitsMembers, fits_sorted depth value,
      fits_sortedMembers depth members]

end
end Depth

section Contents
variable {codec : ValueCodec}

/-- What the protocol of mutations has checked of a content. -/
inductive Checked (codec : ValueCodec) : (contentType encoding : String) → Json → List UInt8 → Prop
  | json {value : Json} {bytes : List UInt8} : fits 0 value = true →
      codec.canonicalJsonBytes value = some bytes → Checked codec "application/json" "json" value bytes
  | utf8 {text : String} {bytes : List UInt8} : codec.encodeUtf8 text = some bytes →
      Checked codec "text/plain; charset=utf-8" "utf8" (.text text) bytes
  | base64 {text : String} {bytes : List UInt8} : codec.b64decode text = some bytes →
      text = codec.b64encode bytes →
      Checked codec "application/octet-stream" "base64" (.text text) bytes

def Accepted (content : Content codec) : Prop :=
  Checked codec content.contentType content.encoding content.value content.bytes ∧
    content.bytes.length ≤ maxValueBytes

theorem contentEncodings_cases {contentType encoding : String}
    (h : contentEncodings.lookup contentType = some encoding) :
    (contentType = "application/json" ∧ encoding = "json") ∨
      (contentType = "text/plain; charset=utf-8" ∧ encoding = "utf8") ∨
      (contentType = "application/octet-stream" ∧ encoding = "base64") := by
  have hmem := mem_of_lookup h
  simpa [contentEncodings] using hmem

theorem jsonContent_checked {contentType : String} {value : Json} {content : Content codec}
    (h : jsonContent codec contentType value = .ok content) :
    content.contentType = contentType ∧ content.encoding = "json" ∧ content.value = value ∧
      fits 0 content.value = true ∧ codec.canonicalJsonBytes content.value = some content.bytes := by
  unfold jsonContent at h
  split at h
  · next bytes hbytes =>
    simp only [bind_ok, pure_ok] at h
    obtain ⟨_, hvalid, rfl⟩ := h
    exact ⟨rfl, rfl, rfl, (validateJsonValue_fits 0 value).1 hvalid, hbytes⟩
  · simp only [bind_ok, reduceCtorEq, and_false, exists_false] at h

theorem utf8Content_checked {contentType : String} {value : Json} {content : Content codec}
    (h : utf8Content codec contentType value = .ok content) :
    content.contentType = contentType ∧ content.encoding = "utf8" ∧
      ∃ text, content.value = .text text ∧ codec.encodeUtf8 text = some content.bytes := by
  unfold utf8Content at h
  split at h
  · next text =>
    split at h
    · next bytes hbytes =>
      obtain rfl := Except.ok.inj h
      exact ⟨rfl, rfl, text, rfl, hbytes⟩
    · cases h
  · cases h

theorem base64Content_checked {contentType : String} {value : Json} {content : Content codec}
    (h : base64Content codec contentType value = .ok content) :
    content.contentType = contentType ∧ content.encoding = "base64" ∧
      ∃ text, content.value = .text text ∧ codec.b64decode text = some content.bytes ∧
        text = codec.b64encode content.bytes := by
  unfold base64Content at h
  split at h
  · next text =>
    split at h
    · next bytes hbytes =>
      split_ifs at h with htext
      obtain rfl := Except.ok.inj h
      exact ⟨rfl, rfl, text, rfl, hbytes, htext⟩
    · cases h
  · cases h

theorem decodedSetValue_accepted {contentType encoding value : Option Json} {content : Content codec}
    (h : decodedSetValue codec contentType encoding value = .ok content) : Accepted content := by
  simp only [decodedSetValue, bind_ok, demand_ok, Option.filter_eq_some_iff, decide_eq_true_eq] at h
  obtain ⟨name, -, label, ⟨-, hlabel⟩, h⟩ := h
  rcases contentEncodings_cases hlabel with ⟨rfl, rfl⟩ | ⟨rfl, rfl⟩ | ⟨rfl, rfl⟩
  · simp only [↓reduceIte, bind_ok, require_ok, pure_ok, exists_const] at h
    obtain ⟨_, hcontent, hsize, rfl⟩ := h
    obtain ⟨htype, hencoding, -, hfits, hbytes⟩ := jsonContent_checked hcontent
    rw [Accepted, htype, hencoding]
    exact ⟨.json hfits hbytes, hsize⟩
  · simp only [String.reduceEq, ↓reduceIte, bind_ok, require_ok, pure_ok, exists_const] at h
    obtain ⟨_, hcontent, hsize, rfl⟩ := h
    obtain ⟨htype, hencoding, text, hvalue, hbytes⟩ := utf8Content_checked hcontent
    rw [Accepted, htype, hencoding, hvalue]
    exact ⟨.utf8 hbytes, hsize⟩
  · simp only [String.reduceEq, ↓reduceIte, bind_ok, require_ok, pure_ok, exists_const] at h
    obtain ⟨_, hcontent, hsize, rfl⟩ := h
    obtain ⟨htype, hencoding, text, hvalue, hbytes, htext⟩ := base64Content_checked hcontent
    rw [Accepted, htype, hencoding, hvalue]
    exact ⟨.base64 hbytes htext, hsize⟩

theorem validateKvMutation_accepted {payload : Json} {v : ValidatedRequest codec}
    (h : validateKvMutation codec payload = .ok v) : ∀ content, v.content = some content →
      Accepted content := by
  have hmembers : ∀ members set, validateMembers codec members set = .ok v →
      ∀ content, v.content = some content → Accepted content := by
    intro members set hvalid content hcontent
    simp only [validateMembers, bind_ok, demand_ok, pure_ok] at hvalid
    obtain ⟨-, -, -, -, _, -, _, -, _, -, found, hfound, _, -, -, -, rfl⟩ := hvalid
    cases set with
    | false =>
      obtain rfl := Except.ok.inj hfound
      cases hcontent
    | true =>
      simp only [requestContent, bind_ok, pure_ok] at hfound
      obtain ⟨decoded, hdecoded, rfl⟩ := hfound
      obtain rfl := Option.some.inj hcontent
      exact decodedSetValue_accepted hdecoded
  cases payload with
  | object members =>
    simp only [validateKvMutation] at h
    split at h
    · exact hmembers members true h
    · exact hmembers members false h
    · cases h
  | _ => cases h

theorem accepted_contents (supply : Supply) (vault : Vault) (requests : List Request) :
    ∀ write ∈ accepted codec supply vault requests, ∀ content, write.value = some content →
      Accepted content := by
  induction requests generalizing vault with
  | nil => nofun
  | cons request requests ih =>
    intro write hwrite content hcontent
    rw [accepted, List.mem_append] at hwrite
    rcases hwrite with hfirst | hrest
    · unfold acceptedWrite at hfirst
      split at hfirst
      · next v _ hvalid _ =>
        obtain rfl := List.mem_singleton.1 hfirst
        exact validateKvMutation_accepted hvalid content hcontent
      · cases hfirst
    · exact ih _ write hrest content hcontent

theorem lookup_accepted {supply : Supply} {requests : List Request} {key : String}
    {content : Content codec} (h : lookup (accepted codec supply newVault requests) key = some content) :
    Accepted content := by
  obtain ⟨before, later, hhistory, -⟩ := lookup_eq_some_iff.1 h
  refine accepted_contents supply newVault requests ⟨key, some content⟩ ?_ content rfl
  rw [hhistory]
  exact List.mem_append_right _ List.mem_cons_self

end Contents

section Api
variable {codec : ValueCodec} {supply : Supply} {vault : Vault} {h : History String (Content codec)}

/-- The record of a key, as the API should send it. -/
def sentRecord (h : History String (Content codec)) (key : String) : Json :=
  match lookup h key with
  | some content => foundRecord key (version h key) content.stored (sorted content.value)
  | none => missingRecord key

/-- The size of the value of a key. -/
def valueSize (h : History String (Content codec)) (key : String) : ℕ :=
  (lookup h key).elim 0 (fun content => content.bytes.length)

theorem readOne_sent (hr : Represents codec supply vault h)
    (haccepted : ∀ key content, lookup h key = some content → Accepted content) {total : ℕ}
    {key : String} (hsize : total + valueSize h key ≤ maxWorkerReadTotalBytes) :
    readOne codec vault total key = .ok (total + valueSize h key, sentRecord h key) := by
  unfold readOne sentRecord valueSize
  rcases hr.live key with ⟨hfind, hlookup⟩ | ⟨id, record, content, hfind, hget, rfl, hlookup⟩
  · rw [hfind, hlookup]
    rfl
  · obtain ⟨versionId, hstored, hobject⟩ := hr.storedVersion hget hlookup
    obtain ⟨-, hversion, -⟩ := hr.record id record hget
    have hlength := (haccepted _ content hlookup).2
    rw [valueSize, hlookup, Option.elim_some] at hsize
    simp only [hfind, hstored, hlookup, readObject, hobject, Content.stored, bind_ok, demand_ok,
      require_ok, pure_ok, Option.elim_some]
    refine ⟨(), hlength, (), hsize, content.bytes, ⟨content.bytes, rfl, (), hlength, rfl⟩, (),
      ⟨rfl, rfl⟩, sorted content.value, content.readable, ?_⟩
    rw [hversion]

theorem readAll_sent (hr : Represents codec supply vault h)
    (haccepted : ∀ key content, lookup h key = some content → Accepted content) {total : ℕ}
    {keys : List String} (hsize : total + (keys.map (valueSize h)).sum ≤ maxWorkerReadTotalBytes) :
    readAll codec vault total keys = .ok (keys.map (sentRecord h)) := by
  induction keys generalizing total with
  | nil => rfl
  | cons key keys ih =>
    rw [List.map_cons, List.sum_cons, ← Nat.add_assoc] at hsize
    simp only [readAll, bind_ok, pure_ok, Prod.exists]
    exact ⟨_, _, readOne_sent hr haccepted (by omega), _, ih hsize, rfl⟩

end Api

section Worker
variable {codec : ReadCodec}

theorem readValueBytes_checked {contentType encoding : String} {value received : Json}
    {bytes : List UInt8} (h : Checked codec.toValueCodec contentType encoding value bytes)
    (hreceived : sorted received = sorted value) :
    readValueBytes codec (.text contentType) (.text encoding) received = .ok (received, bytes) := by
  unfold readValueBytes
  cases h with
  | json hfits hbytes =>
    have hvalid : KeyValueReads.validateJsonValue received = .ok () := by
      rw [KeyValueReads.validateJsonValue, jsonChecked_ok, ← fits_sorted, hreceived, fits_sorted]
      exact hfits
    simp only [and_self, ↓reduceIte, bind_ok, demand_ok, pure_ok]
    exact ⟨(), hvalid, bytes, by rw [codec.canonical_sorted _ _ hreceived, hbytes], rfl⟩
  | utf8 hbytes =>
    obtain rfl := received_leaf rfl hreceived
    simp only [Json.text.injEq, String.reduceEq, and_self, ↓reduceIte, bind_ok, demand_ok, pure_ok]
    exact ⟨_, rfl, bytes, hbytes, rfl⟩
  | base64 hbytes htext =>
    obtain rfl := received_leaf rfl hreceived
    simp only [Json.text.injEq, String.reduceEq, and_self, ↓reduceIte, bind_ok, demand_ok, require_ok,
      pure_ok, exists_const]
    exact ⟨_, rfl, bytes, hbytes, htext.symm, by rw [← htext]⟩

theorem assign_kept {members : Members} {key : String} {value : Json}
    (hkeys : (DocumentMembers.keys members).Nodup) (hkey : key ∈ DocumentMembers.keys members)
    (h : member members key = value) : assign members key value = members := by
  obtain ⟨found, hfound⟩ := mem_of_key hkey
  have hany : members.any (fun entry => entry.1 = key) = true :=
    List.any_eq_true.2 ⟨(key, found), hfound, by simp⟩
  rw [assign, if_pos hany]
  have hsame : ∀ entry ∈ members, (if entry.1 = key then (key, value) else entry) = entry := by
    rintro ⟨other, content⟩ hentry
    split_ifs with heq
    · obtain rfl : other = key := heq
      rw [member_of_mem hkeys hentry] at h
      rw [h]
    · rfl
  rw [List.map_congr_left hsame, List.map_id']

/-- What the worker gets for a key: the metadata of its last write, and a value of the same bytes. -/
def Obtained (codec : ReadCodec) (h : History String (Content codec.toValueCodec)) (key : String)
    (record : Json) : Prop :=
  ∃ members, record = .object members ∧ member members "key" = .text key ∧
    match lookup h key with
    | none => member members "found" = .bool false
    | some content => member members "found" = .bool true ∧
        member members "version" = .int (version h key) ∧
        member members "value_sha256" = .text (codec.sha256 content.bytes) ∧
        member members "size_bytes" = .int content.bytes.length ∧
        readValueBytes codec (member members "content_type") (member members "encoding")
          (member members "value") = .ok (member members "value", content.bytes)

theorem version_pos {α : Type} {h : History String α} {key : String} {value : α}
    (hlookup : lookup h key = some value) : 1 ≤ version h key := by
  rw [version, Nat.one_le_iff_ne_zero, ne_eq, List.length_eq_zero_iff]
  intro hempty
  rw [lookup, hempty] at hlookup
  cases hlookup

theorem intFrom_int {low n : ℤ} (h : low ≤ n) : intFrom low (.int n) = some n := by
  simp [intFrom, int?, Option.filter, h]

theorem recordFields_nodup : recordFields.Nodup := by decide

theorem checkOne_missing {total : ℕ} {key : String} {members : Members}
    (hkeys : (DocumentMembers.keys members).Perm recordFields)
    (hkey : member members "key" = .text key) (hfound : member members "found" = .bool false)
    (hnull : ∀ field ∈ valueFields, member members field = .null) :
    checkOne codec total key (.object members) = .ok (total, .object members) := by
  have hfields : hasExactly members recordFields = true :=
    hasExactly_iff.2 (fun field => hkeys.mem_iff)
  simp only [checkOne, bind_ok, demand_ok, require_ok, object?, Option.some.injEq, exists_const]
  refine ⟨members, rfl, ⟨hfields, hkey⟩, false, by rw [hfound]; rfl, ?_⟩
  simp only [Bool.false_eq_true, ↓reduceIte, bind_ok, require_ok, pure_ok, exists_const]
  exact ⟨hnull, trivial⟩

theorem checkOne_found {total : ℕ} {key : String} {members : Members} {bytes : List UInt8} {n : ℕ}
    (hkeys : (DocumentMembers.keys members).Perm recordFields)
    (hkey : member members "key" = .text key) (hfound : member members "found" = .bool true)
    (hversion : member members "version" = .int n) (hn : 1 ≤ n)
    (hdigest : member members "value_sha256" = .text (codec.sha256 bytes))
    (hlength : member members "size_bytes" = .int bytes.length) (hmax : bytes.length ≤ maxValueBytes)
    (hvalue : readValueBytes codec (member members "content_type") (member members "encoding")
      (member members "value") = .ok (member members "value", bytes))
    (hsize : total + bytes.length ≤ maxWorkerReadTotalBytes) :
    checkOne codec total key (.object members) = .ok (total + bytes.length, .object members) := by
  have hfields : hasExactly members recordFields = true :=
    hasExactly_iff.2 (fun field => hkeys.mem_iff)
  have hnodup : (DocumentMembers.keys members).Nodup := hkeys.nodup_iff.2 recordFields_nodup
  have hassign : assign members "value" (member members "value") = members :=
    assign_kept hnodup (hkeys.mem_iff.2 (by decide)) rfl
  simp only [checkOne, bind_ok, demand_ok, require_ok, object?, Option.some.injEq, exists_const]
  refine ⟨members, rfl, ⟨hfields, hkey⟩, true, by rw [hfound]; rfl, ?_⟩
  simp only [↓reduceIte, checkFound, bind_ok, demand_ok, require_ok, pure_ok, exists_const,
    Prod.exists, Prod.mk.injEq, Option.filter_eq_some_iff]
  refine ⟨n, by rw [hversion, intFrom_int (by omega)], codec.sha256 bytes,
    ⟨by rw [hdigest]; rfl, codec.digest_shaped bytes⟩, bytes.length,
    ⟨by rw [hlength, intFrom_int (by omega)], decide_eq_true (by omega)⟩, _, bytes, hvalue, rfl, rfl,
    hsize, rfl, by rw [hassign]⟩

theorem checkOne_sent {h : History String (Content codec.toValueCodec)}
    (haccepted : ∀ key content, lookup h key = some content → Accepted content)
    {total : ℕ} {key : String} (hsize : total + valueSize h key ≤ maxWorkerReadTotalBytes)
    {received : Json} (hreceived : sorted received = sorted (sentRecord h key)) :
    checkOne codec total key received = .ok (total + valueSize h key, received) ∧
      Obtained codec h key received := by
  unfold sentRecord at hreceived
  unfold valueSize at hsize ⊢
  unfold Obtained
  cases hlookup : lookup h key with
  | none =>
    rw [hlookup] at hreceived
    obtain ⟨members, rfl, hkeys, hmembers⟩ := received_object hreceived recordFields_nodup
    have hkey := received_leaf (by rfl) (hmembers "key")
    have hfound := received_leaf (by rfl) (hmembers "found")
    have hnull : ∀ field ∈ valueFields, member members field = .null := by
      simp only [valueFields, List.forall_mem_cons]
      exact ⟨received_leaf (by rfl) (hmembers "version"),
        received_leaf (by rfl) (hmembers "content_type"),
        received_leaf (by rfl) (hmembers "encoding"),
        received_leaf (by rfl) (hmembers "value_sha256"),
        received_leaf (by rfl) (hmembers "size_bytes"),
        received_leaf (by rfl) (hmembers "value"), nofun⟩
    exact ⟨checkOne_missing hkeys hkey hfound hnull, members, rfl, hkey, hfound⟩
  | some content =>
    rw [hlookup] at hreceived hsize
    obtain ⟨members, rfl, hkeys, hmembers⟩ := received_object hreceived recordFields_nodup
    have hkey := received_leaf (by rfl) (hmembers "key")
    have hfound := received_leaf (by rfl) (hmembers "found")
    have hversion := received_leaf (by rfl) (hmembers "version")
    have hdigest := received_leaf (by rfl) (hmembers "value_sha256")
    have hlength := received_leaf (by rfl) (hmembers "size_bytes")
    obtain ⟨hchecked, hmax⟩ := haccepted key content hlookup
    have hvalue : readValueBytes codec (member members "content_type") (member members "encoding")
        (member members "value") = .ok (member members "value", content.bytes) := by
      rw [received_leaf (by rfl) (hmembers "content_type"),
        received_leaf (by rfl) (hmembers "encoding")]
      exact readValueBytes_checked hchecked ((hmembers "value").trans (sorted_sorted content.value))
    exact ⟨checkOne_found hkeys hkey hfound hversion (version_pos hlookup) hdigest hlength hmax hvalue
      hsize, members, rfl, hkey, hfound, hversion, hdigest, hlength, hvalue⟩

theorem checkAll_sent {h : History String (Content codec.toValueCodec)}
    (haccepted : ∀ key content, lookup h key = some content → Accepted content)
    {total : ℕ} {keys : List String} {items : List Json}
    (hsize : total + (keys.map (valueSize h)).sum ≤ maxWorkerReadTotalBytes)
    (hitems : items.map sorted = (keys.map (sentRecord h)).map sorted) :
    checkAll codec total (keys.zip items) = .ok items ∧
      List.Forall₂ (Obtained codec h) keys items := by
  induction keys generalizing total items with
  | nil =>
    obtain rfl := List.map_eq_nil_iff.1 hitems
    exact ⟨rfl, .nil⟩
  | cons key keys ih =>
    cases items with
    | nil => cases hitems
    | cons item items =>
      rw [List.map_cons, List.sum_cons, ← Nat.add_assoc] at hsize
      obtain ⟨hitem, hrest⟩ := List.cons.inj hitems
      have hfirst : total + valueSize h key ≤ maxWorkerReadTotalBytes := by omega
      obtain ⟨hone, hobtained⟩ := checkOne_sent haccepted hfirst hitem
      obtain ⟨hall, hothers⟩ := ih hsize hrest
      simp only [List.zip_cons_cons, checkAll, bind_ok, pure_ok, Prod.exists]
      exact ⟨⟨_, _, hone, _, hall, rfl⟩, .cons hobtained hothers⟩

end Worker

section Samples

/-- The canonical encoding of one mutation and one read. -/
def sampleEncoding (value : Json) : Option (List UInt8) :=
  if sorted value = sorted sampleRequest then some [1]
  else if sorted value = sorted (readRequest ["greeting"]) then some [2]
  else none

def sampleParse (bytes : List UInt8) : Option Json :=
  if bytes = [1] then some (sorted sampleRequest)
  else if bytes = [2] then some (sorted (readRequest ["greeting"]))
  else none

theorem sampleEncoding_cases {value : Json} {bytes : List UInt8}
    (h : sampleEncoding value = some bytes) :
    (bytes = [1] ∧ sorted value = sorted sampleRequest) ∨
      (bytes = [2] ∧ sorted value = sorted (readRequest ["greeting"])) := by
  unfold sampleEncoding at h
  split_ifs at h with hmutation hread
  · exact .inl ⟨(Option.some.inj h).symm, hmutation⟩
  · exact .inr ⟨(Option.some.inj h).symm, hread⟩

theorem sampleParse_encoding {value : Json} {bytes : List UInt8} (h : sampleEncoding value = some bytes) :
    sampleParse bytes = some (sorted value) := by
  rcases sampleEncoding_cases h with ⟨rfl, hvalue⟩ | ⟨rfl, hvalue⟩
  · rw [hvalue]
    rfl
  · rw [hvalue]
    rfl

def sampleReadCodec : ReadCodec where
  canonicalJsonBytes := sampleEncoding
  sha256 := fun bytes => String.ofList (bytes.map (fun byte => Char.ofNat byte.toNat))
  parseJson := sampleParse
  encodeUtf8 := fun _ => none
  decodeUtf8 := fun _ => none
  b64decode := fun text => if text = "aGk=" then some [104, 105] else none
  b64encode := fun bytes => if bytes = [104, 105] then "aGk=" else ""
  parse_canonical := fun _ _ h => sampleParse_encoding h
  decode_encode := KeyValueProtocol.undecoded
  digest_eq := fun value value' bytes bytes' h h' hdigest => by
    rcases sampleEncoding_cases h with ⟨rfl, hvalue⟩ | ⟨rfl, hvalue⟩ <;>
      rcases sampleEncoding_cases h' with ⟨rfl, hvalue'⟩ | ⟨rfl, hvalue'⟩
    · rw [hvalue, hvalue']
    · exact absurd hdigest (by decide)
    · exact absurd hdigest (by decide)
    · rw [hvalue, hvalue']
  digestShaped := fun _ => true
  digest_shaped := fun _ => rfl
  canonical_sorted := fun value value' h => by rw [sampleEncoding, sampleEncoding, h]

end Samples
end RoozDataCloud.KeyValueRoundTrip
