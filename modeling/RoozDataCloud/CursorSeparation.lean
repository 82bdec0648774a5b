import RoozDataCloud.Cursors
import RoozDataCloud.KeyValueVaults

set_option autoImplicit false

/-!
# Separation of cursors

A page is asked for with the cursor that the page before it gave. A cursor of one
page is a position on that page only, unless its decoder does not ask which page
the cursor is of: `decode_cursor` asks for nothing, and the decoder of key-value
records asks for the store and not for the prefix of the keys.
-/
namespace RoozDataCloud.CursorSeparation
open Cursors FallibleSteps JsonDocuments JsonTexts
open Datasets (Json)
open KeyValueProtocol (sorted sortedMembers logicalKeyValid)
open KeyValueVaults (startsWith)

/-- What is listed. The lists of Agents, Runs, Datasets and so on have one kind of cursor. -/
inductive Page (Id : Type) where
  | resources (listing : String) (parent : Id)
  | datasetItems (dataset : Id)
  | keyValueRecords (store : Id) (start : Option String)
  | queueRequests (queue : Id) (status : Option String)
  | requestQueueList (project : Id)
  | queueTransitions (queue : Id) (request : Option Id)
  | scheduleList (project : Id) (status : Option String)
  | egressPolicyList (project : Id) (status : Option String)
  | egressPolicyRevisions (policy : Id)
  | scheduleTriggers (schedule : Id) (outcome : Option String)
  | projectEvents (project : Id) (eventType : Option String)

/-- A filter is one of the words that its route allows; all of them are short. -/
def Word (filter : Option String) : Prop :=
  ∀ s, filter = some s → simple s = true ∧ s.length ≤ 100

namespace Page
variable {Id Stamp : Type}

def filter : Page Id → Option String
  | .queueRequests _ word | .scheduleList _ word | .egressPolicyList _ word
  | .scheduleTriggers _ word | .projectEvents _ word => word
  | _ => none

end Page

/-- A position that a row of the database has. -/
def Stored {Id Stamp : Type} : Position Id Stamp → Prop
  | .at _ _ => True
  | .sequence n | .revision n => 1 ≤ n ∧ n < 2 ^ 63
  | .key text => logicalKeyValid text = true

/-- The row is one that the page lists. -/
def Listed {Id Stamp : Type} : Page Id → Position Id Stamp → Prop
  | .keyValueRecords _ (some start), .key text => startsWith start text = true
  | _, _ => True

section Pages
variable {Id Stamp : Type} (lib : Signing Id Stamp)

/-- The cursor that the list gives for the page after a row. -/
def encode : Page Id → Position Id Stamp → Option String
  | .resources _ _, .at t id => some (encodeCursor lib t id)
  | .datasetItems dataset, .sequence n => (encodeDatasetItemCursor lib dataset n).toOption
  | .keyValueRecords store _, .key key => some (encodeKeyValueRecordCursor lib store key)
  | .queueRequests queue status, .at t id => some (encodeQueueRequestCursor lib queue status t id)
  | .requestQueueList project, .at t id => some (encodeRequestQueueListCursor lib project t id)
  | .queueTransitions queue request, .at t id =>
    some (encodeQueueTransitionCursor lib queue request t id)
  | .scheduleList project status, .at t id => some (encodeScheduleListCursor lib project status t id)
  | .egressPolicyList project status, .at t id =>
    some (encodeEgressPolicyListCursor lib project status t id)
  | .egressPolicyRevisions policy, .revision n =>
    some (encodeEgressPolicyRevisionCursor lib policy n)
  | .scheduleTriggers schedule outcome, .at t id =>
    some (encodeScheduleTriggerCursor lib schedule outcome t id)
  | .projectEvents project eventType, .at t id => some (encodeEventCursor lib project eventType t id)
  | _, _ => none

/-- How the route of the list reads the cursor that it is given. -/
def decode : Page Id → Option String → Except CursorError (Option (Position Id Stamp))
  | .resources _ _ => decodeCursor lib
  | .datasetItems dataset => decodeDatasetItemCursor lib dataset
  | .keyValueRecords store _ => decodeKeyValueRecordCursor lib store
  | .queueRequests queue status => decodeQueueRequestCursor lib queue status
  | .requestQueueList project => decodeRequestQueueListCursor lib project
  | .queueTransitions queue request => decodeQueueTransitionCursor lib queue request
  | .scheduleList project status => decodeScheduleListCursor lib project status
  | .egressPolicyList project status => decodeEgressPolicyListCursor lib project status
  | .egressPolicyRevisions policy => decodeEgressPolicyRevisionCursor lib policy
  | .scheduleTriggers schedule outcome => decodeScheduleTriggerCursor lib schedule outcome
  | .projectEvents project eventType => decodeEventCursor lib project eventType

/-- The list gave this cursor out. -/
structure Issued (page : Page Id) (position : Position Id Stamp) (value : String) : Prop where
  word : Word page.filter
  stored : Stored position
  listed : Listed page position
  encoded : encode lib page position = some value

/-- Nobody forges a signature: what carries one was given out by some list. -/
def Genuine (value : String) : Prop :=
  ∀ payload, lib.b64decode value = some (payload ++ lib.sign payload) →
    ∃ page position issued, Issued lib page position issued ∧
      lib.b64decode issued = some (payload ++ lib.sign payload)

end Pages

/-- The pages whose rows are ordered by their time of creation. -/
def Page.Dated {Id : Type} : Page Id → Prop
  | .datasetItems _ | .keyValueRecords _ _ | .egressPolicyRevisions _ | .projectEvents _ _ => False
  | _ => True

/-- The decoder of a page takes the cursors of another. -/
def Shares {Id : Type} : Page Id → Page Id → Prop
  | .resources _ _, other => other.Dated
  | .keyValueRecords store _, .keyValueRecords store' _ => store = store'
  | _, _ => False

section Envelope
variable {Id Stamp : Type} {lib : Signing Id Stamp}

/-- A document as the encoders write it: in the order of its keys, and flat. -/
structure Tidy (members : Members) : Prop where
  keys : (members.map Prod.fst).Pairwise (· ≤ ·)
  flat : ∀ entry ∈ members, floatless entry.2 = true ∧ sorted entry.2 = entry.2
  short : (write true (.object members)).length ≤ 352

theorem sortedMembers_flat {members : Members} (h : ∀ entry ∈ members, sorted entry.2 = entry.2) :
    sortedMembers members = members := by
  induction members with
  | nil => rfl
  | cons entry members ih =>
    have hrest := ih (fun other hother => h other (List.mem_cons_of_mem _ hother))
    rw [sortedMembers, h entry List.mem_cons_self, hrest]

theorem Tidy.sorted_eq {members : Members} (h : Tidy members) :
    sorted (.object members) = .object members := by
  rw [sorted, sortedMembers_flat (fun entry hentry => (h.flat entry hentry).2)]
  exact congrArg Json.object (List.Pairwise.insertionSort_eq (List.pairwise_map.1 h.keys))

theorem Tidy.payload_eq {members : Members} (h : Tidy members) :
    payload members = asciiBytes (write true (.object members)) := by
  rw [payload, dumps, h.sorted_eq]

theorem Tidy.payload_length {members : Members} (h : Tidy members) :
    0 < (payload members).length ∧ (payload members).length ≤ 352 := by
  rw [h.payload_eq, asciiBytes, List.length_map]
  refine ⟨?_, h.short⟩
  rcases members with - | ⟨⟨key, value⟩, members⟩ <;> simp [write]

theorem Tidy.loads_eq {members : Members} (h : Tidy members) :
    lib.loads (payload members) = some (.object members) := by
  have hfloatless : floatless (.object members) = true :=
    floatlessMembers_iff.2 (fun entry hentry => (h.flat entry hentry).1)
  rw [payload, lib.loads_dumps _ hfloatless, h.sorted_eq]

theorem Tidy.decoded {members : Members} (_ : Tidy members) :
    lib.b64decode (encodeQueueCursor lib members) =
      some (payload members ++ lib.sign (payload members)) :=
  lib.decode_encode _

theorem Tidy.fits {members : Members} (h : Tidy members) :
    encodeQueueCursor lib members ≠ "" ∧ (encodeQueueCursor lib members).length ≤ 512 := by
  obtain ⟨hpositive, hshort⟩ := h.payload_length
  have hsign := lib.sign_length (payload members)
  constructor
  · apply Base64.encode_ne_empty
    intro hempty
    have hlength := congrArg List.length hempty
    simp only [List.length_append, List.length_nil] at hlength
    omega
  · have hlength := Base64.encode_length (payload members ++ lib.sign (payload members))
    simp only [List.length_append] at hlength
    rw [encodeQueueCursor]
    omega

theorem Tidy.split_eq {members : Members} (h : Tidy members) :
    split lib (encodeQueueCursor lib members) =
      .ok (payload members, lib.sign (payload members)) := by
  obtain ⟨hpositive, -⟩ := h.payload_length
  have hsign := lib.sign_length (payload members)
  have hascii : ∀ c ∈ (encodeQueueCursor lib members).toList, decide (c.toNat < 128) = true :=
    fun c hc => decide_eq_true (Base64.encode_ascii _ c hc)
  have hlength : (payload members ++ lib.sign (payload members)).length - 32 =
      (payload members).length := by
    rw [List.length_append]
    omega
  simp only [split, bind_ok, demand_ok, require_ok, pure_ok]
  refine ⟨_, h.decoded, (), List.all_eq_true.2 hascii, (), rfl, (), ?_, ?_⟩
  · rw [List.length_append]
    omega
  · rw [hlength, List.take_left, List.drop_left]

theorem Tidy.signedData_eq {members : Members} (h : Tidy members) :
    signedData lib (encodeQueueCursor lib members) = .ok (.object members) := by
  simp only [signedData, bind_ok, demand_ok, require_ok]
  exact ⟨_, h.split_eq, (), rfl, h.loads_eq⟩

theorem Tidy.queueData_eq {members : Members} (h : Tidy members) :
    queueData lib (encodeQueueCursor lib members) = .ok members := by
  simp only [queueData, bind_ok, demand_ok, require_ok]
  exact ⟨_, h.split_eq, _, h.loads_eq, (), rfl, rfl⟩

end Envelope

section Sizes

theorem writeText_simple {s : String} (h : simple s = true) :
    (writeText true s).length = s.length + 2 := by
  have hsame : s.toList.flatMap (escape true) = s.toList := by
    have hcharacters : ∀ c ∈ s.toList, escape true c = [c] := fun c hc => by
      simpa using List.all_eq_true.1 h c hc
    rw [List.flatMap_congr hcharacters, List.flatMap_singleton']
  simp [writeText, hsame, String.length_toList]

/-- The size of a member, with its colon and what stands before it. -/
def size (entry : String × Json) : ℕ :=
  (writeText true entry.1).length + (write true entry.2).length + 2

theorem size_cons (key : String) {value : Json} {rest : Members} {k n m : ℕ}
    (hkey : (writeText true key).length ≤ k) (hvalue : (write true value).length ≤ n)
    (hrest : (rest.map size).sum ≤ m) :
    (((key, value) :: rest).map size).sum ≤ k + n + 2 + m := by
  change (writeText true key).length + (write true value).length + 2 + (rest.map size).sum ≤ _
  omega

theorem writeMembers_length (members : Members) :
    (writeMembers true members).length = 1 + (members.map size).sum := by
  induction members with
  | nil => rfl
  | cons entry members ih =>
    simp only [writeMembers, List.length_append, List.length_cons, ih, List.map_cons, List.sum_cons,
      size]
    omega

theorem writeObject_length {members : Members} (h : members ≠ []) :
    (write true (.object members)).length = 1 + (members.map size).sum := by
  cases members with
  | nil => exact absurd rfl h
  | cons entry members =>
    have hrest := writeMembers_length members
    simp only [write, List.length_append, List.length_cons, hrest, List.map_cons, List.sum_cons,
      size]
    omega

theorem escape_printable {c : Char} (hlow : 45 ≤ c.toNat) (hhigh : c.toNat < 127)
    (hslash : c.toNat ≠ 92) : escape true c = [c] := by
  have hshort : shortEscapes.lookup c = none := by
    have hentries : ∀ entry ∈ shortEscapes, entry.1.toNat < 45 ∨ entry.1.toNat = 92 := by decide
    rw [List.lookup_eq_none_iff]
    intro entry hentry
    rw [bne_iff_ne]
    rintro rfl
    have hsmall := hentries entry hentry
    omega
  have hcontrol : ¬ c.toNat < 32 := by omega
  simp [escape, hshort, hcontrol, hhigh]

theorem escape_keyCharacter {c : Char} (h : c.isAlphanum = true ∨ c ∈ ['.', '_', ':', '-']) :
    escape true c = [c] := by
  rcases h with h | h
  · have hrange : (65 ≤ c.toNat ∧ c.toNat ≤ 90) ∨ (97 ≤ c.toNat ∧ c.toNat ≤ 122) ∨
        (48 ≤ c.toNat ∧ c.toNat ≤ 57) := by
      have hcases : ((c.isUpper || c.isLower) || c.isDigit) = true := h
      rw [Bool.or_eq_true, Bool.or_eq_true] at hcases
      rcases hcases with (hupper | hlower) | hdigit
      · exact .inl (of_decide_eq_true hupper)
      · obtain ⟨hfirst, hlast⟩ := Bool.and_eq_true_iff.1 hlower
        exact .inr (.inl ⟨of_decide_eq_true hfirst, of_decide_eq_true hlast⟩)
      · obtain ⟨hfirst, hlast⟩ := Bool.and_eq_true_iff.1 hdigit
        exact .inr (.inr ⟨of_decide_eq_true hfirst, of_decide_eq_true hlast⟩)
    exact escape_printable (by omega) (by omega) (by omega)
  · have hall : ['.', '_', ':', '-'].all (fun c => escape true c == [c]) = true := by decide
    exact beq_iff_eq.1 (List.all_eq_true.1 hall c h)

theorem simple_key {key : String} (h : logicalKeyValid key = true) :
    simple key = true ∧ key.length ≤ 256 := by
  rw [simple, ← String.length_toList, List.all_eq_true]
  unfold logicalKeyValid at h
  cases hkey : key.toList with
  | nil => simp
  | cons c rest =>
    simp only [hkey, Bool.and_eq_true, decide_eq_true_eq, List.all_eq_true, Bool.or_eq_true] at h
    obtain ⟨⟨hfirst, hlength⟩, hrest⟩ := h
    refine ⟨?_, by rw [List.length_cons]; omega⟩
    intro d hd
    rw [beq_iff_eq]
    rcases List.mem_cons.1 hd with rfl | hd
    · exact escape_keyCharacter (.inl hfirst)
    · exact escape_keyCharacter (hrest d hd)

theorem int_length {n : ℤ} (h : 1 ≤ n) (hbound : n < 2 ^ 63) :
    (write true (.int n)).length ≤ 19 := by
  obtain ⟨m, rfl⟩ := Int.eq_ofNat_of_zero_le (by omega : 0 ≤ n)
  have hsmall : m < 10 ^ 19 := by omega
  have hdigits := Nat.toDigits_length 10 m 19 (by omega) hsmall
  simpa [write, Int.toString_eq_repr, Int.repr_eq_if] using hdigits

end Sizes

section Documents
variable {Id Stamp : Type} (lib : Signing Id Stamp)

/-- What the cursor of a page has signed. -/
def document : Page Id → Position Id Stamp → Members
  | .resources _ _, .at t id => [("created_at", stamp lib t), ("id", uuid lib id), ("v", .int 1)]
  | .datasetItems dataset, .sequence n => [("dataset_id", uuid lib dataset),
      ("kind", .text "dataset-items"), ("sequence", .int n), ("v", .int 1)]
  | .keyValueRecords store _, .key key => [("key", .text key), ("kind", .text "key-value-records"),
      ("store_id", uuid lib store), ("v", .int 1)]
  | .queueRequests queue status, .at t id =>
    listDocument lib "queue-requests" (queueRequestBinding lib queue status) t id
  | .requestQueueList project, .at t id =>
    listDocument lib "request-queue-list" (requestQueueBinding lib project) t id
  | .queueTransitions queue request, .at t id =>
    listDocument lib "queue-transitions" (transitionBinding lib queue request) t id
  | .scheduleList project status, .at t id =>
    listDocument lib "schedule-list" (projectBinding lib project status) t id
  | .egressPolicyList project status, .at t id =>
    listDocument lib "egress-policy-list" (projectBinding lib project status) t id
  | .egressPolicyRevisions policy, .revision n => [("kind", .text "egress-policy-revisions"),
      ("policy_id", uuid lib policy), ("revision_number", .int n), ("v", .int 1)]
  | .scheduleTriggers schedule outcome, .at t id =>
    listDocument lib "schedule-triggers" (triggerBinding lib schedule outcome) t id
  | .projectEvents project eventType, .at t id => [("event_type", optionalText eventType),
      ("id", uuid lib id), ("kind", .text "project-events"), ("occurred_at", stamp lib t),
      ("project_id", uuid lib project), ("v", .int 1)]
  | _, _ => []

variable {lib}

theorem encode_document {page : Page Id} {position : Position Id Stamp} {value : String}
    (h : encode lib page position = some value) :
    value = encodeQueueCursor lib (document lib page position) := by
  cases page <;> cases position <;>
    simp only [encode, Option.some.injEq, reduceCtorEq, toOption_some, encodeDatasetItemCursor,
      bind_ok, pure_ok] at h
  case datasetItems.sequence =>
    obtain ⟨-, -, rfl⟩ := h
    rfl
  all_goals exact h.symm

theorem flat_optionalText (filter : Option String) :
    floatless (optionalText filter) = true ∧ sorted (optionalText filter) = optionalText filter := by
  cases filter <;> exact ⟨rfl, rfl⟩

theorem document_flat (page : Page Id) (position : Position Id Stamp) :
    ∀ entry ∈ document lib page position, floatless entry.2 = true ∧ sorted entry.2 = entry.2 := by
  cases page <;> cases position <;>
    simp [document, listDocument, queueRequestBinding, requestQueueBinding, transitionBinding,
      projectBinding, triggerBinding, flat_optionalText, stamp, uuid, floatless, sorted]

theorem document_keys (page : Page Id) (position : Position Id Stamp) :
    ((document lib page position).map Prod.fst).Pairwise (· ≤ ·) := by
  cases page <;> cases position <;>
    simp only [document, listDocument, queueRequestBinding, requestQueueBinding, transitionBinding,
      projectBinding, triggerBinding, List.cons_append, List.nil_append, List.map_cons,
      List.map_nil] <;> decide

theorem uuid_length (lib : Signing Id Stamp) (id : Id) : (write true (uuid lib id)).length ≤ 38 := by
  obtain ⟨hsimple, hlength⟩ := lib.uuidText_simple id
  rw [uuid, write, writeText_simple hsimple]
  omega

theorem stamp_length (lib : Signing Id Stamp) (t : Stamp) : (write true (stamp lib t)).length ≤ 34 := by
  obtain ⟨hsimple, hlength⟩ := lib.isoformat_simple t
  rw [stamp, write, writeText_simple hsimple]
  omega

theorem word_length {filter : Option String} (h : Word filter) :
    (write true (optionalText filter)).length ≤ 102 := by
  cases filter with
  | none => simp [optionalText, write]
  | some s =>
    obtain ⟨hsimple, hlength⟩ := h s rfl
    rw [optionalText, write, writeText_simple hsimple]
    omega

theorem request_length (lib : Signing Id Stamp) (request : Option Id) :
    (write true (optionalText (request.map lib.uuidText))).length ≤ 38 := by
  cases request with
  | none => simp [optionalText, write]
  | some id => exact uuid_length lib id

theorem size_nil : (([] : Members).map size).sum ≤ 0 := Nat.le_refl 0

theorem size_version : (([("v", Json.int 1)] : Members).map size).sum ≤ 6 := by decide

theorem listDocument_length {kind : String} {binding : Members} (t : Stamp) (id : Id) {k n : ℕ}
    (hkind : (writeText true kind).length ≤ k) (hbinding : (binding.map size).sum ≤ n) :
    (write true (.object (listDocument lib kind binding t id))).length ≤ 107 + k + n := by
  have hrest : ((binding ++ [("v", Json.int 1)]).map size).sum ≤ n + 6 := by
    rw [List.map_append, List.sum_append]
    exact Nat.add_le_add hbinding size_version
  have htext : (write true (.text kind)).length ≤ k := hkind
  have hall := size_cons "created_at" (k := 12) (by decide) (stamp_length lib t)
    (size_cons "id" (k := 4) (by decide) (uuid_length lib id)
      (size_cons "kind" (k := 6) (by decide) htext hrest))
  rw [writeObject_length (by simp [listDocument])]
  simp only [listDocument, List.cons_append, List.nil_append]
  omega

theorem projectBinding_size (project : Id) {status : Option String} (h : Word status) :
    ((projectBinding lib project status).map size).sum ≤ 164 :=
  (size_cons "project_id" (k := 12) (by decide) (uuid_length lib project)
    (size_cons "status" (k := 8) (by decide) (word_length h) size_nil)).trans (by decide)

theorem Issued.short {page : Page Id} {position : Position Id Stamp} {value : String}
    (h : Issued lib page position value) :
    (write true (.object (document lib page position))).length ≤ 352 := by
  obtain ⟨hword, hstored, -, -⟩ := h
  cases page <;> cases position
  case resources.at t id =>
    rw [document, writeObject_length (by simp)]
    exact Nat.add_le_add_left (size_cons _ (k := 12) (by decide) (stamp_length lib t)
      (size_cons _ (k := 4) (by decide) (uuid_length lib id) size_version)) 1 |>.trans (by decide)
  case datasetItems.sequence dataset n =>
    rw [document, writeObject_length (by simp)]
    exact Nat.add_le_add_left (size_cons _ (k := 12) (by decide) (uuid_length lib dataset)
      (size_cons _ (k := 6) (n := 15) (by decide) (by decide)
        (size_cons _ (k := 10) (by decide) (int_length hstored.1 hstored.2) size_version))) 1 |>.trans
      (by decide)
  case keyValueRecords.key store start key =>
    obtain ⟨hsimple, hlength⟩ := simple_key hstored
    have hkey : (write true (.text key)).length ≤ 258 := by
      rw [write, writeText_simple hsimple]
      omega
    rw [document, writeObject_length (by simp)]
    exact Nat.add_le_add_left (size_cons _ (k := 5) (by decide) hkey
      (size_cons _ (k := 6) (n := 19) (by decide) (by decide)
        (size_cons _ (k := 10) (by decide) (uuid_length lib store) size_version))) 1 |>.trans (by decide)
  case egressPolicyRevisions.revision policy n =>
    rw [document, writeObject_length (by simp)]
    exact Nat.add_le_add_left (size_cons _ (k := 6) (n := 25) (by decide) (by decide)
      (size_cons _ (k := 11) (by decide) (uuid_length lib policy)
        (size_cons _ (k := 17) (by decide) (int_length hstored.1 hstored.2) size_version))) 1 |>.trans
      (by decide)
  case projectEvents.at project eventType t id =>
    rw [document, writeObject_length (by simp)]
    exact Nat.add_le_add_left (size_cons _ (k := 12) (by decide) (word_length hword)
      (size_cons _ (k := 4) (by decide) (uuid_length lib id)
        (size_cons _ (k := 6) (n := 16) (by decide) (by decide)
          (size_cons _ (k := 13) (by decide) (stamp_length lib t)
            (size_cons _ (k := 12) (by decide) (uuid_length lib project) size_version))))) 1 |>.trans
      (by decide)
  case queueRequests.at queue status t id =>
    exact (listDocument_length t id (k := 16) (by decide) (size_cons _ (k := 10) (by decide)
      (uuid_length lib queue) (size_cons _ (k := 8) (by decide) (word_length hword) size_nil))).trans
      (by decide)
  case requestQueueList.at project t id =>
    exact (listDocument_length t id (k := 20) (by decide) (size_cons _ (k := 12) (by decide)
      (uuid_length lib project) size_nil)).trans (by decide)
  case queueTransitions.at queue request t id =>
    exact (listDocument_length t id (k := 19) (by decide) (size_cons _ (k := 10) (by decide)
      (uuid_length lib queue) (size_cons _ (k := 12) (by decide) (request_length lib request)
        size_nil))).trans (by decide)
  case scheduleList.at project status t id =>
    exact (listDocument_length t id (k := 15) (by decide) (projectBinding_size project hword)).trans
      (by decide)
  case egressPolicyList.at project status t id =>
    exact (listDocument_length t id (k := 20) (by decide) (projectBinding_size project hword)).trans
      (by decide)
  case scheduleTriggers.at schedule outcome t id =>
    exact (listDocument_length t id (k := 19) (by decide) (size_cons _ (k := 9) (by decide)
      (word_length hword) (size_cons _ (k := 13) (by decide) (uuid_length lib schedule)
        size_nil))).trans (by decide)
  all_goals exact of_decide_eq_true rfl

theorem Issued.tidy {page : Page Id} {position : Position Id Stamp} {value : String}
    (h : Issued lib page position value) : Tidy (document lib page position) :=
  ⟨document_keys page position, document_flat page position, h.short⟩

end Documents

section Recognition
variable {Id Stamp : Type} (lib : Signing Id Stamp)

/-- What the decoder of a page makes of a document with a right signature. -/
def recognise : Page Id → Members → Except PyError (Position Id Stamp)
  | .resources _ _, members => cursorPosition lib (.object members)
  | .datasetItems dataset, members => datasetItemPosition lib dataset (.object members)
  | .keyValueRecords store _, members => keyValueRecordPosition lib store (.object members)
  | .queueRequests queue status, members =>
    boundPosition lib "created_at" "queue-requests" (queueRequestBinding lib queue status) members
  | .requestQueueList project, members =>
    boundPosition lib "created_at" "request-queue-list" (requestQueueBinding lib project) members
  | .queueTransitions queue request, members =>
    boundPosition lib "created_at" "queue-transitions" (transitionBinding lib queue request) members
  | .scheduleList project status, members =>
    boundPosition lib "created_at" "schedule-list" (projectBinding lib project status) members
  | .egressPolicyList project status, members =>
    boundPosition lib "created_at" "egress-policy-list" (projectBinding lib project status) members
  | .egressPolicyRevisions policy, members => revisionPosition lib policy members
  | .scheduleTriggers schedule outcome, members =>
    boundPosition lib "created_at" "schedule-triggers" (triggerBinding lib schedule outcome) members
  | .projectEvents project eventType, members =>
    boundPosition lib "occurred_at" "project-events" (eventBinding lib project eventType) members

variable {lib}

theorem reading_eq {α : Type} {caught : List PyError} {read : String → Except PyError α}
    {members : Members} (h : Tidy members) :
    reading caught read (encodeQueueCursor lib members) =
      catching caught (read (encodeQueueCursor lib members)) := by
  have hfits : encodeQueueCursor lib members ≠ "" ∧ (encodeQueueCursor lib members).length ≤ 512 :=
    h.fits
  simp [reading, require, hfits, bind, Except.bind]

theorem signed_eq {members : Members} (h : Tidy members)
    (position : Json → Except PyError (Position Id Stamp)) :
    signed lib position (encodeQueueCursor lib members) =
      catching [.key, .type, .value] (position (.object members)) := by
  rw [signed, reading_eq h, h.signedData_eq]
  rfl

theorem bound_eq {members : Members} (h : Tidy members) (caught : List PyError)
    (position : Members → Except PyError (Position Id Stamp)) :
    bound lib caught position (encodeQueueCursor lib members) = catching caught (position members) := by
  rw [bound, decodeQueueCursor, reading_eq h, h.queueData_eq]
  rfl

theorem catching_ok {α : Type} {caught : List PyError} {x : Except PyError α} {a : α}
    (h : x = .ok a) : catching caught x = .ok a := by
  rw [h]
  rfl

theorem catching_error {α : Type} {caught : List PyError} {x : Except PyError α} {e : PyError}
    (h : x = .error e) (he : e ∈ caught) : catching caught x = .error invalidCursor := by
  rw [h]
  simp [catching, Except.mapError, he]

/-- A program fails with these exceptions only. -/
def Fails {α : Type} (caught : List PyError) (x : Except PyError α) : Prop :=
  ∀ e, x = .error e → e ∈ caught

section Failures
variable {α β : Type} {caught : List PyError}

theorem Fails.bind {x : Except PyError α} {f : α → Except PyError β} (hx : Fails caught x)
    (hf : ∀ a, Fails caught (f a)) : Fails caught (x >>= f) := by
  intro e he
  rcases bind_error.1 he with he | ⟨a, -, he⟩
  · exact hx e he
  · exact hf a e he

theorem Fails.pure (a : α) : Fails caught (pure a : Except PyError α) := fun e he => by
  cases he

theorem Fails.require {p : Prop} [Decidable p] {e : PyError} (h : e ∈ caught) :
    Fails caught (require p e) := fun e' he' => by
  obtain ⟨-, rfl⟩ := require_error.1 he'
  exact h

theorem Fails.demand {o : Option α} {e : PyError} (h : e ∈ caught) :
    Fails caught (demand o e) := fun e' he' => by
  obtain ⟨-, rfl⟩ := demand_error.1 he'
  exact h

theorem Fails.refused {x : Except PyError α} (h : Fails caught x) (hx : ∀ a, x ≠ .ok a) :
    catching caught x = .error invalidCursor := by
  cases x with
  | ok a => exact absurd rfl (hx a)
  | error e => exact catching_error rfl (h e rfl)

end Failures

/-- What a decoder catches. -/
def Page.caught : Page Id → List PyError
  | .egressPolicyRevisions _ => [.type, .value]
  | _ => [.key, .type, .value]

theorem decode_tidy {members : Members} (h : Tidy members) (page : Page Id) :
    decode lib page (some (encodeQueueCursor lib members)) =
      some <$> catching page.caught (recognise lib page members) := by
  cases page
  case resources => exact congrArg (some <$> ·) (signed_eq h _)
  case datasetItems => exact congrArg (some <$> ·) (signed_eq h _)
  case keyValueRecords => exact congrArg (some <$> ·) (signed_eq h _)
  all_goals exact congrArg (some <$> ·) (bound_eq h _ _)

theorem readAt_fails {caught : List PyError} (hkey : .key ∈ caught) (hvalue : .value ∈ caught)
    (members : Members) (field : String) : Fails caught (readAt lib (.object members) field) :=
  .bind (.demand hkey) fun _ => .bind (.demand hvalue) fun _ => .bind (.demand hkey) fun _ =>
    .bind (.demand hvalue) fun _ => .pure _

theorem boundPosition_fails (field kind : String) (binding members : Members) :
    Fails [.key, .type, .value] (boundPosition lib field kind binding members) :=
  .bind (.require (by simp)) fun _ => readAt_fails (by simp) (by simp) members field

theorem recognise_fails (page : Page Id) (members : Members) :
    Fails page.caught (recognise lib page members) := by
  cases page
  case resources =>
    exact .bind (.pure _) fun _ => .bind (.require (by simp [Page.caught])) fun _ =>
      readAt_fails (by simp [Page.caught]) (by simp [Page.caught]) members _
  case datasetItems | keyValueRecords =>
    exact .bind (.demand (by simp [Page.caught])) fun _ => .bind (.pure _) fun _ =>
      .bind (.require (by simp [Page.caught])) fun _ => .bind (.demand (by simp [Page.caught]))
        fun _ => .pure _
  case egressPolicyRevisions =>
    exact .bind (.require (by simp [Page.caught])) fun _ =>
      .bind (.demand (by simp [Page.caught])) fun _ => .pure _
  all_goals exact boundPosition_fails _ _ _ members

theorem readAt_ok {members : Members} {field : String} {t : Stamp} {id : Id}
    (hfield : members.lookup field = some (stamp lib t))
    (hid : members.lookup "id" = some (uuid lib id)) :
    readAt lib (.object members) field = .ok (.at t id) := by
  simp only [readAt, item, bind_ok, demand_ok, pure_ok]
  exact ⟨_, hfield, t, by rw [stamp, lib.str_text, lib.parse_isoformat], _, hid, id,
    by rw [uuid, lib.str_text, lib.parse_uuidText], rfl⟩

theorem boundPosition_ok {field kind : String} {binding members : Members} {t : Stamp} {id : Id}
    (hexactly : hasExactly members (field :: "id" :: "kind" :: "v" :: binding.map Prod.fst) = true)
    (hversion : member members "v" = .int 1) (hkind : member members "kind" = .text kind)
    (hbinding : ∀ entry ∈ binding, member members entry.1 = entry.2)
    (hfield : members.lookup field = some (stamp lib t))
    (hid : members.lookup "id" = some (uuid lib id)) :
    boundPosition lib field kind binding members = .ok (.at t id) := by
  rw [boundPosition, bind_ok]
  refine ⟨(), require_ok.2 ⟨hexactly, ?_, ?_, ?_⟩, readAt_ok hfield hid⟩
  · rw [hversion, same_self]
  · rw [hkind, same_self]
  · intro entry hentry
    rw [hbinding entry hentry, same_self]

theorem recognise_own {page : Page Id} {position : Position Id Stamp} {value : String}
    (h : Issued lib page position value) :
    recognise lib page (document lib page position) = .ok position := by
  obtain ⟨-, hstored, -, hencode⟩ := h
  cases page <;> cases position <;> simp only [encode, reduceCtorEq] at hencode
  case resources.at =>
    simp only [recognise, cursorPosition, gettable, bind_ok, pure_ok]
    exact ⟨_, rfl, (), by simp [document, member, List.lookup_cons, require, same_self],
      readAt_ok rfl rfl⟩
  case datasetItems.sequence dataset n =>
    simp only [recognise, datasetItemPosition, item, gettable, bind_ok, pure_ok, demand_ok,
      require_ok]
    refine ⟨.int n, rfl, _, rfl, (), ⟨same_self _, same_self _, same_self _⟩, n, ?_, rfl⟩
    simp [positive, int?, hstored.1]
  case keyValueRecords.key store start key =>
    have hvalid : logicalKeyValid key = true := hstored
    have hkey : key ≠ "" := by
      rintro rfl
      exact absurd hvalid (by decide)
    simp only [recognise, keyValueRecordPosition, item, gettable, bind_ok, pure_ok, demand_ok,
      require_ok]
    refine ⟨.text key, rfl, _, rfl, (), ⟨same_self _, same_self _, same_self _⟩, key, ?_, rfl⟩
    simp [text?, hkey]
  case egressPolicyRevisions.revision policy n =>
    simp only [recognise, revisionPosition, bind_ok, pure_ok, demand_ok, require_ok]
    refine ⟨(), ⟨rfl, same_self _, same_self _, same_self _⟩, n, ?_, rfl⟩
    simp [positive, document, member, List.lookup_cons, int?, hstored.1]
  case projectEvents.at =>
    exact boundPosition_ok rfl rfl rfl (by simp [eventBinding, document, member, List.lookup_cons, List.lookup_nil]) rfl rfl
  all_goals
    exact boundPosition_ok rfl rfl rfl (by simp [queueRequestBinding, requestQueueBinding,
      transitionBinding, projectBinding, triggerBinding, document, listDocument, member, List.lookup_cons, List.lookup_nil])
      rfl rfl

theorem recognise_shared {page other : Page Id} {position : Position Id Stamp} {value : String}
    (hshares : Shares page other) (h : Issued lib other position value) :
    recognise lib page (document lib other position) = .ok position := by
  cases page with
  | resources =>
    have hencode := h.encoded
    cases other <;> simp only [Shares, Page.Dated] at hshares <;> cases position <;>
      simp only [encode, reduceCtorEq] at hencode
    all_goals
      simp only [recognise, cursorPosition, gettable, bind_ok, pure_ok, require_ok]
      exact ⟨_, rfl, (), same_self _, readAt_ok rfl rfl⟩
  | keyValueRecords store start =>
    cases other with
    | keyValueRecords store' start' =>
      obtain rfl : store = store' := hshares
      exact recognise_own h
    | _ => exact hshares.elim
  | _ => exact hshares.elim

/-- The member that tells the kinds of cursors apart. -/
def Page.kind : Page Id → Json
  | .resources _ _ => .null
  | .datasetItems _ => .text "dataset-items"
  | .keyValueRecords _ _ => .text "key-value-records"
  | .queueRequests _ _ => .text "queue-requests"
  | .requestQueueList _ => .text "request-queue-list"
  | .queueTransitions _ _ => .text "queue-transitions"
  | .scheduleList _ _ => .text "schedule-list"
  | .egressPolicyList _ _ => .text "egress-policy-list"
  | .egressPolicyRevisions _ => .text "egress-policy-revisions"
  | .scheduleTriggers _ _ => .text "schedule-triggers"
  | .projectEvents _ _ => .text "project-events"

variable (lib) in
/-- What a cursor says of the page. -/
def Page.binding : Page Id → Members
  | .resources _ _ => []
  | .datasetItems dataset => [("dataset_id", uuid lib dataset)]
  | .keyValueRecords store _ => [("store_id", uuid lib store)]
  | .queueRequests queue status => queueRequestBinding lib queue status
  | .requestQueueList project => requestQueueBinding lib project
  | .queueTransitions queue request => transitionBinding lib queue request
  | .scheduleList project status | .egressPolicyList project status =>
    projectBinding lib project status
  | .egressPolicyRevisions policy => [("policy_id", uuid lib policy)]
  | .scheduleTriggers schedule outcome => triggerBinding lib schedule outcome
  | .projectEvents project eventType => eventBinding lib project eventType

theorem recognise_tells {page : Page Id} {members : Members} {position : Position Id Stamp}
    (hpage : page.kind ≠ .null) (h : recognise lib page members = .ok position) :
    same (member members "kind") page.kind = true ∧
      ∀ entry ∈ page.binding lib, same (member members entry.1) entry.2 = true := by
  cases page
  case resources => exact absurd rfl hpage
  case datasetItems =>
    simp only [recognise, datasetItemPosition, gettable, bind_ok, require_ok, pure_ok] at h
    obtain ⟨_, _, _, rfl, _, ⟨_, hkind, hbinding⟩, _⟩ := h
    exact ⟨hkind, by simpa [Page.binding] using hbinding⟩
  case keyValueRecords =>
    simp only [recognise, keyValueRecordPosition, gettable, bind_ok, require_ok, pure_ok] at h
    obtain ⟨_, _, _, rfl, _, ⟨_, hkind, hbinding⟩, _⟩ := h
    exact ⟨hkind, by simpa [Page.binding] using hbinding⟩
  case egressPolicyRevisions =>
    simp only [recognise, revisionPosition, bind_ok, require_ok] at h
    obtain ⟨-, ⟨-, -, hkind, hbinding⟩, -⟩ := h
    exact ⟨hkind, by simpa [Page.binding] using hbinding⟩
  all_goals
    simp only [recognise, boundPosition, bind_ok, require_ok] at h
    obtain ⟨-, ⟨-, -, hkind, hbinding⟩, -⟩ := h
    exact ⟨hkind, hbinding⟩

theorem document_tells {page : Page Id} {position : Position Id Stamp} {value : String}
    (h : Issued lib page position value) :
    member (document lib page position) "kind" = page.kind ∧
      ∀ entry ∈ page.binding lib, member (document lib page position) entry.1 = entry.2 := by
  have hencode := h.encoded
  cases page <;> cases position <;> simp only [encode, reduceCtorEq] at hencode <;>
    refine ⟨rfl, ?_⟩ <;>
    simp [Page.binding, queueRequestBinding, requestQueueBinding, transitionBinding,
      projectBinding, triggerBinding, eventBinding, document, listDocument, member, List.lookup_cons, List.lookup_nil]

theorem same_scalar {a b : Json} (ha : normal a = a) (hb : normal b = b) :
    same a b = true ↔ a = b := by
  rw [same_iff, ha, hb]

theorem normal_kind (page : Page Id) : normal page.kind = page.kind := by
  cases page <;> rfl

theorem normal_optionalText (filter : Option String) :
    normal (optionalText filter) = optionalText filter := by
  cases filter <;> rfl

theorem normal_binding (page : Page Id) :
    ∀ entry ∈ page.binding lib, normal entry.2 = entry.2 := by
  cases page <;>
    simp [Page.binding, queueRequestBinding, requestQueueBinding, transitionBinding,
      projectBinding, triggerBinding, eventBinding, normal_optionalText, uuid, normal]

theorem normal_document (page : Page Id) (position : Position Id Stamp) :
    ∀ entry ∈ document lib page position, normal entry.2 = entry.2 := by
  cases page <;> cases position <;>
    simp [document, listDocument, queueRequestBinding, requestQueueBinding, transitionBinding,
      projectBinding, triggerBinding, normal_optionalText, stamp, uuid, normal]

theorem normal_member {members : Members} (h : ∀ entry ∈ members, normal entry.2 = entry.2)
    (key : String) : normal (member members key) = member members key := by
  unfold member
  cases hlookup : members.lookup key with
  | none => rfl
  | some value =>
    obtain ⟨before, after, hmembers, -⟩ := List.lookup_eq_some_iff.1 hlookup
    exact h (key, value) (by simp [hmembers])

theorem uuidText_iff {id id' : Id} : lib.uuidText id = lib.uuidText id' ↔ id = id' := by
  refine ⟨fun h => ?_, congrArg _⟩
  have hparse := lib.parse_uuidText id
  rw [h, lib.parse_uuidText] at hparse
  exact (Option.some.inj hparse).symm

theorem optionalText_iff {filter filter' : Option String} :
    optionalText filter = optionalText filter' ↔ filter = filter' := by
  cases filter <;> cases filter' <;> simp [optionalText]

theorem request_iff {request request' : Option Id} :
    request.map lib.uuidText = request'.map lib.uuidText ↔ request = request' :=
  (Option.map_injective (fun _ _ => uuidText_iff.1)).eq_iff

theorem page_eq {page other : Page Id} {told : String → Json} (hpage : page.kind ≠ .null)
    (hkind : other.kind = page.kind) (h : ∀ entry ∈ page.binding lib, told entry.1 = entry.2)
    (hother : ∀ entry ∈ other.binding lib, told entry.1 = entry.2) :
    page = other ∨ Shares page other := by
  cases page <;> cases other <;> simp [Page.kind] at hkind hpage <;>
    simp [Page.binding, queueRequestBinding, requestQueueBinding, transitionBinding,
      projectBinding, triggerBinding, eventBinding, uuid] at hother <;>
    simp [Page.binding, queueRequestBinding, requestQueueBinding, transitionBinding,
      projectBinding, triggerBinding, eventBinding, uuid, hother, uuidText_iff, optionalText_iff,
      request_iff] at h <;>
    simp [h, Shares]

theorem accepts_of_recognise {page other : Page Id} {position position' : Position Id Stamp}
    {value : String} (hissued : Issued lib other position value)
    (h : recognise lib page (document lib other position) = .ok position') :
    page = other ∨ Shares page other := by
  by_cases hpage : page.kind = .null
  · have hencode := hissued.encoded
    cases page <;> cases hpage
    refine .inr ?_
    cases other <;> cases position <;> simp only [encode, reduceCtorEq] at hencode <;>
      simp [recognise, cursorPosition, readAt, item, gettable, document, List.lookup_cons, List.lookup_nil, bind_ok,
        Shares, Page.Dated] at h ⊢
  · obtain ⟨hkind, hbinding⟩ := recognise_tells hpage h
    obtain ⟨hdocument, hother⟩ := document_tells hissued
    rw [hdocument, same_scalar (normal_kind other) (normal_kind page)] at hkind
    refine page_eq hpage hkind (fun entry hentry => ?_) hother
    exact (same_scalar (normal_member (normal_document other position) entry.1)
      (normal_binding page entry hentry)).1 (hbinding entry hentry)

end Recognition

section Separation
variable {Id Stamp : Type} {lib : Signing Id Stamp}

variable (lib) in
/-- The string is a payload with its signature, in the one way that is canonical. -/
def SignedBy (value : String) (payload : List UInt8) : Prop :=
  lib.b64decode value = some (payload ++ lib.sign payload) ∧
    Base64.encode (payload ++ lib.sign payload) = value

theorem split_ok {value : String} {payload supplied : List UInt8}
    (h : split lib value = .ok (payload, supplied)) :
    lib.b64decode value = some (payload ++ supplied) ∧
      Base64.encode (payload ++ supplied) = value := by
  simp only [split, bind_ok, demand_ok, require_ok, pure_ok, Prod.mk.injEq] at h
  obtain ⟨decoded, hdecoded, -, -, -, hcanonical, -, -, rfl, rfl⟩ := h
  rw [List.take_append_drop]
  exact ⟨hdecoded, hcanonical⟩

theorem split_fails (value : String) : Fails [.type, .value] (split lib value) :=
  .bind (.demand (by simp)) fun _ => .bind (.require (by simp)) fun _ =>
    .bind (.require (by simp)) fun _ => .bind (.require (by simp)) fun _ => .pure _

theorem signedData_fails (value : String) : Fails [.type, .value] (signedData lib value) :=
  .bind (split_fails value) fun _ => .bind (.require (by simp)) fun _ => .demand (by simp)

theorem queueData_fails (value : String) : Fails [.type, .value] (queueData lib value) :=
  .bind (split_fails value) fun _ => .bind (.demand (by simp)) fun _ =>
    .bind (.require (by simp)) fun _ => .demand (by simp)

theorem signedData_signed {value : String} {data : Json} (h : signedData lib value = .ok data) :
    ∃ payload, SignedBy lib value payload := by
  simp only [signedData, bind_ok, require_ok] at h
  obtain ⟨⟨payload, supplied⟩, hsplit, -, hsign, -⟩ := h
  obtain rfl : supplied = lib.sign payload := hsign
  exact ⟨payload, split_ok hsplit⟩

theorem queueData_signed {value : String} {data : Members} (h : queueData lib value = .ok data) :
    ∃ payload, SignedBy lib value payload := by
  simp only [queueData, bind_ok, require_ok] at h
  obtain ⟨⟨payload, supplied⟩, hsplit, -, -, -, hsign, -⟩ := h
  obtain rfl : supplied = lib.sign payload := hsign
  exact ⟨payload, split_ok hsplit⟩

theorem reading_refuses {α : Type} {caught : List PyError} {read : String → Except PyError α}
    {value : String} (hfails : Fails caught (read value)) (h : ∀ a, read value ≠ .ok a) :
    reading caught read value = .error invalidCursor := by
  by_cases hlength : value ≠ "" ∧ value.length ≤ 512
  · simpa [reading, require, hlength, bind, Except.bind] using hfails.refused h
  · simp [reading, require, hlength, bind, Except.bind]

theorem decode_unsigned {value : String} (h : ∀ payload, ¬ SignedBy lib value payload)
    (page : Page Id) : decode lib page (some value) = .error invalidCursor := by
  have hdata : ∀ data, signedData lib value ≠ .ok data := fun data hdata =>
    (signedData_signed hdata).elim fun payload => h payload
  have hsigned : ∀ position, signed lib position value = .error invalidCursor := by
    intro position
    apply reading_refuses
    · intro e he
      rcases bind_error.1 he with he | ⟨data, hok, -⟩
      · exact List.mem_cons_of_mem _ (signedData_fails value e he)
      · exact absurd hok (hdata data)
    · intro a ha
      obtain ⟨data, hok, -⟩ := bind_ok.1 ha
      exact hdata data hok
  have hbound : ∀ caught position, bound lib caught position value = .error invalidCursor := by
    intro caught position
    have hrefused : decodeQueueCursor lib value = .error invalidCursor :=
      reading_refuses (queueData_fails value) fun data hdata =>
        (queueData_signed hdata).elim fun payload => h payload
    rw [bound, hrefused]
    rfl
  cases page
  case resources => exact congrArg (some <$> ·) (hsigned _)
  case datasetItems => exact congrArg (some <$> ·) (hsigned _)
  case keyValueRecords => exact congrArg (some <$> ·) (hsigned _)
  all_goals exact congrArg (some <$> ·) (hbound _ _)

theorem Genuine.issued {value : String} {payload : List UInt8} (h : Genuine lib value)
    (hsigned : SignedBy lib value payload) :
    ∃ page position, Issued lib page position value := by
  obtain ⟨page, position, issued, hissued, hdecoded⟩ := h payload hsigned.1
  have hvalue := encode_document hissued.encoded
  have hbytes : lib.b64decode (encodeQueueCursor lib (document lib page position)) = _ :=
    hissued.tidy.decoded
  rw [← hvalue, hdecoded, Option.some.injEq] at hbytes
  have hsame : value = issued := by
    rw [← hsigned.2, hbytes, hvalue]
    rfl
  exact ⟨page, position, hsame ▸ hissued⟩

theorem decode_issued {page other : Page Id} {position : Position Id Stamp} {value : String}
    (h : Issued lib other position value) :
    decode lib page (some value) =
      some <$> catching page.caught (recognise lib page (document lib other position)) := by
  rw [encode_document h.encoded, decode_tidy h.tidy]

theorem decode_accepts {page other : Page Id} {position : Position Id Stamp} {value : String}
    (h : Issued lib other position value) (hpage : page = other ∨ Shares page other) :
    decode lib page (some value) = .ok (some position) := by
  have hrecognised : recognise lib page (document lib other position) = .ok position := by
    rcases hpage with rfl | hshares
    · exact recognise_own h
    · exact recognise_shared hshares h
  rw [decode_issued h, catching_ok hrecognised]
  rfl

theorem decode_refuses {page other : Page Id} {position : Position Id Stamp} {value : String}
    (h : Issued lib other position value) (hpage : ¬ (page = other ∨ Shares page other)) :
    decode lib page (some value) = .error invalidCursor := by
  have hrefused := (recognise_fails page (document lib other position)).refused
    (fun position' hok => hpage (accepts_of_recognise h hok))
  rw [decode_issued h, hrefused]
  rfl

end Separation

section Instance

theorem asciiBytes_inj {cs cs' : List Char} (hcs : ∀ c ∈ cs, plain c = true)
    (hcs' : ∀ c ∈ cs', plain c = true) (h : asciiBytes cs = asciiBytes cs') : cs = cs' := by
  have hback : ∀ ds : List Char, (∀ c ∈ ds, plain c = true) →
      (asciiBytes ds).map (fun b => Char.ofNat b.toNat) = ds := by
    intro ds hds
    rw [asciiBytes, List.map_map]
    refine (List.map_congr_left fun c hc => ?_).trans (List.map_id ds)
    have hsmall : c.toNat < 127 := of_decide_eq_true (hds c hc)
    simp [Nat.mod_eq_of_lt (by omega : c.toNat < 256)]
  rw [← hback cs hcs, h, hback cs' hcs']

open Classical in
/-- A reader of the texts that the encoders write. -/
noncomputable def readDocument (bytes : List UInt8) : Option Json :=
  if h : ∃ v, floatless v = true ∧ asciiBytes (dumps true v) = bytes then some (sorted h.choose)
  else none

theorem readDocument_dumps (v : Json) (h : floatless v = true) :
    readDocument (asciiBytes (dumps true v)) = some (sorted v) := by
  have hexists : ∃ w, floatless w = true ∧ asciiBytes (dumps true w) = asciiBytes (dumps true v) :=
    ⟨v, h, rfl⟩
  obtain ⟨hfloatless, hbytes⟩ := hexists.choose_spec
  have hplain : ∀ w, floatless w = true → ∀ c ∈ dumps true w, plain c = true := fun w hw =>
    write_ascii (sorted w) ((floatless_sorted w).trans hw)
  have htexts := asciiBytes_inj (hplain _ hfloatless) (hplain v h) hbytes
  rw [readDocument, dif_pos hexists, dumps_inj hfloatless h htexts]

/-- Two resources and one point in time. -/
noncomputable def twoResources : Signing Bool Unit where
  b64decode value := some (Base64.decode value)
  sign _ := List.replicate 32 0
  loads := readDocument
  str value := (text? value).getD ""
  uuidText id := if id then "1" else "0"
  parseUuid text := if text = "1" then some true else if text = "0" then some false else none
  isoformat _ := "2026-01-01T00:00:00+00:00"
  fromisoformat _ := some ()
  decode_encode bytes := by rw [Base64.decode_encode]
  sign_length _ := List.length_replicate
  loads_dumps := readDocument_dumps
  str_text _ := rfl
  parse_uuidText := by decide
  uuidText_simple := by decide
  parse_isoformat _ := rfl
  isoformat_simple _ := by decide

end Instance

end RoozDataCloud.CursorSeparation
