import RoozDataCloud.CapabilityAgreement
import RoozDataCloud.KeyValueRefinement
import RoozDataCloud.QueueLifecycle
import RoozDataCloud.WorkerCalls

set_option autoImplicit false

/-!
# The bounds of a capability

A capability says how many requests may be claimed and how many mutations may be made
under its lease. The worker's calls are run with a history of both; no function of the
server reads it.
-/
namespace RoozDataCloud.CapabilityBounds
open KeyedTable ExecutionModels JsonDocuments SandboxSettings WorkerCapabilities CapabilityChecks
open FallibleSteps ExecutionSystem LeaseRequests WorkerCalls CanaryActivation CapabilityAgreement
open RequestQueues QueueCounts
open Datasets (Json textOf)
open KeyValueProtocol (ValidatedRequest validateKvMutation validateMembers normalizedRequest)
open KeyValueStores (KeyValueMutationReceipt)
open KeyValueVaults (Supply Vault newVault)

/-- A lease with what was issued with it, and the columns of its worker's row that the execution
plane does not have. -/
structure LeaseTerms (e : Encoding) where
  settings : Settings e
  deployment : Deployment
  supply : Supply
  leaseId : Uuid
  name : String
  sandboxExecutionEnabled : Bool
  sandboxAttestationDigest : Option String
  snapshot : Snapshot
  issued : ∃ (settings : Settings e) (worker : SandboxWorker) (w : Workload e),
    claimSnapshot settings worker w.payload = .ok snapshot

/-- A number that a capability states. Without the capability nothing is allowed. -/
def bound (capability : Option Members) (name : String) : ℕ :=
  ((capability.bind (fun members => int? (member members name))).getD 0).toNat

structure Access where
  credential : WorkerCredential
  leaseTokenDigest : String
  now : Time

inductive WorkerCall where
  | claimQueueRequest (payload : Json) (claimToken : Uuid)
  | completeQueueRequest (payload : Json)
  | readRecords (payload : Json)
  | mutateRecord (call : StoreCall)
  | updateStatus (report : StatusReport)
  | renew (extendSeconds : ℕ)

/-- The tables, the queue that the capability names, the run's default store, and how many requests
were claimed and how many mutations were made under the lease. -/
structure Site where
  execution : State
  queue : Option RequestQueues.Rows
  store : Option Vault
  claims : ℕ
  mutations : ℕ

/-- A call under the lease, or whatever everyone else does. -/
inductive Op where
  | call (access : Access) (call : WorkerCall)
  | other (execution : State) (queue : Option RequestQueues.Rows) (store : Option Vault)

section Calls
variable {e : Encoding} (terms : LeaseTerms e)

def LeaseTerms.maxClaims : ℕ := bound terms.snapshot.requestQueueCapability "max_claims_per_run"

def LeaseTerms.maxMutations : ℕ := bound terms.snapshot.keyValueStoreCapability "max_mutations"

def LeaseTerms.worker (identity : WorkerIdentity) : SandboxWorker where
  toWorkerIdentity := identity
  name := terms.name
  sandboxExecutionEnabled := terms.sandboxExecutionEnabled
  sandboxAttestationDigest := terms.sandboxAttestationDigest

def LeaseTerms.under {α : Type} (st : State) (access : Access)
    (body : State → SandboxWorker → ExecutionLease → Except Failure (State × α)) :
    Except Failure (State × α) :=
  underLease st ⟨access.credential, terms.leaseId, access.leaseTokenDigest, access.now⟩
    (fun st identity lease => body st (terms.worker identity) lease)

def claimQueueRequest (site : Site) (access : Access) (payload : Json) (claimToken : Uuid) :
    Except Failure (State × RequestQueues.Rows × Option Uuid) :=
  terms.under site.execution access (fun st worker lease => do
    let result ← claimWorkerQueueRequest terms.settings worker lease terms.snapshot site.queue payload
      { workerId := access.credential.workerId
        claimToken := claimToken
        leaseSeconds := terms.settings.workerLeaseSeconds
        now := access.now }
    pure (st, result))

def completeQueueRequest (site : Site) (access : Access) (payload : Json) :
    Except Failure (State × RequestQueues.Rows) :=
  terms.under site.execution access (fun st worker lease => do
    let rows ← completeWorkerQueueRequest terms.settings worker access.credential.workerId lease
      terms.snapshot site.queue payload access.now
    pure (st, rows))

def readStore (site : Site) (access : Access) (payload : Json) :
    Except Failure (State × List (String × Option KeyValueVaults.KeyValueRecordSummary)) :=
  terms.under site.execution access (fun st worker lease => do
    let records ← readWorkerKeyValueRecords terms.settings st worker lease terms.snapshot site.store
      payload
    pure (st, records))

/-- The inner result is that of the mutation, which may have touched objects when it fails. -/
def mutateStore (site : Site) (access : Access) (call : StoreCall) :
    Except Failure (State × Option Vault × Except Failure (KeyValueMutationReceipt × Bool)) :=
  terms.under site.execution access (fun st worker lease => do
    let _ ← workerRunContext terms.settings st worker lease terms.snapshot
    pure (st, mutateWorkerKeyValueRecord e terms.supply site.store call))

def step (site : Site) : Op → Site
  | .call access (.claimQueueRequest payload claimToken) =>
    match claimQueueRequest terms site access payload claimToken with
    | .ok (st, rows, claimed) =>
      { site with execution := st, queue := some rows, claims := site.claims + claimed.toList.length }
    | .error _ => site
  | .call access (.completeQueueRequest payload) =>
    match completeQueueRequest terms site access payload with
    | .ok (st, rows) => { site with execution := st, queue := some rows }
    | .error _ => site
  | .call access (.readRecords payload) =>
    { site with execution := commit site.execution (readStore terms site access payload) }
  | .call access (.mutateRecord call) =>
    match mutateStore terms site access call with
    | .ok (st, store, .ok (_, replayed)) =>
      { site with
        execution := st
        store := store
        mutations := if replayed then site.mutations else site.mutations + 1 }
    | .ok (_, store, .error _) => { site with store := store }
    | .error _ => site
  | .call access (.updateStatus report) =>
    { site with execution := commit site.execution (terms.under site.execution access
      (fun st _ lease => withoutResult (updateLeaseStatus st terms.leaseId lease report access.now))) }
  | .call access (.renew extendSeconds) =>
    { site with execution := commit site.execution (terms.under site.execution access
      (fun st _ lease => withoutResult
        (renewLease terms.deployment st terms.leaseId lease extendSeconds access.now))) }
  | .other execution queue store =>
    { site with execution := execution, queue := queue, store := store }

/-- A lease under which nothing has been done yet. -/
def newSite (execution : State) (queue : Option RequestQueues.Rows) (store : Option Vault) : Site :=
  ⟨execution, queue, store, 0, 0⟩

structure Bounded (site : Site) : Prop where
  claims : site.claims ≤ terms.maxClaims
  mutations : site.mutations ≤ terms.maxMutations

/-- No request of the queue can be handed out: none is pending, and none comes back from a claim
that has run out. -/
def Idle (now : Time) (rows : RequestQueues.Rows) : Prop :=
  ∀ id request, rows.requests.get? id = some request → request.availableAt ≤ now →
    request.status ≠ .pending ∧
      (claimExpired now request = true → request.maxAttempts ≤ request.attemptCount)

/-- A mutation with an idempotency key that the store has a receipt of. -/
def Replay (store : Option Vault) (payload : Json) : Prop :=
  ∀ v, validateKvMutation e.toValueCodec payload = .ok v → ∃ vault, store = some vault ∧
    ∃ id receipt, vault.rows.receipts.get? id = some receipt ∧
      receipt.idempotencyKey = v.idempotencyKey

/-- What a call must find for the bounds to stand: room under the bound, or nothing to count. -/
def Within (site : Site) : Op → Prop
  | .call access (.claimQueueRequest _ _) =>
    terms.snapshot.requestQueueCapability = none ∨ site.claims < terms.maxClaims ∨
      ∀ rows, site.queue = some rows → Idle access.now rows
  | .call _ (.mutateRecord call) =>
    terms.snapshot.keyValueStoreCapability = none ∨ site.mutations < terms.maxMutations ∨
      Replay (e := e) site.store call.payload
  | _ => True

end Calls

section Claims
variable {e : Encoding} {terms : LeaseTerms e}

theorem granted_stored {stored expected : Option Members} {capability : Members}
    (h : granted stored expected = some capability) : stored ≠ none := by
  rintro rfl
  cases h

theorem reclaimed_get (entries : List (Uuid × RequestQueueRequest)) (session : RequestQueues.Rows)
    {id : Uuid} {request : RequestQueueRequest}
    (h : (entries.foldl reclaimRequest session).requests.get? id = some request) :
    session.requests.get? id = some request ∨
      ∃ old, (id, old) ∈ entries ∧ request = reclaimedRequest old := by
  induction entries generalizing session with
  | nil => exact .inl h
  | cons entry entries ih =>
    rcases ih (reclaimRequest session entry) h with hget | ⟨old, hold, hrequest⟩
    · have hmodified : (session.requests.modify entry.1 (fun _ => reclaimedRequest entry.2)).get? id =
          some request := hget
      rw [Table.get?_modify] at hmodified
      split_ifs at hmodified with hid
      · obtain ⟨_, -, hrequest⟩ := Option.map_eq_some_iff.1 hmodified
        refine .inr ⟨entry.2, ?_, hrequest.symm⟩
        rw [hid]
        exact List.mem_cons_self
      · exact .inl hmodified
    · exact .inr ⟨old, List.mem_cons_of_mem entry hold, hrequest⟩

theorem idle_claim {claim : ClaimCall} {rows rows' rows'' : RequestQueues.Rows}
    {loaded changed : RequestQueue} {claimed : Option Uuid} (hidle : Idle claim.now rows)
    (hreclaim : reclaimExpiredRequests claim rows.queue rows = .ok (loaded, rows'))
    (hclaim : claimNextRequest claim loaded rows' = .ok (changed, rows'', claimed)) :
    claimed = none := by
  have hnone : nextPending claim.now rows'.requests = none := by
    rw [Option.eq_none_iff_forall_ne_some]
    rintro ⟨id, request⟩ hnext
    have hmem := List.mem_of_mem_head? hnext
    rw [List.mem_insertionSort, Table.mem_select] at hmem
    simp only [Bool.and_eq_true, decide_eq_true_eq] at hmem
    obtain ⟨hget, hpending, havailable⟩ := hmem
    simp only [reclaimExpiredRequests, bind_ok, pure_ok, Prod.mk.injEq] at hreclaim
    obtain ⟨flushed, hflush, -, rfl⟩ := hreclaim
    rw [(QueueLifecycle.flush_same hflush).1] at hget
    rcases reclaimed_get _ _ hget with hold | ⟨old, hmem, rfl⟩
    · exact (hidle id request hold havailable).1 hpending
    · obtain ⟨hold, hexpired⟩ := (Table.mem_select _ _ id old).1 hmem
      have hattempts := (hidle id old hold havailable).2 hexpired
      rw [reclaimedRequest, reclaimTarget, if_pos hattempts] at hpending
      cases hpending
  simp only [claimNextRequest, hnone, bind_ok, pure_ok, Prod.mk.injEq] at hclaim
  obtain ⟨-, -, -, -, hclaimed⟩ := hclaim
  exact hclaimed.symm

theorem claimQueueRequest_counts {site : Site} {access : Access} {payload : Json} {claimToken id : Uuid}
    {st : State} {rows : RequestQueues.Rows}
    (h : claimQueueRequest terms site access payload claimToken = .ok (st, rows, some id)) :
    terms.snapshot.requestQueueCapability ≠ none ∧
      ∃ rows, site.queue = some rows ∧ ¬ Idle access.now rows := by
  simp only [claimQueueRequest, LeaseTerms.under, underLease, claimWorkerQueueRequest, scopedQueue,
    bind_ok, demand_ok, pure_ok, Prod.mk.injEq] at h
  obtain ⟨_, -, _, -, _, ⟨capability, henabled, _, -, _, -, found, ⟨-, -, hqueue⟩, ⟨loaded, rows'⟩,
    hreclaim, ⟨changed, rows'', claimed⟩, hclaim, rfl⟩, -, -, rfl⟩ := h
  refine ⟨granted_stored (enabled_ok.1 henabled).2, found, hqueue, fun hidle => ?_⟩
  have hnone := idle_claim hidle hreclaim hclaim
  cases hnone

theorem claims_within {site : Site} {access : Access} {payload : Json} {claimToken : Uuid}
    {st : State} {rows : RequestQueues.Rows} {claimed : Option Uuid}
    (h : claimQueueRequest terms site access payload claimToken = .ok (st, rows, claimed))
    (hbounded : Bounded terms site)
    (hwithin : Within terms site (.call access (.claimQueueRequest payload claimToken))) :
    site.claims + claimed.toList.length ≤ terms.maxClaims := by
  cases claimed with
  | none => exact hbounded.claims
  | some id =>
    obtain ⟨hcapability, found, hqueue, hbusy⟩ := claimQueueRequest_counts h
    rcases hwithin with hnone | hroom | hidle
    · exact absurd hnone hcapability
    · exact hroom
    · exact absurd (hidle found hqueue) hbusy

end Claims

section Mutations
variable {e : Encoding} {terms : LeaseTerms e}

theorem validateMembers_key {codec : KeyValueProtocol.ValueCodec} {members : Members} {set : Bool}
    {v : ValidatedRequest codec} (h : validateMembers codec members set = .ok v) :
    textOf (members.lookup "idempotency_key") = some v.idempotencyKey ∧
      v.request = normalizedRequest codec v.idempotencyKey v.key v.expectedVersion v.content := by
  simp only [validateMembers, bind_ok, demand_ok, pure_ok] at h
  obtain ⟨-, -, -, -, key, hkey, _, -, _, -, _, -, _, -, -, -, rfl⟩ := h
  exact ⟨(Option.filter_eq_some_iff.1 hkey).1, rfl⟩

theorem validateKvMutation_key {codec : KeyValueProtocol.ValueCodec} {payload : Json}
    {v : ValidatedRequest codec} (h : validateKvMutation codec payload = .ok v) :
    ∃ members, payload = .object members ∧
      textOf (members.lookup "idempotency_key") = some v.idempotencyKey ∧
      v.request = normalizedRequest codec v.idempotencyKey v.key v.expectedVersion v.content := by
  cases payload with
  | object members =>
    simp only [validateKvMutation] at h
    split at h
    · exact ⟨members, rfl, validateMembers_key h⟩
    · exact ⟨members, rfl, validateMembers_key h⟩
    · cases h
  | _ => cases h

theorem normalized_key {codec : KeyValueProtocol.ValueCodec} {payload : Json}
    {v v' : ValidatedRequest codec} (h : validateKvMutation codec payload = .ok v)
    (h' : validateKvMutation codec v.request = .ok v') : v'.idempotencyKey = v.idempotencyKey := by
  obtain ⟨-, -, -, hrequest⟩ := validateKvMutation_key h
  obtain ⟨members, hmembers, hkey, -⟩ := validateKvMutation_key h'
  rw [hrequest] at hmembers
  obtain rfl := Json.object.inj hmembers
  exact (Option.some.inj hkey).symm

theorem receipt_replays {codec : KeyValueProtocol.ValueCodec} {supply : Supply} {vault vault' : Vault}
    {request : KeyValueVaults.Request} {v : ValidatedRequest codec}
    {receipt written : KeyValueMutationReceipt} {id : Uuid}
    (hvalid : validateKvMutation codec request.payload = .ok v)
    (hreceipt : vault.rows.receipts.get? id = some receipt)
    (hkey : receipt.idempotencyKey = v.idempotencyKey) :
    KeyValueVaults.mutateRecord codec supply vault request ≠ (vault', .ok (written, false)) := by
  intro hwritten
  rcases KeyValueRefinement.mutateRecord_cases codec supply vault request with
    ⟨_, hrun⟩ | ⟨v', hvalid', ⟨_, -, hrun⟩ | ⟨_, -, hrun⟩ | ⟨rows, _, hmutated, hrun⟩⟩
  · cases hrun.symm.trans hwritten
  · cases hrun.symm.trans hwritten
  · cases hrun.symm.trans hwritten
  · obtain rfl := Except.ok.inj (hvalid.symm.trans hvalid')
    simp only [KeyValueStores.mutateKeyValueRecord, bind_ok] at hmutated
    obtain ⟨-, -, hmutated⟩ := hmutated
    split at hmutated
    · simp only [bind_ok, pure_ok, Prod.mk.injEq] at hmutated
      obtain ⟨-, -, -, -, hreplayed⟩ := hmutated
      cases hreplayed
    next hnone =>
      have hother := of_decide_eq_false (Table.find?_none hnone hreceipt)
      exact hother hkey

theorem mutateStore_counts {site : Site} {access : Access} {call : StoreCall} {st : State}
    {store : Option Vault} {receipt : KeyValueMutationReceipt}
    (h : mutateStore terms site access call = .ok (st, store, .ok (receipt, false))) :
    terms.snapshot.keyValueStoreCapability ≠ none ∧
      ¬ Replay (e := e) site.store call.payload := by
  simp only [mutateStore, LeaseTerms.under, underLease, bind_ok, pure_ok, Prod.mk.injEq] at h
  obtain ⟨_, -, _, -, ⟨run, capability⟩, hcontext, -, hmutated⟩ := h
  obtain ⟨-, -, _, -, hgranted, -⟩ := workerRunContext_ok.1 hcontext
  refine ⟨granted_stored hgranted, fun hreplay => ?_⟩
  unfold mutateWorkerKeyValueRecord at hmutated
  cases hvalid : validateKvMutation e.toValueCodec call.payload with
  | error failure =>
    rw [hvalid] at hmutated
    cases hmutated
  | ok v =>
    obtain ⟨vault, hvault, id, found, hfound, hkey⟩ := hreplay v hvalid
    rw [hvalid, hvault] at hmutated
    simp only [Prod.mk.injEq] at hmutated
    cases hagain : validateKvMutation e.toValueCodec v.request with
    | error failure => simp [KeyValueVaults.mutateRecord, hagain] at hmutated
    | ok v' =>
      have hkey' := hkey.trans (normalized_key hvalid hagain).symm
      exact receipt_replays hagain hfound hkey' (Prod.ext rfl hmutated.2)

theorem mutations_within {site : Site} {access : Access} {call : StoreCall} {st : State}
    {store : Option Vault} {receipt : KeyValueMutationReceipt} {replayed : Bool}
    (h : mutateStore terms site access call = .ok (st, store, .ok (receipt, replayed)))
    (hbounded : Bounded terms site) (hwithin : Within terms site (.call access (.mutateRecord call))) :
    (if replayed then site.mutations else site.mutations + 1) ≤ terms.maxMutations := by
  cases replayed with
  | true => exact hbounded.mutations
  | false =>
    obtain ⟨hcapability, hnew⟩ := mutateStore_counts h
    rcases hwithin with hnone | hroom | hreplay
    · exact absurd hnone hcapability
    · exact hroom
    · exact absurd hreplay hnew

end Mutations

section Runs
variable {e : Encoding} {terms : LeaseTerms e}

theorem Bounded.step {site : Site} {op : Op} (h : Bounded terms site) (hwithin : Within terms site op) :
    Bounded terms (step terms site op) := by
  cases op with
  | other execution queue store => exact ⟨h.claims, h.mutations⟩
  | call access call =>
    cases call with
    | claimQueueRequest payload claimToken =>
      simp only [CapabilityBounds.step]
      split
      next st rows claimed hclaimed => exact ⟨claims_within hclaimed h hwithin, h.mutations⟩
      next => exact h
    | completeQueueRequest payload =>
      simp only [CapabilityBounds.step]
      split
      · exact ⟨h.claims, h.mutations⟩
      · exact h
    | readRecords payload => exact ⟨h.claims, h.mutations⟩
    | mutateRecord call =>
      simp only [CapabilityBounds.step]
      split
      next st store receipt replayed hmutated =>
        exact ⟨h.claims, mutations_within hmutated h hwithin⟩
      next => exact ⟨h.claims, h.mutations⟩
      next => exact h
    | updateStatus report => exact ⟨h.claims, h.mutations⟩
    | renew extendSeconds => exact ⟨h.claims, h.mutations⟩

end Runs

/-- As long as every call finds room under its bound or has nothing to count, the bounds stand. -/
theorem capability_bounds {e : Encoding} (terms : LeaseTerms e) (execution : State)
    (queue : Option RequestQueues.Rows) (store : Option Vault) (ops : List Op)
    (h : Along (step terms) (Within terms) (newSite execution queue store) ops) :
    ∀ before after, ops = before ++ after →
      Bounded terms (exec (step terms) (newSite execution queue store) before) := by
  rintro before after rfl
  have hstart : Bounded terms (newSite execution queue store) := ⟨Nat.zero_le _, Nat.zero_le _⟩
  have hbefore := ((along_append (step terms) _ before after).1 h).1
  exact along_invariant (step terms) (fun _ _ hbounded hwithin => hbounded.step hwithin) before _
    hstart hbefore

theorem getElem?_of_idxOf? {documents : List Json} {document : Json} {place : ℕ}
    (h : documents.idxOf? document = some place) : documents[place]? = some document := by
  obtain ⟨hlt, heq, -⟩ := List.idxOf?_eq_some_iff.1 h
  rw [List.getElem?_eq_getElem hlt, heq]

/-- A codec for a list of documents, which are told by their places in it. -/
def listCodec (documents : List Json) : KeyValueProtocol.ValueCodec where
  canonicalJsonBytes := fun document => (documents.idxOf? document).map (List.replicate · 0)
  sha256 := fun bytes => String.ofList (List.replicate bytes.length '#')
  parseJson := fun bytes => (documents[bytes.length]?).map KeyValueProtocol.sorted
  encodeUtf8 := fun _ => none
  decodeUtf8 := fun _ => none
  b64decode := fun text => if text = "" then some [] else none
  b64encode := fun _ => ""
  parse_canonical := fun document bytes h => by
    obtain ⟨place, hplace, rfl⟩ := Option.map_eq_some_iff.1 h
    rw [List.length_replicate, getElem?_of_idxOf? hplace]
    rfl
  decode_encode := KeyValueProtocol.undecoded
  digest_eq := fun document document' bytes bytes' h h' hdigest => by
    obtain ⟨place, hplace, rfl⟩ := Option.map_eq_some_iff.1 h
    obtain ⟨place', hplace', rfl⟩ := Option.map_eq_some_iff.1 h'
    have hlength := congrArg String.length hdigest
    simp only [String.length_ofList, List.length_replicate] at hlength
    subst hlength
    have hsame := (getElem?_of_idxOf? hplace).symm.trans (getElem?_of_idxOf? hplace')
    rw [Option.some.inj hsame]

def setRecord (key : String) : Json :=
  .object [("schema_version", .text KeyValueProtocol.schemaVersion), ("idempotency_key", .text key),
    ("operation", .text "set"), ("key", .text "page"), ("expected_version", .null),
    ("content_type", .text "application/octet-stream"), ("encoding", .text "base64"),
    ("value", .text "")]

def setKeys : List String := ["a", "b", "c", "d", "e"]

def setCodec : KeyValueProtocol.ValueCodec := listCodec (setKeys.map setRecord)

theorem setIntent_ok : (smallIntent setCodec).isOk = true := by
  decide +kernel

def setRun : CreatedRun (smallEncoding setCodec) smallVersion where
  settings := smallSettings setCodec
  rows := smallRows _
  request := queueRequest
  intent := okValue _ setIntent_ok
  created := okValue_eq _ setIntent_ok

def setWorkload : Workload (smallEncoding setCodec) :=
  .start smallVersion 3 setRun (some (.object []))

theorem setClaim_ok :
    (claimSnapshot (smallSettings setCodec) smallWorker setWorkload.payload).isOk = true := by
  decide +kernel

def smallTerms : LeaseTerms (smallEncoding setCodec) where
  settings := smallSettings setCodec
  deployment := plainDeployment
  supply := ⟨id, Function.injective_id⟩
  leaseId := 10
  name := smallWorker.name
  sandboxExecutionEnabled := smallWorker.sandboxExecutionEnabled
  sandboxAttestationDigest := smallWorker.sandboxAttestationDigest
  snapshot := okValue _ setClaim_ok
  issued := ⟨smallSettings setCodec, smallWorker, setWorkload, okValue_eq _ setClaim_ok⟩

def queuedRequest (url : String) : RequestQueueRequest :=
  pendingRequest ⟨url, url, url, url, none, .null, 0, 0, 0⟩

/-- Two requests are pending, and there is no store yet. -/
def smallSite : Site :=
  newSite smallState
    (some ⟨⟨2, 0, 0, 0⟩, ⟨[(20, queuedRequest "a"), (21, queuedRequest "b")], by decide⟩, .empty, []⟩)
    none

def smallAccess : Access := ⟨⟨4, "worker", 1⟩, "lease", 1⟩

def claimNext (claimToken : Uuid) : Op :=
  .call smallAccess (.claimQueueRequest (.object [("queue_id", .text (strokes 2))]) claimToken)

def setNext (key : String) : Op := .call smallAccess (.mutateRecord ⟨setRecord key, none, false⟩)

/-- One claim and one mutation. -/
theorem small_bounded :
    Bounded smallTerms (exec (step smallTerms) smallSite [claimNext 30, setNext "a"]) := by
  have hclaim : smallSite.claims < smallTerms.maxClaims := by
    decide +kernel
  have hset : (step smallTerms smallSite (claimNext 30)).mutations < smallTerms.maxMutations := by
    decide +kernel
  exact capability_bounds smallTerms _ _ _ [claimNext 30, setNext "a"]
    ⟨.inr (.inl hclaim), .inr (.inl hset), trivial⟩ _ [] rfl

/-- A second request is claimed, and a fifth record is set. -/
theorem bounds_exceeded :
    (smallTerms.maxClaims = 1 ∧
      (exec (step smallTerms) smallSite [claimNext 30, claimNext 31]).claims = 2) ∧
    (smallTerms.maxMutations = 4 ∧
      (exec (step smallTerms) smallSite (setKeys.map setNext)).mutations = 5) := by
  decide +kernel

end RoozDataCloud.CapabilityBounds
