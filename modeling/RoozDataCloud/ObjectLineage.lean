import RoozDataCloud.KeyValueRefinement

set_option autoImplicit false

/-!
# Failures of a mutation

The rows of a store and its objects are written by two systems. A request may fail at any of
its calls: the transaction is then rolled back, and the object is removed if the failure is
an exception that the request sees after its upload.
-/
namespace RoozDataCloud.ObjectLineage
open KeyedTable ExecutionModels FallibleSteps KeyValueStores KeyValueProtocol KeyValueVaults
open KeyValueRefinement (mutate_cases operationOf_tombstone putObject_ne writeVersion_ok)
open Datasets (Json)

structure AuditEvent where
  actorType : String
  actorId : String
  action : String
  resourceId : Uuid
  requestId : String
  recordVersionId : Uuid
  resultVersion : ℕ
  requestDigest : String
  valueSha256 : Option String
  sizeBytes : ℕ

/-- A call raises an exception, or the request is cancelled in it: `except Exception` does not
see a cancellation. -/
inductive Raised where
  | exception
  | cancelled

/-- What becomes of an upload. One that raises may have stored its object. -/
inductive Upload where
  | done
  | raised (stored : Bool)

/-- What becomes of a commit. One that raises may have committed. -/
inductive Commit where
  | done
  | raised (committed : Bool)

def Commit.committed : Commit → Bool
  | done => true
  | raised committed => committed

/-- What goes wrong in a request: in the statements before the upload, in each call after them,
in the answer that the route makes, and in the commit. -/
structure Faults where
  lookup : Bool
  upload : Upload
  flush : Option Raised
  audit : Option Raised
  removed : Bool
  answer : Bool
  commit : Commit

/-- Nothing fails but perhaps the removal of an object. -/
def Faults.none (removed : Bool) : Faults where
  lookup := false
  upload := .done
  flush := .none
  audit := .none
  removed := removed
  answer := false
  commit := .done

structure Attempt where
  payload : Json
  requiredOperation : String
  actorType : String
  actorId : String
  requestId : String
  faults : Faults

/-- The database is the rows with the audit events; the objects are not part of it. -/
structure Shelf where
  vault : Vault
  audit : List AuditEvent

def Shelf.database (shelf : Shelf) : Rows × List AuditEvent := (shelf.vault.rows, shelf.audit)

section Requests
variable (codec : ValueCodec) (supply : Supply) (shelf : Shelf) (attempt : Attempt)

/-- The request that the storage is asked to serve. -/
def Attempt.request (removed : Bool) : Request :=
  ⟨attempt.payload, attempt.requiredOperation, none, !removed⟩

def attempted (v : ValidatedRequest codec) : Mutation :=
  mutationOf codec supply shelf.vault (attempt.request attempt.faults.removed) v

def auditEvent (mutation : Mutation) (receipt : KeyValueMutationReceipt) : AuditEvent where
  actorType := attempt.actorType
  actorId := attempt.actorId
  action := match mutation.validation.operation with
    | .set _ => "kv_record.set"
    | .delete => "kv_record.deleted"
  resourceId := receipt.recordId
  requestId := attempt.requestId
  recordVersionId := mutation.versionId
  resultVersion := receipt.resultVersion
  requestDigest := mutation.validation.requestDigest
  valueSha256 := match mutation.validation.operation with
    | .set value => some value.valueSha256
    | .delete => none
  sizeBytes := mutation.validation.operation.sizeBytes

/-- What is left of a request whose transaction is rolled back. -/
def rolledBack (objects : Uuid × Uuid → Option (List UInt8)) : Shelf :=
  { shelf with vault := { shelf.vault with objects := objects, drawn := shelf.vault.drawn + 3 } }

/-- The handler around the upload and the flush. -/
def handled (uploadedKey : Option (Uuid × Uuid)) (objects : Uuid × Uuid → Option (List UInt8)) :
    Raised → Uuid × Uuid → Option (List UInt8)
  | .exception =>
    match uploadedKey with
    | some key => if attempt.faults.removed then Function.update objects key none else objects
    | none => objects
  | .cancelled => objects

/-- The request after its upload: what is left if it raises, or what its session is to commit. -/
def flushed (v : ValidatedRequest codec) (uploadedKey : Option (Uuid × Uuid))
    (objects : Uuid × Uuid → Option (List UInt8)) : Except Shelf Shelf :=
  let mutation := attempted codec supply shelf attempt v
  match mutateKeyValueRecord shelf.vault.rows mutation with
  | .error _ =>
    if uploadedKey.isSome then
      .error (rolledBack shelf (handled attempt uploadedKey objects .exception))
    else .error shelf
  | .ok (_, _, true) => .ok shelf
  | .ok (rows, receipt, false) =>
    match attempt.faults.flush <|> attempt.faults.audit with
    | some raised => .error (rolledBack shelf (handled attempt uploadedKey objects raised))
    | none =>
      .ok { vault := ⟨rows, objects, shelf.vault.drawn + 3⟩
            audit := shelf.audit ++ [auditEvent attempt mutation receipt] }

def mutateKeyValueRecordWith : Except Shelf Shelf :=
  match validateKvMutation codec attempt.payload with
  | .error _ => .error shelf
  | .ok v =>
    let mutation := attempted codec supply shelf attempt v
    let key := objectKey shelf.vault.rows mutation
    if attempt.faults.lookup then .error shelf
    else if uploads shelf.vault.rows mutation then
      let uploaded := putObject codec shelf.vault.objects key v.content
      match attempt.faults.upload with
      -- The key is noted after the upload, so nothing is removed here.
      | .raised stored => .error (rolledBack shelf (if stored then uploaded else shelf.vault.objects))
      | .done => flushed codec supply shelf attempt v (some key) uploaded
    else flushed codec supply shelf attempt v none shelf.vault.objects

/-- The whole request, with the session of `get_db` around it. -/
def step : Shelf :=
  match mutateKeyValueRecordWith codec supply shelf attempt with
  | .error left => left
  | .ok session =>
    if !attempt.faults.answer && attempt.faults.commit.committed then session
    else
      { shelf with
        vault := { shelf.vault with objects := session.vault.objects, drawn := session.vault.drawn } }

end Requests

def after (codec : ValueCodec) (supply : Supply) (attempts : List Attempt) : Shelf :=
  exec (step codec supply) ⟨newVault, []⟩ attempts

/-- All that a mutation does to the database: its record, version and receipt, the totals of the
store, and its audit event. -/
def FullEffect (codec : ValueCodec) (supply : Supply) (before : Shelf) (attempt : Attempt)
    (database : Rows × List AuditEvent) : Prop :=
  ∃ v rows receipt, validateKvMutation codec attempt.payload = .ok v ∧
    mutateKeyValueRecord before.vault.rows (attempted codec supply before attempt v) =
      .ok (rows, receipt, false) ∧
    database = (rows, before.audit ++
      [auditEvent attempt (attempted codec supply before attempt v) receipt])

/-- Every version that is no tombstone has its object, with the size and digest of its row. -/
def Backed (codec : ValueCodec) (vault : Vault) : Prop :=
  ∀ versionId row value, vault.rows.versions.get? versionId = some row →
    row.operation = .set value →
    ∃ bytes, vault.objects (row.recordId, versionId) = some bytes ∧
      bytes.length = value.decodedBytes ∧ codec.sha256 bytes = value.valueSha256

/-- The identifiers of the versions have been drawn before, so that no later request has their
objects for its own. -/
structure Lineage (codec : ValueCodec) (supply : Supply) (vault : Vault) : Prop where
  backed : Backed codec vault
  drawn : ∀ versionId row, vault.rows.versions.get? versionId = some row →
    ∃ n < vault.drawn, versionId = supply.draw n

section Steps
variable {codec : ValueCodec} {supply : Supply} {shelf : Shelf} {attempt : Attempt}
  {v : ValidatedRequest codec}

/-- The objects differ at most at the version that a request draws. -/
def SameBut (supply : Supply) (vault : Vault) (objects : Uuid × Uuid → Option (List UInt8)) : Prop :=
  ∀ id versionId, versionId ≠ supply.draw (vault.drawn + 1) →
    objects (id, versionId) = vault.objects (id, versionId)

theorem sameBut_put (supply : Supply) (shelf : Shelf) (v : ValidatedRequest codec) (id : Uuid) :
    SameBut supply shelf.vault
      (putObject codec shelf.vault.objects (id, supply.draw (shelf.vault.drawn + 1)) v.content) := by
  intro id' versionId hne
  exact putObject_ne (fun heq => hne (Prod.mk.inj heq).2)

theorem sameBut_handled {objects : Uuid × Uuid → Option (List UInt8)}
    (h : SameBut supply shelf.vault objects) {uploadedKey : Option (Uuid × Uuid)}
    (hkey : ∀ key ∈ uploadedKey, key.2 = supply.draw (shelf.vault.drawn + 1)) (raised : Raised) :
    SameBut supply shelf.vault (handled attempt uploadedKey objects raised) := by
  intro id versionId hne
  cases raised with
  | cancelled => exact h id versionId hne
  | exception =>
    cases uploadedKey with
    | none => exact h id versionId hne
    | some key =>
      have hother : (id, versionId) ≠ key := fun heq => hne (by rw [← hkey key rfl, ← heq])
      simp only [handled]
      split
      · rw [Function.update_of_ne hother]
        exact h id versionId hne
      · exact h id versionId hne

theorem Lineage.other (hl : Lineage codec supply shelf.vault) {versionId : Uuid}
    {row : KeyValueRecordVersion} (hget : shelf.vault.rows.versions.get? versionId = some row) :
    versionId ≠ supply.draw (shelf.vault.drawn + 1) := by
  obtain ⟨n, hn, rfl⟩ := hl.drawn versionId row hget
  intro heq
  have := supply.injective heq
  omega

theorem Lineage.rolledBack {objects : Uuid × Uuid → Option (List UInt8)}
    (hl : Lineage codec supply shelf.vault) (h : SameBut supply shelf.vault objects) :
    Lineage codec supply (rolledBack shelf objects).vault := by
  refine ⟨fun versionId row value hget hset => ?_, fun versionId row hget => ?_⟩
  · obtain ⟨bytes, hobject, hbytes⟩ := hl.backed versionId row value hget hset
    exact ⟨bytes, (h row.recordId versionId (hl.other hget)).trans hobject, hbytes⟩
  · obtain ⟨n, hn, hdrawn⟩ := hl.drawn versionId row hget
    exact ⟨n, Nat.lt_add_right 3 hn, hdrawn⟩

theorem attempted_tombstone :
    (attempted codec supply shelf attempt v).validation.operation.tombstone = v.content.isNone :=
  operationOf_tombstone v.content

theorem uploads_written {rows rows' : Rows} {mutation : Mutation}
    {receipt : KeyValueMutationReceipt}
    (hrun : mutateKeyValueRecord rows mutation = .ok (rows', receipt, false)) :
    uploads rows mutation = !mutation.validation.operation.tombstone := by
  rcases mutate_cases hrun with ⟨hfalse, -⟩ | ⟨-, hnone, -⟩
  · cases hfalse
  simp only [mutateKeyValueRecord, hnone, writeMutation, bind_ok, require_ok, pure_ok] at hrun
  obtain ⟨-, hname, _, ⟨⟨⟩, hversion, projection, hproject, ⟨⟩, hstored, -⟩, -⟩ := hrun
  have hchecks : (do
      enforceExpectedVersion mutation.validation ((findRecord mutation rows.records).map Prod.snd)
      let _ ← project rows.store ((findRecord mutation rows.records).map Prod.snd)
        mutation.validation.operation
      storeObject mutation : Except Failure Unit) = .ok () :=
    bind_ok.2 ⟨(), hversion, bind_ok.2 ⟨projection, hproject, hstored⟩⟩
  simp only [uploads, hname, hnone, hchecks, Option.isNone_none, Except.isOk, Except.toBool,
    decide_true, Bool.true_and]

theorem Lineage.written {rows : Rows} {receipt : KeyValueMutationReceipt}
    (hl : Lineage codec supply shelf.vault)
    (hrun : mutateKeyValueRecord shelf.vault.rows (attempted codec supply shelf attempt v) =
      .ok (rows, receipt, false)) :
    Lineage codec supply
      ⟨rows, putObject codec shelf.vault.objects
        (objectKey shelf.vault.rows (attempted codec supply shelf attempt v)) v.content,
        shelf.vault.drawn + 3⟩ := by
  rcases mutate_cases hrun with ⟨hfalse, -⟩ | ⟨-, -, -, -, hversions, -⟩
  · cases hfalse
  obtain ⟨-, hinsert⟩ := writeVersion_ok hversions
  have hget := Table.get?_insert hinsert
  refine ⟨fun versionId row value hrow hset => ?_, fun versionId row hrow => ?_⟩
  · rw [hget] at hrow
    split at hrow
    next heq =>
      obtain rfl := heq
      obtain rfl := Option.some.inj hrow
      cases hcontent : v.content with
      | none =>
        have hdelete : operationOf codec v.content = .set value := hset
        rw [hcontent] at hdelete
        cases hdelete
      | some content =>
        have hstored : operationOf codec v.content = .set value := hset
        rw [hcontent] at hstored
        obtain rfl : content.stored = value := Operation.set.inj hstored
        exact ⟨content.bytes, Function.update_self _ _ _, rfl, rfl⟩
    next hne =>
      obtain ⟨bytes, hobject, hbytes⟩ := hl.backed versionId row value hrow hset
      refine ⟨bytes, ?_, hbytes⟩
      exact (sameBut_put supply shelf v _ row.recordId versionId (hl.other hrow)).trans hobject
  · rw [hget] at hrow
    split at hrow
    next heq => exact ⟨shelf.vault.drawn + 1, by simp, heq⟩
    next hne =>
      obtain ⟨n, hn, hdrawn⟩ := hl.drawn versionId row hrow
      exact ⟨n, Nat.lt_add_right 3 hn, hdrawn⟩

/-- What a request leaves that writes all it has to. -/
def writtenShelf (codec : ValueCodec) (supply : Supply) (shelf : Shelf) (attempt : Attempt)
    (v : ValidatedRequest codec) (rows : Rows) (receipt : KeyValueMutationReceipt) : Shelf where
  vault := ⟨rows, putObject codec shelf.vault.objects
    (objectKey shelf.vault.rows (attempted codec supply shelf attempt v)) v.content,
    shelf.vault.drawn + 3⟩
  audit := shelf.audit ++ [auditEvent attempt (attempted codec supply shelf attempt v) receipt]

/-- The request leaves everything, or the rows and all objects but its own, or it writes. -/
inductive Ended (codec : ValueCodec) (supply : Supply) (shelf : Shelf) (attempt : Attempt) :
    Shelf → Prop where
  | same : Ended codec supply shelf attempt shelf
  | rolledBack (objects : Uuid × Uuid → Option (List UInt8)) :
      SameBut supply shelf.vault objects → Ended codec supply shelf attempt (rolledBack shelf objects)
  | written (v : ValidatedRequest codec) (rows : Rows) (receipt : KeyValueMutationReceipt) :
      validateKvMutation codec attempt.payload = .ok v →
      mutateKeyValueRecord shelf.vault.rows (attempted codec supply shelf attempt v) =
        .ok (rows, receipt, false) →
      Ended codec supply shelf attempt
        (writtenShelf codec supply shelf attempt v rows receipt)

/-- What the call of the mutation comes to: the shelf that is left if it raises, or the one to
commit, which is as it was for a replay. -/
inductive Called (codec : ValueCodec) (supply : Supply) (shelf : Shelf) (attempt : Attempt) :
    Except Shelf Shelf → Prop where
  | refused : Called codec supply shelf attempt (.error shelf)
  | failed (objects : Uuid × Uuid → Option (List UInt8)) :
      SameBut supply shelf.vault objects →
      Called codec supply shelf attempt (.error (rolledBack shelf objects))
  | replayed : Called codec supply shelf attempt (.ok shelf)
  | written (v : ValidatedRequest codec) (rows : Rows) (receipt : KeyValueMutationReceipt) :
      validateKvMutation codec attempt.payload = .ok v →
      mutateKeyValueRecord shelf.vault.rows (attempted codec supply shelf attempt v) =
        .ok (rows, receipt, false) →
      Called codec supply shelf attempt (.ok (writtenShelf codec supply shelf attempt v rows receipt))

theorem flushed_called {uploadedKey : Option (Uuid × Uuid)}
    {objects : Uuid × Uuid → Option (List UInt8)}
    (hvalid : validateKvMutation codec attempt.payload = .ok v)
    (hsame : SameBut supply shelf.vault objects)
    (hkey : ∀ key ∈ uploadedKey, key.2 = supply.draw (shelf.vault.drawn + 1))
    (hobjects : ∀ rows receipt,
      mutateKeyValueRecord shelf.vault.rows (attempted codec supply shelf attempt v) =
        .ok (rows, receipt, false) →
      objects = putObject codec shelf.vault.objects
        (objectKey shelf.vault.rows (attempted codec supply shelf attempt v)) v.content) :
    Called codec supply shelf attempt (flushed codec supply shelf attempt v uploadedKey objects) := by
  unfold flushed
  dsimp only
  cases hrun : mutateKeyValueRecord shelf.vault.rows (attempted codec supply shelf attempt v) with
  | error e =>
    dsimp only
    split
    · exact .failed _ (sameBut_handled hsame hkey .exception)
    · exact .refused
  | ok result =>
    obtain ⟨rows, receipt, replayed⟩ := result
    cases replayed with
    | true => exact .replayed
    | false =>
      dsimp only
      split
      next raised _ => exact .failed _ (sameBut_handled hsame hkey raised)
      next =>
        rw [hobjects rows receipt hrun]
        exact .written v rows receipt hvalid hrun

theorem mutate_called (codec : ValueCodec) (supply : Supply) (shelf : Shelf) (attempt : Attempt) :
    Called codec supply shelf attempt (mutateKeyValueRecordWith codec supply shelf attempt) := by
  unfold mutateKeyValueRecordWith
  cases hvalid : validateKvMutation codec attempt.payload with
  | error e => exact .refused
  | ok v =>
    have hput := sameBut_put supply shelf v
    dsimp only
    split
    · exact .refused
    split
    next hup =>
      split
      next stored _ =>
        refine .failed _ ?_
        split
        · exact hput _
        · exact fun _ _ _ => rfl
      next =>
        refine flushed_called hvalid (hput _) ?_ (fun _ _ _ => rfl)
        rintro key ⟨⟩
        rfl
    next hup =>
      refine flushed_called hvalid (fun _ _ _ => rfl) (fun _ h => nomatch h) ?_
      intro rows receipt hrun
      -- Without an upload the mutation is a delete, which has no content.
      rw [uploads_written hrun, attempted_tombstone] at hup
      cases hcontent : v.content with
      | none => rfl
      | some content =>
        rw [hcontent] at hup
        exact absurd rfl hup

theorem step_ended (codec : ValueCodec) (supply : Supply) (shelf : Shelf) (attempt : Attempt) :
    Ended codec supply shelf attempt (step codec supply shelf attempt) := by
  unfold step
  generalize hcall : mutateKeyValueRecordWith codec supply shelf attempt = outcome
  have hcalled := mutate_called codec supply shelf attempt
  rw [hcall] at hcalled
  cases hcalled with
  | refused => exact .same
  | failed objects hsame => exact .rolledBack objects hsame
  | replayed =>
    dsimp only
    split <;> exact .same
  | written v rows receipt hvalid hrun =>
    dsimp only
    split
    · exact .written v rows receipt hvalid hrun
    · exact .rolledBack _ (sameBut_put supply shelf v _)

theorem Lineage.step (hl : Lineage codec supply shelf.vault) (attempt : Attempt) :
    Lineage codec supply (step codec supply shelf attempt).vault := by
  generalize hstep : ObjectLineage.step codec supply shelf attempt = left
  have hended := step_ended codec supply shelf attempt
  rw [hstep] at hended
  cases hended with
  | same => exact hl
  | rolledBack objects hsame => exact hl.rolledBack hsame
  | written v rows receipt _ hrun => exact hl.written hrun

theorem lineage_after (codec : ValueCodec) (supply : Supply) (attempts : List Attempt) :
    Lineage codec supply (after codec supply attempts).vault := by
  have hnew : Lineage codec supply newVault :=
    ⟨fun _ _ _ hget => (nomatch hget), fun _ _ hget => (nomatch hget)⟩
  exact exec_invariant (step codec supply) (P := fun shelf : Shelf => Lineage codec supply shelf.vault)
    (fun _ attempt hl => hl.step attempt) attempts ⟨newVault, []⟩ hnew

theorem step_database (codec : ValueCodec) (supply : Supply) (shelf : Shelf) (attempt : Attempt) :
    (step codec supply shelf attempt).database = shelf.database ∨
      FullEffect codec supply shelf attempt (step codec supply shelf attempt).database := by
  generalize hstep : step codec supply shelf attempt = left
  have hended := step_ended codec supply shelf attempt
  rw [hstep] at hended
  cases hended with
  | same => exact .inl rfl
  | rolledBack objects _ => exact .inl rfl
  | written v rows receipt hvalid hrun => exact .inr ⟨v, rows, receipt, hvalid, hrun, rfl⟩

end Steps

section Faultless
variable {codec : ValueCodec} {supply : Supply} {shelf : Shelf} {attempt : Attempt} {removed : Bool}

theorem handled_put {v : ValidatedRequest codec} (key : Uuid × Uuid) :
    handled attempt (some key) (putObject codec shelf.vault.objects key v.content) .exception =
      (cleanedUp codec shelf.vault (attempt.request attempt.faults.removed) v key).objects := by
  cases hremoved : attempt.faults.removed with
  | false => simp [handled, cleanedUp, Attempt.request, hremoved]
  | true =>
    cases hcontent : v.content <;>
      simp [handled, cleanedUp, Attempt.request, hremoved, putObject]

theorem flushed_quiet (hfaults : attempt.faults = .none removed) (v : ValidatedRequest codec)
    (uploadedKey : Option (Uuid × Uuid)) (objects : Uuid × Uuid → Option (List UInt8)) :
    flushed codec supply shelf attempt v uploadedKey objects =
      match mutateKeyValueRecord shelf.vault.rows (attempted codec supply shelf attempt v) with
      | .error _ =>
        if uploadedKey.isSome then
          .error (rolledBack shelf (handled attempt uploadedKey objects .exception))
        else .error shelf
      | .ok (_, _, true) => .ok shelf
      | .ok (rows, receipt, false) =>
        .ok { vault := ⟨rows, objects, shelf.vault.drawn + 3⟩
              audit := shelf.audit ++
                [auditEvent attempt (attempted codec supply shelf attempt v) receipt] } := by
  unfold flushed
  rw [hfaults]
  rfl

/-- Where nothing fails but perhaps the removal of an object, the request is served as by a store
whose storage answers every upload. -/
theorem step_faultless (hfaults : attempt.faults = .none removed) :
    (step codec supply shelf attempt).vault =
      KeyValueVaults.step codec supply shelf.vault (attempt.request removed) := by
  have hanswer : (!attempt.faults.answer && attempt.faults.commit.committed) = true := by
    rw [hfaults]
    rfl
  have hrequest : attempt.request removed = attempt.request attempt.faults.removed := by
    rw [hfaults]
    rfl
  unfold step KeyValueVaults.step
  rw [hrequest]
  unfold mutateKeyValueRecordWith mutateRecord
  rw [show (attempt.request attempt.faults.removed).payload = attempt.payload from rfl]
  cases hvalid : validateKvMutation codec attempt.payload with
  | error e => rfl
  | ok v =>
    have hsame : mutationOf codec supply shelf.vault (attempt.request attempt.faults.removed) v =
        attempted codec supply shelf attempt v := rfl
    have hlookup : attempt.faults.lookup = false := by rw [hfaults]; rfl
    have hupload : attempt.faults.upload = .done := by rw [hfaults]; rfl
    simp only [hsame, hlookup, hupload, hanswer, flushed_quiet hfaults]
    cases hrun : mutateKeyValueRecord shelf.vault.rows (attempted codec supply shelf attempt v) with
    | error e =>
      by_cases hup : uploads shelf.vault.rows (attempted codec supply shelf attempt v) = true
      · simp only [hup, rolledBack, handled_put, Option.isSome_some, if_true]
        rfl
      · simp [hup]
    | ok result =>
      obtain ⟨rows, receipt, replayed⟩ := result
      cases replayed with
      | true => simp
      | false =>
        cases hcontent : v.content with
        | none => simp [putObject]
        | some content =>
          have hup : uploads shelf.vault.rows (attempted codec supply shelf attempt v) = true := by
            rw [uploads_written hrun, attempted_tombstone, hcontent]
            rfl
          simp [hup]

end Faultless

/-- After any attempts, each of which may fail anywhere: a further attempt leaves the database as
it was or with the full effect of its mutation, every version that is no tombstone has its object
with its size and digest, and an attempt that nothing goes wrong in is served. -/
theorem mutation_atomic (codec : ValueCodec) (supply : Supply) (past : List Attempt)
    (attempt : Attempt) :
    ((step codec supply (after codec supply past) attempt).database =
        (after codec supply past).database ∨
      FullEffect codec supply (after codec supply past) attempt
        (step codec supply (after codec supply past) attempt).database) ∧
    Backed codec (step codec supply (after codec supply past) attempt).vault ∧
    ∀ removed, (step codec supply (after codec supply past)
        { attempt with faults := .none removed }).vault =
      KeyValueVaults.step codec supply (after codec supply past).vault (attempt.request removed) :=
  ⟨step_database codec supply _ attempt, ((lineage_after codec supply past).step attempt).backed,
    fun _ => step_faultless rfl⟩

end RoozDataCloud.ObjectLineage
