import RoozDataCloud.SourceUploads

set_option autoImplicit false

/-!
# The rejection of a source upload

A request that finds the uploaded archive invalid marks the object rejected and
writes the audit row in its session, and then raises. The rollback takes both
back, so the object stays open to later requests.
-/
namespace RoozDataCloud.SourceRejections
open KeyedTable FallibleSteps SourceUploads
open ExecutionModels hiding StorageObject Agent EgressPolicy EgressPolicyRevision

/-- The object can still be completed. -/
def isOpen (record : StorageObject) : Bool :=
  match record.status with
  | .pendingUpload | .quarantined => true
  | .available | .rejected | .deleted => false

/-- Why the request finds the uploaded archive invalid, if it does. -/
def finding (d : Delivery) (r : CompleteRequest) (w : World) : Option SourceArchiveError :=
  match w.db.objects.get? r.storageObjectId with
  | some record =>
    if isOpen record then
      match inspectUpload d r r.storageObjectId record w with
      | .error (.archive e) => some e
      | _ => none
    else none
  | none => none

/-- The request does not find an invalid archive. -/
def Passes (d : Delivery) (w : World) : Op → Prop
  | .complete r => finding d r w = none
  | .put _ _ | .setAgents _ => True

/-- The object is rejected for this reason, and the audit row says so. -/
structure Rejected (d : Delivery) (id : Uuid) (e : SourceArchiveError) (db : Tables) : Prop where
  row : ∃ record, db.objects.get? id = some record ∧ record.status = .rejected ∧
    record.rejectionCode = some e.code
  audit : ∃ event ∈ db.auditEvents, event.action = "storage.source_rejected" ∧
    event.resourceId = some (d.uuidText id) ∧ event.details = [("code", .text e.code)]

def IsAvailable (id : Uuid) (db : Tables) : Prop :=
  ∃ record, db.objects.get? id = some record ∧ record.status = .available

/-- Every request of the run that finds the archive invalid leaves the object rejected for good. -/
def RejectionsDurable (d : Delivery) (w : World) (ops : List Op) : Prop :=
  ∀ before r after, ops = before ++ .complete r :: after →
    ∀ e, finding d r (exec (step d) w before) = some e →
      Rejected d r.storageObjectId e (exec (step d) w (before ++ [.complete r])).db ∧
        ∀ mid rest, after = mid ++ rest →
          ¬ IsAvailable r.storageObjectId (exec (step d) w (before ++ .complete r :: mid)).db

section Requests
variable {d : Delivery} {r : CompleteRequest} {w : World} {e : SourceArchiveError}

/-- A finding in full: the handler has marked the object and written the audit row when it
raises. -/
theorem finding_raises (h : finding d r w = some e) :
    ∃ record w', w.db.objects.get? r.storageObjectId = some record ∧ isOpen record = true ∧
      completeSourceUpload d r w = .error (apiError 422 e.code e.message) w' ∧
      Rejected d r.storageObjectId e w'.db := by
  unfold finding at h
  cases hget : w.db.objects.get? r.storageObjectId with
  | none =>
    rw [hget] at h
    cases h
  | some record =>
    rw [hget] at h
    dsimp only at h
    split_ifs at h with hopen
    cases hinspect : inspectUpload d r r.storageObjectId record w with
    | ok found =>
      rw [hinspect] at h
      cases h
    | error error =>
      rw [hinspect] at h
      cases error with
      | backend fault => cases h
      | archive found =>
        obtain rfl := Option.some.inj h
        refine ⟨record, rejectUpload d r record found
          { w with bucket := landed r record.objectKey w.bucket }, rfl, hopen, ?_, ?_, ?_⟩
        · unfold isOpen at hopen
          cases hstatus : record.status with
          | pendingUpload => simp only [completeSourceUpload, hget, hstatus, hinspect]
          | quarantined => simp only [completeSourceUpload, hget, hstatus, hinspect]
          | available => rw [hstatus] at hopen; cases hopen
          | rejected => rw [hstatus] at hopen; cases hopen
          | deleted => rw [hstatus] at hopen; cases hopen
        · refine ⟨rejected r.now found record, ?_, rfl, rfl⟩
          simp only [rejectUpload, Table.get?_modify_self, hget, Option.map_some]
        · exact ⟨_, List.mem_append_right _ (List.mem_singleton.2 rfl), rfl, rfl, rfl⟩

theorem finding_rolled_back (h : finding d r w = some e) : (step d w (.complete r)).db = w.db := by
  obtain ⟨record, w', -, -, hraises, -⟩ := finding_raises h
  simp only [step, getDb, hraises]

theorem not_rejected_after (h : finding d r w = some e) :
    ¬ Rejected d r.storageObjectId e (step d w (.complete r)).db := by
  rw [finding_rolled_back h]
  intro hrejected
  obtain ⟨record, -, hget, hopen, -, -⟩ := finding_raises h
  obtain ⟨record', hget', hstatus, -⟩ := hrejected.row
  obtain rfl := Option.some.inj (hget.symm.trans hget')
  rw [isOpen, hstatus] at hopen
  cases hopen

end Requests

/-- Rejections are durable in the runs in which no request rejects anything, and in no others. -/
theorem rejections_durable_iff (d : Delivery) (w : World) (ops : List Op) :
    RejectionsDurable d w ops ↔ Along (step d) (Passes d) w ops := by
  rw [along_iff]
  constructor
  · intro hdurable before op after hops
    cases op with
    | put key object => trivial
    | setAgents agents => trivial
    | complete r =>
      cases hfinding : finding d r (exec (step d) w before) with
      | none => exact hfinding
      | some e =>
        obtain ⟨hrejected, -⟩ := hdurable before r after hops e hfinding
        rw [exec_append, exec_cons, exec_nil] at hrejected
        exact absurd hrejected (not_rejected_after hfinding)
  · intro hpasses before r after hops e hfinding
    have hnone : finding d r (exec (step d) w before) = none := hpasses before (.complete r) after hops
    rw [hnone] at hfinding
    cases hfinding

section Samples

def sampleDelivery : Delivery where
  uuidText := fun id => if id = 5 then "5" else ""
  sha256 := fun content => if content = [1] then "one" else "other"
  sourceArchiveMaxBytes := 33554432
  inspectSourceArchive := fun _ _ => .ok
    { manifest := [], manifestDigest := "manifest", fileCount := 1, expandedSizeBytes := 1,
      compressedSizeBytes := 1, paths := ["agent.json"] }

def pendingObject : StorageObject where
  organizationId := 1
  projectId := 2
  agentId := some 3
  objectKey := "source.zip"
  mediaType := "application/zip"
  expectedSizeBytes := 1
  sizeBytes := none
  expectedSha256Digest := "one"
  sha256Digest := none
  status := .pendingUpload
  scanStatus := .pending
  rejectionCode := none
  metadataJson := []
  uploadedAt := none
  availableAt := none
  rejectedAt := none

def sampleAgent : VersionedResources.Agent where
  organizationId := 1
  projectId := 2
  name := "Agent"
  slug := "agent"
  description := none
  status := .active
  deletedAt := none
  updatedAt := 0
  version := 1

def uploadIntent : World where
  db :=
    { objects := ⟨[(5, pendingObject)], by decide⟩
      grants := .empty
      agents := ⟨[(3, sampleAgent)], by decide⟩
      auditEvents := [] }
  bucket := fun _ => none

def upload (content : List UInt8) : Op :=
  .put "source.zip"
    { contentType := "application/zip"
      metadata := [("rdc-object-id", "5"), ("sha256", "one")]
      content := content }

def completion : CompleteRequest where
  storageObjectId := 5
  actorType := "user"
  actorId := "9"
  requestId := "request"
  now := 1
  headFault := none
  readFault := none
  deleteFault := none
  landing := none

def statusOf (w : World) (id : Uuid) : Option StorageStatus := (w.db.objects.get? id).map (·.status)

/-- An upload with another digest is found invalid and deleted from the bucket; the object stays
pending without an audit row, and the next upload makes it available. -/
theorem rejection_lost :
    (finding sampleDelivery completion
      (exec (step sampleDelivery) uploadIntent [upload [0]])).map (·.code) =
        some "STORAGE_DIGEST_MISMATCH" ∧
      ((exec (step sampleDelivery) uploadIntent [upload [0], .complete completion]).bucket
        "source.zip").isNone = true ∧
      statusOf (exec (step sampleDelivery) uploadIntent [upload [0], .complete completion]) 5 =
        some .pendingUpload ∧
      (exec (step sampleDelivery) uploadIntent
        [upload [0], .complete completion]).db.auditEvents.length = 0 ∧
      statusOf (exec (step sampleDelivery) uploadIntent
        [upload [0], .complete completion, upload [1], .complete completion]) 5 =
        some .available := by
  decide +kernel

end Samples
end RoozDataCloud.SourceRejections
