import ResearchPlatform.Agents.Provenance
import ResearchPlatform.Application.TenantStores
import ResearchPlatform.Mcp.Registry

/-!
# The routes

`create_job`, up to the start of a workflow, `add_evidence`, and the routes that
read what a job has stored and published.
-/

namespace ResearchPlatform

open Foundation

/-- `RequestIdentity`. -/
structure RequestIdentity where
  tenantId : String
  requesterId : String
  roles : Finset Role := {.requester}
  clearance : AccessClass := .publicClass

/-- How a request ends that is not answered: with an `HTTPException`, or with an
error the route does not catch. -/
inductive RouteError where
  | http (statusCode : Nat) (detail : String)
  | uncaught (error : ServiceError)
  | uncaughtArtifact (error : ArtifactError)
  deriving DecidableEq

namespace Routes

/-- `require_clearance`. -/
def requireClearance (identity : RequestIdentity) (needed : AccessClass)
    (what : String) : Except RouteError Unit :=
  if !clearanceCovers identity.clearance needed then
    .error (.http 403 (what ++ " draws on " ++ needed.value ++ " sources, which your " ++
      identity.clearance.value ++ " clearance does not cover"))
  else
    .ok ()

/-- `create_job`: the job is given the requester's own clearance. -/
def createJob (repository : InMemoryJobRepository) (identity : RequestIdentity)
    (command : ResearchJobCreate) (id : UUID) (now : Timestamp) :
    ResearchJob × InMemoryJobRepository :=
  ResearchJobService.create repository identity.tenantId identity.requesterId command
    identity.clearance id now

/-- `add_evidence`. -/
def addEvidence (python : PythonText) (repository : InMemoryJobRepository)
    (identity : RequestIdentity) (jobId : UUID) (command : EvidenceRecordCreate)
    (id : UUID) (now : Timestamp) :
    Except RouteError (EvidenceRecord × InMemoryJobRepository) := do
  if command.contentHash ≠ python.hashContent command.excerpt.val then
    throw (.http 422 "content_hash is not the hash of the excerpt")
  else
    requireClearance identity command.accessClass "this evidence"
    let unverified : EvidenceRecordCreate := { command with trustLevel := .unverified }
    match ResearchJobService.addEvidence repository identity.tenantId jobId unverified id
        now with
    | .ok stored => return stored
    | .error (.jobNotFound _) => throw (.http 404 "research job not found")
    | .error error => throw (.uncaught error)

section Attached

variable {python : PythonText} {repository updated : InMemoryJobRepository}
  {identity : RequestIdentity} {jobId id : UUID} {command : EvidenceRecordCreate}
  {now : Timestamp} {record : EvidenceRecord}

/-- What is attached is stored as it was sent, but for its trust. -/
theorem stored_of_addEvidence
    (adds : addEvidence python repository identity jobId command id now =
      .ok (record, updated)) :
    command.contentHash = python.hashContent command.excerpt.val ∧
      record = ⟨{ command with trustLevel := .unverified }, id, jobId, identity.tenantId,
        now⟩ ∧
      updated = repository.appendEvidence record := by
  unfold addEvidence at adds
  split at adds
  · cases adds
  · rename_i sameHash
    obtain ⟨_, -, adds⟩ := bind_eq_ok.mp adds
    dsimp only at adds
    split at adds
    · rename_i stored added
      cases adds
      exact ⟨not_not.mp sameHash, ResearchJobService.eq_of_addEvidence added⟩
    · cases adds
    · cases adds

/-- Evidence that is attached carries the hash of its own excerpt. -/
theorem eq_of_addEvidence
    (adds : addEvidence python repository identity jobId command id now =
      .ok (record, updated)) :
    record.contentHash = python.hashContent record.excerpt.val ∧
      updated = repository.appendEvidence record := by
  obtain ⟨sameHash, rfl, appended⟩ := stored_of_addEvidence adds
  exact ⟨sameHash, appended⟩

end Attached

/-! ## Reading -/

/-- The answer of the service, where the route turns a missing job into a 404. -/
def found {Value : Type} : Except ServiceError Value → Except RouteError Value
  | .ok value => .ok value
  | .error (.jobNotFound _) => .error (.http 404 "research job not found")
  | .error error => .error (.uncaught error)

/-- A list as a route returns it, with the `X-Withheld-Count` header. -/
structure Listing (Item : Type) where
  readable : List Item
  withheld : Nat

/-- The items the route shows, and how many it holds back. -/
def listing {Item : Type} (isReadable : Item → Bool) (items : List Item) :
    Listing Item where
  readable := items.filter isReadable
  withheld := items.length - (items.filter isReadable).length

/-- `list_evidence`. -/
def listEvidence (repository : InMemoryJobRepository) (identity : RequestIdentity)
    (jobId : UUID) : Except RouteError (Listing EvidenceRecord) := do
  let evidence ← found (repository.listEvidence identity.tenantId jobId)
  return listing (clearanceCovers identity.clearance ·.accessClass) evidence

/-- `list_findings`: a finding that touches a hidden record is hidden. -/
def listFindings (repository : InMemoryJobRepository) (identity : RequestIdentity)
    (jobId : UUID) : Except RouteError (Listing FindingRecord) := do
  let findings ← found (repository.listFindings identity.tenantId jobId)
  let evidence ← found (repository.listEvidence identity.tenantId jobId)
  let hidden :=
    (evidence.filter (!clearanceCovers identity.clearance ·.accessClass)).map (·.id)
  return listing (fun finding =>
    (finding.supportingEvidenceIds ++ finding.contradictingEvidenceIds).all (· ∉ hidden))
      findings

/-- `classification_of`: as sensitive as the capability that was called. -/
def classificationOf (registry : CapabilityRegistry) (call : ToolInvocation) :
    AccessClass :=
  match registry.get call.mcpServer call.capability with
  | .ok capability => capability.maxAccessClass
  | .error _ => .restricted

/-- `list_invocations`. -/
def listInvocations (registry : CapabilityRegistry) (repository : InMemoryJobRepository)
    (identity : RequestIdentity) (jobId : UUID) :
    Except RouteError (Listing ToolInvocation) := do
  let trail ← found (ResearchJobService.listInvocations repository identity.tenantId jobId)
  return listing (clearanceCovers identity.clearance <| classificationOf registry ·) trail

/-- `published`. -/
def published (repository : InMemoryJobRepository) (identity : RequestIdentity)
    (jobId : UUID) : Except RouteError ReportPublication := do
  match ← found (repository.getPublication identity.tenantId jobId) with
  | some publication => return publication
  | none => throw (.http 404 "this research job has not published a report")

/-- `stored`; a deployment may have no artifact store. -/
def stored (artifacts : Option InMemoryArtifactStore) (identity : RequestIdentity)
    (name : String) : Except RouteError (List UInt8) :=
  match artifacts with
  | none => .error (.http 503 "no artifact store is configured")
  | some store =>
      match store.get identity.tenantId name with
      | .ok data => .ok data
      | .error (.notFound _) =>
          .error (.http 404 "the published artifact is no longer stored")
      | .error error => .error (.uncaughtArtifact error)

structure Response where
  content : List UInt8
  mediaType : String
  headers : List (String × String) := []

inductive ReportFormat where
  | json
  | markdown
  deriving DecidableEq

/-- `get_report`. -/
def getReport (repository : InMemoryJobRepository)
    (artifacts : Option InMemoryArtifactStore) (identity : RequestIdentity)
    (jobId : UUID) (format : ReportFormat := .json) : Except RouteError Response := do
  let publication ← published repository identity jobId
  requireClearance identity publication.reportAccessClass "this report"
  let headers :=
    [("X-Report-SHA256", publication.reportSha256.val),
      ("X-Report-Partial", if publication.isPartial then "true" else "false")]
  match format with
  | .markdown =>
      let content ← stored artifacts identity publication.markdownKey
      return ⟨content, "text/markdown; charset=utf-8", headers⟩
  | .json =>
      let content ← stored artifacts identity publication.reportKey
      return ⟨content, "application/json", headers⟩

/-- `get_manifest`. -/
def getManifest (repository : InMemoryJobRepository)
    (artifacts : Option InMemoryArtifactStore) (identity : RequestIdentity)
    (jobId : UUID) : Except RouteError Response := do
  let publication ← published repository identity jobId
  requireClearance identity publication.manifestAccessClass "this manifest"
  let content ← stored artifacts identity publication.manifestKey
  return { content := content, mediaType := "application/json" }

theorem requireClearance_eq_ok_iff {identity : RequestIdentity} {needed : AccessClass}
    {what : String} :
    requireClearance identity needed what = .ok () ↔ needed ≤ identity.clearance := by
  rw [← clearanceCovers_iff]
  unfold requireClearance
  cases clearanceCovers identity.clearance needed <;> simp

end Routes

end ResearchPlatform
