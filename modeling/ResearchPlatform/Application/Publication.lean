import ResearchPlatform.Agents.Contracts
import ResearchPlatform.Domain.Invocations
import ResearchPlatform.Foundation.Outcome

/-!
# What a finished job publishes

The provenance manifest is built from what the job recorded, and the publication
record points at the artifacts.  `reportJson` is the canonical text of a report,
which the library that defines the contracts renders.
-/

namespace ResearchPlatform

open Foundation

inductive DriftStatus where
  | unchanged
  | drifted
  | unavailable
  | notChecked
  deriving DecidableEq, Repr

/-- The result of looking at one cited source again. -/
structure SourceCheck where
  evidenceId : UUID
  status : DriftStatus
  checkedAt : Timestamp
  detail : Option (BoundedText 500) := none
  deriving DecidableEq

structure ManifestEvidence where
  id : UUID
  sourceUri : NonEmptyText
  title : Option (BoundedText 500)
  author : Option (BoundedText 200)
  publishedAt : Option Timestamp
  retrievedAt : Timestamp
  contentHash : DigestText
  trustLevel : TrustLevel
  accessClass : AccessClass
  producingTaskId : UUID
  toolInvocationId : UUID
  cited : Bool
  drift : DriftStatus
  driftCheckedAt : Option Timestamp
  driftDetail : Option (BoundedText 500)
  deriving DecidableEq

structure ManifestInvocation where
  id : UUID
  mcpServer : String
  capability : String
  argumentDigest : DigestText
  policyVersion : String
  authorizationDecision : AuthorizationDecision
  outcome : InvocationOutcome
  startedAt : Timestamp
  deriving DecidableEq

structure ManifestFinding where
  claim : NonEmptyText
  supportingEvidenceIds : List UUID
  contradictingEvidenceIds : List UUID
  calculationIds : List UUID
  confidence : ℚ
  criticVerdict : CriticVerdict
  reviewerStatus : ReviewerStatus
  deriving DecidableEq

structure ProvenanceManifest where
  schemaVersion : String := "1"
  jobId : UUID
  tenantId : String
  requesterId : String
  question : NonEmptyText
  generatedAt : Timestamp
  reportSha256 : DigestText
  isPartial : Bool
  shortfalls : List String
  findings : List ManifestFinding
  evidence : List ManifestEvidence
  toolInvocations : List ManifestInvocation
  deriving DecidableEq

/-- `ProvenanceManifest.drifted_evidence_ids`. -/
def ProvenanceManifest.driftedEvidenceIds (manifest : ProvenanceManifest) :
    List UUID :=
  (manifest.evidence.filter (·.drift = .drifted)).map (·.id)

/-- Where a job's published report and manifest are stored. -/
structure ReportPublication where
  jobId : UUID
  tenantId : String
  publishedAt : Timestamp
  reportKey : String
  markdownKey : String
  manifestKey : String
  evidenceKey : String
  reportSha256 : DigestText
  isPartial : Bool
  driftedEvidenceIds : List UUID
  reportAccessClass : AccessClass
  manifestAccessClass : AccessClass
  deriving DecidableEq

/-- `most_restrictive`. -/
def mostRestrictive (classes : List AccessClass) : AccessClass :=
  classes.foldl (fun highest next => if next ≤ highest then highest else next)
    .publicClass

/-- The most restrictive class is within a clearance exactly when every class is. -/
theorem mostRestrictive_le_iff {classes : List AccessClass} {clearance : AccessClass} :
    mostRestrictive classes ≤ clearance ↔ ∀ class_ ∈ classes, class_ ≤ clearance := by
  have fold (start : AccessClass) :
      classes.foldl (fun highest next => if next ≤ highest then highest else next) start ≤
          clearance ↔
        start ≤ clearance ∧ ∀ class_ ∈ classes, class_ ≤ clearance := by
    induction classes generalizing start with
    | nil => simp
    | cons next rest inductionHypothesis =>
        rw [List.foldl_cons, inductionHypothesis, List.forall_mem_cons]
        by_cases within : next ≤ start
        · rw [if_pos within]
          constructor
          · rintro ⟨covered, others⟩
            exact ⟨covered, AccessClass.le_trans within covered, others⟩
          · rintro ⟨covered, -, others⟩
            exact ⟨covered, others⟩
        · rw [if_neg within]
          have above : start ≤ next := Nat.le_of_not_le within
          constructor
          · rintro ⟨covered, others⟩
            exact ⟨AccessClass.le_trans above covered, covered, others⟩
          · rintro ⟨-, covered, others⟩
            exact ⟨covered, others⟩
  have least : AccessClass.publicClass ≤ clearance := Nat.zero_le _
  unfold mostRestrictive
  rw [fold]
  exact and_iff_right least

theorem le_mostRestrictive {classes : List AccessClass} {class_ : AccessClass}
    (member : class_ ∈ classes) : class_ ≤ mostRestrictive classes :=
  mostRestrictive_le_iff.mp (Nat.le_refl _) class_ member

/-- One record as the manifest lists it. -/
def manifestEvidence (cited : List UUID) (checks : List SourceCheck)
    (record : EvidenceRecord) : ManifestEvidence :=
  -- A later check of one record replaces an earlier one.
  let check := checks.reverse.find? (·.evidenceId = record.id)
  { id := record.id
    sourceUri := record.sourceUri
    title := record.title
    author := record.author
    publishedAt := record.publishedAt
    retrievedAt := record.retrievedAt
    contentHash := record.contentHash
    trustLevel := record.trustLevel
    accessClass := record.accessClass
    producingTaskId := record.producingTaskId
    toolInvocationId := record.toolInvocationId
    cited := record.id ∈ cited
    drift := (check.map (·.status)).getD .notChecked
    driftCheckedAt := check.map (·.checkedAt)
    driftDetail := check.bind (·.detail) }

def manifestFinding (finding : FindingRecord) : ManifestFinding where
  claim := finding.claim
  supportingEvidenceIds := finding.supportingEvidenceIds
  contradictingEvidenceIds := finding.contradictingEvidenceIds
  calculationIds := finding.calculationIds
  confidence := finding.confidence
  criticVerdict := finding.criticVerdict
  reviewerStatus := finding.reviewerStatus

def manifestInvocation (invocation : ToolInvocation) : ManifestInvocation where
  id := invocation.id
  mcpServer := invocation.mcpServer
  capability := invocation.capability
  argumentDigest := invocation.argumentDigest
  policyVersion := invocation.policyVersion
  authorizationDecision := invocation.authorizationDecision
  outcome := invocation.outcome
  startedAt := invocation.startedAt

/-- `build_manifest`; it raises where a citation is no UUID. -/
def buildManifest (reportJson : ResearchReport → String) (job : ResearchJob)
    (report : ResearchReport) (shortfalls : List String)
    (findings : List FindingRecord) (evidence : List EvidenceRecord)
    (invocations : List ToolInvocation) (checks : List SourceCheck)
    (now : Timestamp) : Except ValueError ProvenanceManifest :=
  report.citedEvidenceIds.map fun cited =>
    { jobId := job.id
      tenantId := job.tenantId
      requesterId := job.requesterId
      question := job.question
      generatedAt := now
      reportSha256 := sha256Text (reportJson report)
      isPartial := report.isPartial || !shortfalls.isEmpty
      shortfalls := shortfalls
      findings := findings.map manifestFinding
      evidence := evidence.map (manifestEvidence cited checks)
      toolInvocations := invocations.map manifestInvocation }

/-- A manifest is labelled partial exactly when the report is, or when the
pipeline found shortfalls. -/
theorem buildManifest_isPartial {reportJson : ResearchReport → String}
    {job : ResearchJob} {report : ResearchReport} {shortfalls : List String}
    {findings : List FindingRecord} {evidence : List EvidenceRecord}
    {invocations : List ToolInvocation} {checks : List SourceCheck}
    {now : Timestamp} {manifest : ProvenanceManifest}
    (built :
      buildManifest reportJson job report shortfalls findings evidence invocations
        checks now = .ok manifest) :
    manifest.isPartial = true ↔ report.isPartial = true ∨ shortfalls ≠ [] := by
  obtain ⟨cited, -, rfl⟩ := map_eq_ok.mp built
  cases shortfalls <;> simp

end ResearchPlatform
