import ResearchPlatform.Workflow.Orchestration

/-!
# Publishing a report

`PublicationActivities.publish` as a program over the service, the source checker
and the artifact store.  An artifact is named by what it is rendered from.
-/

namespace ResearchPlatform

open Foundation Program

/-- What an artifact holds. -/
inductive ArtifactContent where
  | reportJson (report : ResearchReport)
  | markdown (job : ResearchJob) (report : ResearchReport)
      (shortfalls : List String) (evidence : List EvidenceRecord)
      (checks : List SourceCheck)
  | manifest (manifest : ProvenanceManifest)
  | evidenceBundle (records : List EvidenceRecord)

inductive PublishingCall where
  | listEvidence (tenantId : String) (jobId : UUID)
  | listFindings (tenantId : String) (jobId : UUID)
  | listInvocations (tenantId : String) (jobId : UUID)
  | checkSource (job : ResearchJob) (record : EvidenceRecord)
      (invocation : Option ToolInvocation)
  | utcNow
  | put (tenantId name : String) (content : ArtifactContent) (contentType : String)
  | recordPublication (publication : ReportPublication)

abbrev PublishingCall.Answer : PublishingCall → Type
  | listEvidence .. => List EvidenceRecord
  | listFindings .. => List FindingRecord
  | listInvocations .. => List ToolInvocation
  | checkSource .. => SourceCheck
  | utcNow => Timestamp
  | put .. => Unit
  | recordPublication .. => Unit

abbrev Publishing (α : Type) : Type :=
  Program PublishingCall PublishingCall.Answer PyException α

namespace Publishing

def await (call : PublishingCall) : Publishing call.Answer := perform call

/-- `job_artifact`. -/
def jobArtifact (jobId : UUID) (filename : String) : String :=
  "jobs/" ++ jobId.str ++ "/" ++ filename

theorem jobArtifact_inj {jobId : UUID} {first second : String} :
    jobArtifact jobId first = jobArtifact jobId second ↔ first = second := by
  constructor
  · intro same
    have texts := congrArg String.toList same
    simp only [jobArtifact, String.toList_append] at texts
    exact String.toList_injective (List.append_cancel_left texts)
  · exact congrArg (jobArtifact jobId)

def reportJsonName : String := "report.json"

def reportMarkdownName : String := "report.md"

def manifestName : String := "provenance-manifest.json"

def evidenceBundleName : String := "evidence.json"

/-- The identifiers a report cites, or the `ValueError` of a malformed one. -/
def cited (report : ResearchReport) : Publishing (List UUID) :=
  lift (report.citedEvidenceIds.mapError Pipeline.valueError)

/-- Look again at each cited source. -/
def checkEach (job : ResearchJob) (report : ResearchReport)
    (invocations : List ToolInvocation) :
    List EvidenceRecord → Publishing (List SourceCheck)
  | [] => return []
  | record :: rest => do
      let citedIds ← cited report
      if record.id ∉ citedIds then
        checkEach job report invocations rest
      else
        let check ← await (.checkSource job record
          (invocations.reverse.find? (·.id = record.toolInvocationId)))
        let checks ← checkEach job report invocations rest
        return check :: checks

/-- `_check_sources`; without a checker nothing is looked at again. -/
def checkSources (hasChecker : Bool) (job : ResearchJob) (report : ResearchReport)
    (evidence : List EvidenceRecord) (invocations : List ToolInvocation) :
    Publishing (List SourceCheck) :=
  if hasChecker then checkEach job report invocations evidence else return []

/-- `PublicationActivities._publish`. -/
def publish (reportJson : ResearchReport → String) (hasChecker : Bool)
    (job : ResearchJob) (report : ResearchReport) (shortfalls : List String) :
    Publishing ReportPublication := do
  let evidence ← await (.listEvidence job.tenantId job.id)
  let findings ← await (.listFindings job.tenantId job.id)
  let invocations ← await (.listInvocations job.tenantId job.id)
  let checks ← checkSources hasChecker job report evidence invocations
  let generatedAt ← await .utcNow
  let manifest ←
    lift ((buildManifest reportJson job report shortfalls findings evidence
      invocations checks generatedAt).mapError Pipeline.valueError)
  let name := jobArtifact job.id
  let _ ← await (.put job.tenantId (name reportJsonName) (.reportJson report)
    "application/json")
  let _ ← await (.put job.tenantId (name reportMarkdownName)
    (.markdown job report shortfalls evidence checks) "text/markdown; charset=utf-8")
  let _ ← await (.put job.tenantId (name manifestName) (.manifest manifest)
    "application/json")
  let _ ← await (.put job.tenantId (name evidenceBundleName)
    (.evidenceBundle (evidence.filter (·.isPublishable))) "application/json")
  let citedIds ← cited report
  let publishedAt ← await .utcNow
  let publication : ReportPublication :=
    { jobId := job.id
      tenantId := job.tenantId
      publishedAt := publishedAt
      reportKey := name reportJsonName
      markdownKey := name reportMarkdownName
      manifestKey := name manifestName
      evidenceKey := name evidenceBundleName
      reportSha256 := sha256Text (reportJson report)
      isPartial := manifest.isPartial
      driftedEvidenceIds := manifest.driftedEvidenceIds
      reportAccessClass :=
        mostRestrictive ((evidence.filter (·.id ∈ citedIds)).map (·.accessClass))
      manifestAccessClass := mostRestrictive (evidence.map (·.accessClass)) }
  let _ ← await (.recordPublication publication)
  return publication

end Publishing

/-- A publication's tenant and job. -/
def ReportPublication.key (publication : ReportPublication) : JobKey :=
  (publication.tenantId, publication.jobId)

/-- The publication is the record that `publish` makes of a report, of the evidence it
has listed and of the identifiers the report cites. -/
structure ReportPublication.Describes (publication : ReportPublication)
    (reportJson : ResearchReport → String) (job : ResearchJob) (report : ResearchReport)
    (evidence : List EvidenceRecord) (cited : List UUID) : Prop where
  ofJob : publication.key = job.key
  reportKey : publication.reportKey =
    Publishing.jobArtifact job.id Publishing.reportJsonName
  markdownKey : publication.markdownKey =
    Publishing.jobArtifact job.id Publishing.reportMarkdownName
  manifestKey : publication.manifestKey =
    Publishing.jobArtifact job.id Publishing.manifestName
  evidenceKey : publication.evidenceKey =
    Publishing.jobArtifact job.id Publishing.evidenceBundleName
  reportSha256 : publication.reportSha256 = sha256Text (reportJson report)
  reportAccessClass : publication.reportAccessClass =
    mostRestrictive ((evidence.filter (·.id ∈ cited)).map (·.accessClass))
  manifestAccessClass : publication.manifestAccessClass =
    mostRestrictive (evidence.map (·.accessClass))

end ResearchPlatform
