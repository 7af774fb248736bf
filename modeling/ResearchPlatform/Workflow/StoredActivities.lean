import ResearchPlatform.Application.TenantStores
import ResearchPlatform.Workflow.Activities
import ResearchPlatform.Workflow.Publishing

/-!
# The activities over the stores

What the calls of the activities do with the repository and the artifact store of
a deployment, and the exceptions they raise.
-/

namespace ResearchPlatform

open Foundation Program

/-! ## Exceptions -/

def InvalidStateTransition.message (refusal : InvalidStateTransition) : String :=
  let current := refusal.current.value
  let target := refusal.target.value
  s!"cannot transition research job from {current} to {target}"

/-- The exception that a refusal of the service is raised as. -/
def ServiceError.exception : ServiceError → PyException
  | jobNotFound jobId => { className := "JobNotFoundError", rendered := jobId.str }
  | invalidStateTransition refusal =>
      { className := "InvalidStateTransition", rendered := refusal.message }
  | invalidEvidence error => Pipeline.validationError error

/-- The exception that a refusal of the artifact store is raised as. -/
def ArtifactError.exception : ArtifactError → PyException
  | noTenant =>
      { className := "InvalidArtifactName"
        rendered := "an artifact must belong to a tenant" }
  | invalidName name =>
      { className := "InvalidArtifactName"
        rendered := "'" ++ name ++ "' is not a valid artifact name" }
  | notFound name => { className := "ArtifactNotFound", rendered := name }

/-! ## Rendering -/

/-- The texts of the four artifacts. -/
structure Rendering where
  reportJson : ResearchReport → String
  markdown : ResearchJob → ResearchReport → List String → List EvidenceRecord →
    List SourceCheck → String
  manifestJson : ProvenanceManifest → String
  bundleJson : List EvidenceRecord → String

/-- The bytes that are stored. -/
def Rendering.bytes (rendering : Rendering) : ArtifactContent → List UInt8
  | .reportJson report => utf8 (rendering.reportJson report)
  | .markdown job report shortfalls evidence checks =>
      utf8 (rendering.markdown job report shortfalls evidence checks)
  | .manifest manifest => utf8 (rendering.manifestJson manifest)
  | .evidenceBundle records => utf8 (rendering.bundleJson records)

/-! ## Publishing -/

namespace PublicationActivities

/-- What the calls of a publication find outside the stores. -/
structure Readings where
  check : SourceCheck
  now : Timestamp

/-- The answer to a call that writes; one that raises leaves the stores as they
were. -/
def writing (stores : TenantStores) :
    Except PyException TenantStores → Except PyException Unit × TenantStores
  | .ok updated => (.ok (), updated)
  | .error fault => (.error fault, stores)

/-- What each call of a publication does with the stores. -/
def serve (rendering : Rendering) (readings : Readings) :
    Handler PublishingCall PublishingCall.Answer PyException TenantStores :=
  fun stores call =>
    match call with
    | .listEvidence tenantId jobId =>
        ((stores.jobs.listEvidence tenantId jobId).mapError ServiceError.exception,
          stores)
    | .listFindings tenantId jobId =>
        ((stores.jobs.listFindings tenantId jobId).mapError ServiceError.exception,
          stores)
    | .listInvocations tenantId jobId =>
        ((ResearchJobService.listInvocations stores.jobs tenantId jobId).mapError
          ServiceError.exception, stores)
    | .checkSource .. => (.ok readings.check, stores)
    | .utcNow => (.ok readings.now, stores)
    | .put tenantId name content contentType =>
        writing stores
          (((stores.artifacts.put tenantId name (rendering.bytes content)
            contentType).map fun put => { stores with artifacts := put.2 }).mapError
              ArtifactError.exception)
    | .recordPublication publication =>
        writing stores
          (((stores.jobs.recordPublication publication).map fun jobs =>
            { stores with jobs := jobs }).mapError ServiceError.exception)

section Served

variable {rendering : Rendering} {readings : Readings} {stores changed : TenantStores}

/-- A `put` stores what it was given or raises. -/
theorem serve_put {tenantId name contentType : String} {content : ArtifactContent} :
    (∃ stored artifacts,
      stores.artifacts.put tenantId name (rendering.bytes content) contentType =
          .ok (stored, artifacts) ∧
        serve rendering readings stores (.put tenantId name content contentType) =
          (.ok (), { stores with artifacts := artifacts })) ∨
    ∃ fault, serve rendering readings stores (.put tenantId name content contentType) =
      (.error fault, stores) := by
  cases puts : stores.artifacts.put tenantId name (rendering.bytes content) contentType with
  | ok result =>
      refine Or.inl ⟨result.1, result.2, rfl, ?_⟩
      simp only [serve, puts]
      rfl
  | error error =>
      refine Or.inr ⟨error.exception, ?_⟩
      simp only [serve, puts]
      rfl

/-- The record is stored or the call raises. -/
theorem serve_recordPublication {publication : ReportPublication} :
    (serve rendering readings stores (.recordPublication publication)).2 =
        { stores with
          jobs := { stores.jobs with
            publications := stores.jobs.publications.set publication.key publication } } ∨
      (serve rendering readings stores (.recordPublication publication)).2 = stores := by
  cases found : stores.jobs.get publication.tenantId publication.jobId with
  | ok job =>
      left
      simp only [serve, InMemoryJobRepository.recordPublication, found]
      rfl
  | error error =>
      right
      simp only [serve, InMemoryJobRepository.recordPublication, found]
      rfl

/-- Only `recordPublication` changes the publications. -/
theorem publications_serve {call : PublishingCall} :
    (serve rendering readings stores call).2.jobs.publications =
        stores.jobs.publications ∨
      ∃ publication, call = .recordPublication publication ∧
        (serve rendering readings stores call).2.jobs.publications =
          stores.jobs.publications.set publication.key publication := by
  cases call with
  | put tenantId other content contentType =>
      left
      rcases serve_put with ⟨_, artifacts, puts, served⟩ | ⟨fault, served⟩
      · rw [served]
      · rw [served]
  | recordPublication publication =>
      rcases serve_recordPublication with left | left
      · exact Or.inr ⟨publication, rfl, by rw [left]⟩
      · exact Or.inl (by rw [left])
  | listEvidence | listFindings | listInvocations | checkSource | utcNow => exact Or.inl rfl

/-- No call of a publication changes the evidence. -/
theorem evidence_serve {call : PublishingCall} :
    (serve rendering readings stores call).2.jobs.evidence = stores.jobs.evidence := by
  cases call with
  | put tenantId other content contentType =>
      rcases serve_put with ⟨_, artifacts, puts, served⟩ | ⟨fault, served⟩
      · rw [served]
      · rw [served]
  | recordPublication publication =>
      rcases serve_recordPublication with left | left
      · rw [left]
      · rw [left]
  | listEvidence | listFindings | listInvocations | checkSource | utcNow => rfl

theorem writing_eq_ok_iff {outcome : Except PyException TenantStores} :
    writing stores outcome = (.ok (), changed) ↔ outcome = .ok changed := by
  cases outcome <;> simp [writing]

/-- A `put` that returns has stored what it was given. -/
theorem put_of_serve {tenantId name contentType : String} {content : ArtifactContent}
    (served : serve rendering readings stores (.put tenantId name content contentType) =
      (.ok (), changed)) :
    ∃ stored artifacts,
      stores.artifacts.put tenantId name (rendering.bytes content) contentType =
          .ok (stored, artifacts) ∧
        changed = { stores with artifacts := artifacts } := by
  obtain ⟨put, puts, rfl⟩ := map_eq_ok.mp (mapError_eq_ok.mp (writing_eq_ok_iff.mp served))
  exact ⟨put.1, put.2, puts, rfl⟩

/-- A publication that was recorded is the job's publication. -/
theorem recordPublication_of_serve {publication : ReportPublication}
    (served : serve rendering readings stores (.recordPublication publication) =
      (.ok (), changed)) :
    ∃ jobs, stores.jobs.recordPublication publication = .ok jobs ∧
      changed = { stores with jobs := jobs } := by
  obtain ⟨jobs, records, rfl⟩ :=
    map_eq_ok.mp (mapError_eq_ok.mp (writing_eq_ok_iff.mp served))
  exact ⟨jobs, records, rfl⟩

/-- Looking at the sources again leaves the stores as they are. -/
theorem requests_checkEach {job : ResearchJob} {report : ResearchReport}
    {invocations : List ToolInvocation} (evidence : List EvidenceRecord) :
    Requests (fun call => ∃ record invocation, call = .checkSource job record invocation)
      (Publishing.checkEach job report invocations evidence) := by
  induction evidence with
  | nil => trivial
  | cons record rest inductionHypothesis =>
      apply requests_bind
      · trivial
      · intro citedIds
        split
        · exact inductionHypothesis
        · apply requests_bind (requests_perform.mpr ⟨record, _, rfl⟩)
          intro check
          exact requests_bind inductionHypothesis fun _ => trivial

theorem eq_of_checkSources_runsTo {hasChecker : Bool} {job : ResearchJob}
    {report : ResearchReport} {evidence : List EvidenceRecord}
    {invocations : List ToolInvocation} {checks : List SourceCheck}
    (returned : RunsTo (serve rendering readings)
      (Publishing.checkSources hasChecker job report evidence invocations) stores checks
        changed) :
    stores = changed := by
  rw [← returned.2]
  unfold Publishing.checkSources
  split
  · symm
    apply (requests_checkEach evidence).world_eq
    rintro world call ⟨record, invocation, rfl⟩
    rfl
  · rfl

/-- What a publication was made from, and what it left. -/
structure Produced (rendering : Rendering) (stores changed : TenantStores)
    (job : ResearchJob) (report : ResearchReport) (shortfalls : List String)
    (publication : ReportPublication) (evidence : List EvidenceRecord)
    (findings : List FindingRecord) (invocations : List ToolInvocation)
    (checks : List SourceCheck) (now : Timestamp) (cited : List UUID)
    (manifest : ProvenanceManifest) : Prop where
  evidenceListed : stores.jobs.listEvidence job.tenantId job.id = .ok evidence
  findingsListed : stores.jobs.listFindings job.tenantId job.id = .ok findings
  invocationsListed :
    ResearchJobService.listInvocations stores.jobs job.tenantId job.id = .ok invocations
  cites : report.citedEvidenceIds = .ok cited
  built : buildManifest rendering.reportJson job report shortfalls findings evidence
    invocations checks now = .ok manifest
  describes : publication.Describes rendering.reportJson job report evidence cited
  recorded : stores.jobs.recordPublication publication = .ok changed.jobs
  manifestStored : changed.artifacts.get job.tenantId publication.manifestKey =
    .ok (utf8 (rendering.manifestJson manifest))

theorem produced_of_runsTo {hasChecker : Bool} {job : ResearchJob}
    {report : ResearchReport} {shortfalls : List String}
    {publication : ReportPublication}
    (returned : RunsTo (serve rendering readings)
      (Publishing.publish rendering.reportJson hasChecker job report shortfalls) stores
        publication changed) :
    ∃ evidence findings invocations checks cited manifest,
      Produced rendering stores changed job report shortfalls publication evidence
        findings invocations checks readings.now cited manifest := by
  obtain ⟨evidence, _, listed, returned⟩ := runsTo_perform_bind.mp returned
  obtain ⟨evidenceListed, rfl⟩ := Prod.mk.inj listed
  obtain ⟨findings, _, listed, returned⟩ := runsTo_perform_bind.mp returned
  obtain ⟨findingsListed, rfl⟩ := Prod.mk.inj listed
  obtain ⟨invocations, _, listed, returned⟩ := runsTo_perform_bind.mp returned
  obtain ⟨invocationsListed, rfl⟩ := Prod.mk.inj listed
  obtain ⟨checks, _, checked, returned⟩ := runsTo_bind.mp returned
  obtain rfl := eq_of_checkSources_runsTo checked
  obtain ⟨generatedAt, _, clock, returned⟩ := runsTo_perform_bind.mp returned
  obtain ⟨isNow, rfl⟩ := Prod.mk.inj clock
  obtain rfl := Except.ok.inj isNow
  obtain ⟨manifest, built, returned⟩ := runsTo_lift_bind.mp returned
  obtain ⟨_, _, served, returned⟩ := runsTo_perform_bind.mp returned
  obtain ⟨_, artifacts, putsReport, rfl⟩ := put_of_serve served
  obtain ⟨_, _, served, returned⟩ := runsTo_perform_bind.mp returned
  obtain ⟨_, artifacts, putsMarkdown, rfl⟩ := put_of_serve served
  obtain ⟨_, _, served, returned⟩ := runsTo_perform_bind.mp returned
  obtain ⟨_, artifacts, putsManifest, rfl⟩ := put_of_serve served
  obtain ⟨_, _, served, returned⟩ := runsTo_perform_bind.mp returned
  obtain ⟨_, artifacts, putsBundle, rfl⟩ := put_of_serve served
  obtain ⟨cited, cites, returned⟩ := runsTo_lift_bind.mp returned
  obtain ⟨publishedAt, _, clock, returned⟩ := runsTo_perform_bind.mp returned
  obtain ⟨-, rfl⟩ := Prod.mk.inj clock
  obtain ⟨_, _, served, returned⟩ := runsTo_perform_bind.mp returned
  obtain ⟨jobs, recorded, rfl⟩ := recordPublication_of_serve served
  obtain ⟨same, rfl⟩ := runsTo_finish.mp returned
  obtain rfl := Except.ok.inj same
  refine ⟨evidence, findings, invocations, checks, cited, manifest, ?_⟩
  exact
    { evidenceListed := mapError_eq_ok.mp evidenceListed
      findingsListed := mapError_eq_ok.mp findingsListed
      invocationsListed := mapError_eq_ok.mp invocationsListed
      cites := mapError_eq_ok.mp cites
      built := mapError_eq_ok.mp built
      describes := ⟨rfl, rfl, rfl, rfl, rfl, rfl, rfl, rfl⟩
      recorded := recorded
      manifestStored := by
        have apart : (job.tenantId, Publishing.jobArtifact job.id Publishing.manifestName) ≠
            (job.tenantId, Publishing.jobArtifact job.id Publishing.evidenceBundleName) := by
          intro same
          have names := Publishing.jobArtifact_inj.mp (Prod.mk.inj same).2
          exact absurd names (by decide)
        change artifacts.get _ _ = _
        rw [InMemoryArtifactStore.get_of_put_of_ne apart putsBundle]
        exact InMemoryArtifactStore.get_of_put putsManifest }

end Served

/-- A call is served, or it fails: after it was carried out, when its answer is
lost, or before. -/
inductive Effect (rendering : Rendering) (stores : TenantStores) (call : PublishingCall) :
    Except PyException call.Answer → TenantStores → Prop
  | served (readings : Readings) :
      Effect rendering stores call (serve rendering readings stores call).1
        (serve rendering readings stores call).2
  | lost (readings : Readings) (fault : PyException) :
      Effect rendering stores call (.error fault)
        (serve rendering readings stores call).2
  | refused (fault : PyException) : Effect rendering stores call (.error fault) stores

section Effect

variable {rendering : Rendering} {stores changed : TenantStores} {call : PublishingCall}

/-- A call that was answered was served. -/
theorem Effect.served_of_ok {value : call.Answer}
    (effect : Effect rendering stores call (.ok value) changed) :
    ∃ readings, serve rendering readings stores call = (.ok value, changed) := by
  generalize isAnswer : Except.ok value = answer at effect
  cases effect with
  | served readings => exact ⟨readings, rfl⟩
  | lost readings fault => cases isAnswer
  | refused fault => cases isAnswer

/-- Whatever a call is answered, it was carried out or left the stores as they
were. -/
theorem Effect.changed_eq {answer : Except PyException call.Answer}
    (effect : Effect rendering stores call answer changed) :
    changed = stores ∨ ∃ readings, changed = (serve rendering readings stores call).2 := by
  cases effect with
  | served readings => exact Or.inr ⟨readings, rfl⟩
  | lost readings fault => exact Or.inr ⟨readings, rfl⟩
  | refused fault => exact Or.inl rfl

theorem evidenceOf_effect {answer : Except PyException call.Answer} {key : JobKey}
    (effect : Effect rendering stores call answer changed) :
    changed.jobs.evidenceOf key = stores.jobs.evidenceOf key := by
  unfold InMemoryJobRepository.evidenceOf
  rcases effect.changed_eq with same | ⟨readings, same⟩
  · rw [same]
  · rw [same, evidence_serve]

end Effect

end PublicationActivities

end ResearchPlatform
