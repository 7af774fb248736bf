import ResearchPlatform.Workflow.PublishingDiscipline

/-!
# Publication is all or nothing

Attempts to publish one report run side by side, each stopped anywhere, over stores
that others use as well.  The publication is written last, every attempt uses the
same names, and what an attempt puts under a name fits every publication of the
report; so a publication that is read points at four artifacts that belong
together.
-/

namespace ResearchPlatform

open Foundation Program Publishing PublicationActivities

/-! ## The attempts and what a reader finds -/

/-- Attempts to publish the report, with whatever job status, shortfalls and source
checker, among other calls of the stores. -/
def publishing (rendering : Rendering) (key : JobKey) (report : ResearchReport) :
    Setting PublishingCall PublishingCall.Answer PyException TenantStores
      ReportPublication where
  starts attempt := ∃ hasChecker job shortfalls, job.key = key ∧
    attempt = publish rendering.reportJson hasChecker job report shortfalls
  effect stores call := Effect rendering stores call
  outside stores changed := ∃ call : StoreCall, call.IsElsewhere key ∧
    changed = TenantStores.serve.next stores call

/-- What a reader of a publication finds in the artifact store. -/
structure PublishedWhole (rendering : Rendering) (stores : TenantStores)
    (tenantId : String) (publication : ReportPublication) : Prop where
  reportStored : ∃ data,
    stores.artifacts.get tenantId publication.reportKey = .ok data ∧
      sha256Of data = publication.reportSha256
  markdownStored : ∃ data,
    stores.artifacts.get tenantId publication.markdownKey = .ok data
  manifestStored : ∃ manifest : ProvenanceManifest,
    stores.artifacts.get tenantId publication.manifestKey =
        .ok (utf8 (rendering.manifestJson manifest)) ∧
      manifest.reportSha256 = publication.reportSha256
  evidenceStored : ∃ data,
    stores.artifacts.get tenantId publication.evidenceKey = .ok data

/-! ## The terms -/

section Terms

variable (rendering : Rendering) (key : JobKey) (report : ResearchReport)

/-- What an attempt may put under a name. -/
structure FitsReport (name : String) (content : ArtifactContent) : Prop where
  isReport : name = jobArtifact key.2 reportJsonName → content = .reportJson report
  isManifest : name = jobArtifact key.2 manifestName →
    ∃ manifest, content = .manifest manifest ∧
      manifest.reportSha256 = sha256Text (rendering.reportJson report)

/-- The publication names the artifacts of the job and the hash of the report. -/
structure PointsAt (publication : ReportPublication) : Prop where
  reportKey : publication.reportKey = jobArtifact key.2 reportJsonName
  markdownKey : publication.markdownKey = jobArtifact key.2 reportMarkdownName
  manifestKey : publication.manifestKey = jobArtifact key.2 manifestName
  evidenceKey : publication.evidenceKey = jobArtifact key.2 evidenceBundleName
  reportSha256 : publication.reportSha256 = sha256Text (rendering.reportJson report)

/-- The terms of publishing one report, whatever the evidence. -/
def reportTerms : PublishingTerms where
  key := key
  fits := FitsReport rendering key report
  states := PointsAt rendering key report
  known _ := True

end Terms

section Whole

variable {rendering : Rendering} {key : JobKey} {report : ResearchReport}

/-- Under a name of its own an attempt may put any content. -/
theorem fits_other {filename : String} {content : ArtifactContent}
    (notReport : filename ≠ reportJsonName) (notManifest : filename ≠ manifestName) :
    FitsReport rendering key report (jobArtifact key.2 filename) content where
  isReport same := absurd (jobArtifact_inj.mp same) notReport
  isManifest same := absurd (jobArtifact_inj.mp same) notManifest

/-- The terms allow every attempt. -/
theorem reportTerms_allows {job : ResearchJob} (ofJob : job.key = key) :
    (reportTerms rendering key report).Allows rendering.reportJson job report := by
  obtain rfl := ofJob
  constructor
  · rfl
  · exact
      { isReport := fun _ => rfl
        isManifest := fun same => absurd (jobArtifact_inj.mp same) (by decide) }
  · intro shortfalls evidence checks
    exact fits_other (by decide) (by decide)
  · intro manifest hashes
    exact
      { isReport := fun same => absurd (jobArtifact_inj.mp same) (by decide)
        isManifest := fun _ => ⟨manifest, rfl, hashes⟩ }
  · intro evidence _
    exact fits_other (by decide) (by decide)
  · intro publication evidence cited _ _ describes
    exact ⟨describes.reportKey, describes.markdownKey, describes.manifestKey,
      describes.evidenceKey, describes.reportSha256⟩

theorem publishing_kept :
    ((reportTerms rendering key report).discipline rendering).KeptBy
      (publishing rendering key report) := by
  apply PublishingTerms.keptBy
  · rintro program ⟨hasChecker, job, shortfalls, ofJob, rfl⟩
    exact ⟨hasChecker, job, report, shortfalls, reportTerms_allows ofJob, rfl⟩
  · exact fun _ _ _ _ effect => effect
  · exact fun stores changed elsewhere => ⟨elsewhere, fun _ => trivial⟩

/-- A publication whose artifacts fit is whole. -/
theorem whole_of_stored {stores : TenantStores} {publication : ReportPublication}
    (points : PointsAt rendering key report publication)
    (complete : ∀ name ∈ artifactNames key.2,
      (reportTerms rendering key report).Stored rendering stores name) :
    PublishedWhole rendering stores key.1 publication := by
  have all := List.forall_mem_map.mp complete
  have found (filename : String)
      (isName : filename ∈
        [reportJsonName, reportMarkdownName, manifestName, evidenceBundleName]) :
      ∃ data, stores.artifacts.get key.1 (jobArtifact key.2 filename) = .ok data := by
    obtain ⟨content, -, got⟩ := all filename isName
    exact ⟨_, got⟩
  constructor
  · obtain ⟨content, fits, got⟩ := all reportJsonName (by simp)
    rw [fits.isReport rfl] at got
    rw [points.reportKey, points.reportSha256]
    exact ⟨_, got, rfl⟩
  · rw [points.markdownKey]
    exact found reportMarkdownName (by simp)
  · obtain ⟨content, fits, got⟩ := all manifestName (by simp)
    obtain ⟨manifest, rfl, hashes⟩ := fits.isManifest rfl
    rw [points.manifestKey, points.reportSha256]
    exact ⟨manifest, got, hashes⟩
  · rw [points.evidenceKey]
    exact found evidenceBundleName (by simp)

end Whole

/-- Whenever a publication of the job can be read, all of it is stored. -/
theorem publication_allOrNothing (rendering : Rendering) (key : JobKey)
    (report : ResearchReport) (stores : TenantStores)
    (unpublished : stores.jobs.publications.get? key = none)
    (reached : Pool PublishingCall PublishingCall.Answer PyException TenantStores
      ReportPublication)
    (steps : (publishing rendering key report).Steps ⟨stores, []⟩ reached)
    (publication : ReportPublication)
    (read : reached.world.jobs.getPublication key.1 key.2 = .ok (some publication)) :
    PublishedWhole rendering reached.world key.1 publication := by
  have start : ((reportTerms rendering key report).discipline rendering).Holds
      ⟨stores, []⟩ := by
    refine ⟨⟨trivial, ?_⟩, fun program member => absurd member List.not_mem_nil⟩
    intro earlier published
    rw [show stores.jobs.publications.get? (reportTerms rendering key report).key = none
      from unpublished] at published
    cases published
  have holds := publishing_kept.steps steps start
  obtain ⟨job, -, published⟩ := map_eq_ok.mp read
  obtain ⟨points, complete⟩ := holds.invariant.2 publication published
  exact whole_of_stored points complete

/-! ## One attempt, run to its end -/

namespace OneAttempt

def job : ResearchJob where
  id := 1
  tenantId := "acme"
  requesterId := "ana"
  question := exampleQuestion
  createdAt := 0
  updatedAt := 0

def report : ResearchReport := exampleReport ⟨"It costs 20 USD.", by decide⟩

def rendering : Rendering where
  reportJson report := report.title.val
  markdown _ report _ _ _ := report.title.val
  manifestJson manifest := manifest.reportSha256.val
  bundleJson _ := "[]"

def stores : TenantStores where
  jobs := ({} : InMemoryJobRepository).add job

def readings : Readings where
  check := { evidenceId := 2, status := .unchanged, checkedAt := 9 }
  now := 9

def run : Run PublishingCall PublishingCall.Answer PyException TenantStores
    ReportPublication :=
  interpret (serve rendering readings)
    (publish rendering.reportJson true job report []) stores

theorem steps :
    (publishing rendering job.key report).Steps ⟨stores, []⟩
      ⟨run.world, [finish run.outcome]⟩ := by
  have begins : (publishing rendering job.key report).Step ⟨stores, []⟩
      ⟨stores, [publish rendering.reportJson true job report []]⟩ :=
    Setting.Step.start ⟨true, job, [], rfl, rfl⟩
  exact Relation.ReflTransGen.head begins
    (Setting.steps_interpret (fun stores _ => Effect.served readings) _ stores)

theorem read :
    ∃ publication, run.world.jobs.getPublication job.key.1 job.key.2 = .ok (some publication) := by
  have isSome : (run.world.jobs.getPublication job.key.1 job.key.2).toOption.join.isSome = true := by
    decide +kernel
  cases outcome : run.world.jobs.getPublication job.key.1 job.key.2 with
  | error error =>
      rw [outcome] at isSome
      cases isSome
  | ok found =>
      cases found with
      | none =>
          rw [outcome] at isSome
          cases isSome
      | some publication => exact ⟨publication, rfl⟩

theorem reaches : ∃ reached publication,
    (publishing rendering job.key report).Steps ⟨stores, []⟩ reached ∧
      reached.world.jobs.getPublication job.key.1 job.key.2 = .ok (some publication) := by
  obtain ⟨publication, read⟩ := read
  refine ⟨⟨run.world, [finish run.outcome]⟩, publication, steps, ?_⟩
  dsimp only
  exact read

end OneAttempt

/-- `publication_allOrNothing` at one attempt. -/
theorem publication_allOrNothing_at_oneAttempt :
    ∃ reached publication,
      (publishing OneAttempt.rendering OneAttempt.job.key OneAttempt.report).Steps
          ⟨OneAttempt.stores, []⟩ reached ∧
        PublishedWhole OneAttempt.rendering reached.world OneAttempt.job.key.1
          publication := by
  obtain ⟨reached, publication, steps, read⟩ := OneAttempt.reaches
  exact ⟨reached, publication, steps,
    publication_allOrNothing OneAttempt.rendering OneAttempt.job.key OneAttempt.report
      OneAttempt.stores rfl reached steps publication read⟩

end ResearchPlatform
