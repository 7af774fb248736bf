import ResearchPlatform.Properties.NoFalseSuccess
import ResearchPlatform.Workflow.PipelineActivities

/-!
# Published reports are clean

A report is checked against the evidence the workflow has carried along, and published
from what the repository holds by then.  The two agree on every cited record: the
workflow's records are stored, stored records never change or go, and whatever is
attached meanwhile has an identifier of its own.
-/

namespace ResearchPlatform

open Foundation Program Publishing PipelineActivities

/-! ## Clean publications -/

/-- The report that a publication points at cites stored, publishable evidence of the
job; its class and its bundle cover what it cites. -/
structure CleanReport (rendering : Rendering) (stores : TenantStores) (key : JobKey)
    (publication : ReportPublication) (report : ResearchReport) (cited : List UUID)
    (bundle : List EvidenceRecord) : Prop where
  named : publication.reportKey ∈ artifactNames key.2 ∧
    publication.evidenceKey ∈ artifactNames key.2
  reportStored : stores.artifacts.get key.1 publication.reportKey =
    .ok (utf8 (rendering.reportJson report))
  cites : report.citedEvidenceIds = .ok cited
  recorded : ∀ id ∈ cited, ∃ record ∈ stores.jobs.evidenceOf key,
    record.id = id ∧ record.tenantId = key.1 ∧ record.jobId = key.2
  unrestricted : ∀ record ∈ stores.jobs.evidenceOf key, record.id ∈ cited →
    record.accessClass ≠ .restricted
  atMostInternal : publication.reportAccessClass ≤ .internal
  coversCited : ∀ record ∈ stores.jobs.evidenceOf key, record.id ∈ cited →
    record.accessClass ≤ publication.reportAccessClass
  bundleStored : stores.artifacts.get key.1 publication.evidenceKey =
    .ok (utf8 (rendering.bundleJson bundle))
  bundlesCited : ∀ record ∈ stores.jobs.evidenceOf key, record.id ∈ cited →
    record ∈ bundle
  bundleUnrestricted : ∀ record ∈ bundle, record.accessClass ≠ .restricted

theorem ne_restricted_of_isPublishable {record : EvidenceRecord}
    (publishable : record.isPublishable = true) : record.accessClass ≠ .restricted := by
  intro restricted
  have within := EvidenceRecord.isPublishable_iff.mp publishable
  rw [restricted] at within
  revert within
  decide

/-! ## Evidence that grows -/

/-- One more record at most, with an identifier of its own. -/
def Grown (before after : List EvidenceRecord) : Prop :=
  after = before ∨
    ∃ record, record.id ∉ before.map (·.id) ∧ after = before ++ [record]

/-- No two records have one identifier. -/
def DistinctIds (evidence : List EvidenceRecord) : Prop :=
  (evidence.map (·.id)).Nodup

section Growth

variable {before after evidence : List EvidenceRecord} {record other : EvidenceRecord}

theorem Grown.mem (grown : Grown before after) (member : record ∈ before) :
    record ∈ after := by
  rcases grown with rfl | ⟨added, -, rfl⟩
  · exact member
  · exact List.mem_append_left _ member

theorem Grown.distinctIds (grown : Grown before after) (distinct : DistinctIds before) :
    DistinctIds after := by
  rcases grown with rfl | ⟨added, isNew, rfl⟩
  · exact distinct
  · unfold DistinctIds
    rw [List.map_append, List.nodup_append]
    refine ⟨distinct, List.nodup_singleton _, ?_⟩
    intro id known _ isAdded same
    rw [List.mem_singleton.mp isAdded] at same
    rw [same] at known
    exact isNew known

theorem eq_of_sameId (distinct : DistinctIds evidence) (first : record ∈ evidence)
    (second : other ∈ evidence) (same : record.id = other.id) : record = other :=
  List.inj_on_of_nodup_map distinct first second same

theorem grown_appendEvidence {repository : InMemoryJobRepository} {key : JobKey}
    (fresh : record.key = key → IsFresh repository key record.id) :
    Grown (repository.evidenceOf key)
      ((repository.appendEvidence record).evidenceOf key) := by
  rw [InMemoryJobRepository.evidenceOf_appendEvidence]
  by_cases isIts : record.key = key
  · rw [if_pos isIts]
    exact Or.inr ⟨record, fresh isIts, rfl⟩
  · rw [if_neg isIts, List.append_nil]
    exact Or.inl rfl

/-- A call beside a job adds at most one record to its evidence. -/
theorem grown_of_beside {stores changed : TenantStores} {key : JobKey}
    (beside : Beside key stores changed) :
    Grown (stores.jobs.evidenceOf key) (changed.jobs.evidenceOf key) := by
  obtain ⟨call, -, fresh, rfl⟩ := beside
  cases call with
  | job call stamps =>
      have wrote := wrote_serve stores.jobs call stamps
      change Grown _
        ((JobRepository.inMemory.serve stores.jobs (call, stamps)).2.evidenceOf key)
      generalize (JobRepository.inMemory.serve stores.jobs (call, stamps)).2 = updated
        at wrote
      cases wrote with
      | nothing => exact Or.inl rfl
      | job owned => exact Or.inl rfl
      | evidence => exact grown_appendEvidence fresh
      | invocation =>
          left
          unfold InMemoryJobRepository.evidenceOf
          rw [InMemoryJobRepository.evidence_recordInvocation]
      | findings => exact Or.inl rfl
      | publication => exact Or.inl rfl
  | put tenantId name data contentType =>
      left
      change (TenantStores.storing stores _).2.jobs.evidenceOf key = _
      unfold TenantStores.storing
      split <;> rfl
  | get tenantId name => exact Or.inl rfl

end Growth

/-! ## The terms of publishing a checked report -/

section Terms

variable (key : JobKey) (report : ResearchReport) (cited : List UUID)
  (kept : List EvidenceRecord)

/-- What may be put under a name: the report, and a bundle that has the cited
records. -/
structure FitsChecked (name : String) (content : ArtifactContent) : Prop where
  isReport : name = jobArtifact key.2 reportJsonName → content = .reportJson report
  isBundle : name = jobArtifact key.2 evidenceBundleName →
    ∃ bundle, content = .evidenceBundle bundle ∧
      (∀ record ∈ bundle, record.isPublishable = true) ∧
        ∀ record ∈ kept, record.id ∈ cited → record ∈ bundle

/-- What a publication of the report may say. -/
structure StatesChecked (publication : ReportPublication) : Prop where
  reportKey : publication.reportKey = jobArtifact key.2 reportJsonName
  evidenceKey : publication.evidenceKey = jobArtifact key.2 evidenceBundleName
  atMostInternal : publication.reportAccessClass ≤ .internal
  coversCited : ∀ record ∈ kept, record.id ∈ cited →
    record.accessClass ≤ publication.reportAccessClass

/-- The terms: the kept records are among the evidence, and no other record has the
identifier of one. -/
def checkedTerms : PublishingTerms where
  key := key
  fits := FitsChecked key report cited kept
  states := StatesChecked key cited kept
  known evidence := DistinctIds evidence ∧ ∀ record ∈ kept, record ∈ evidence

end Terms

/-- The kept records have every cited identifier, on publishable records only. -/
structure Supports (kept : List EvidenceRecord) (cited : List UUID) : Prop where
  covers : ∀ id ∈ cited, ∃ record ∈ kept, record.id = id
  publishable : ∀ record ∈ kept, record.id ∈ cited → record.isPublishable = true

section Checked

variable {rendering : Rendering} {key : JobKey} {report : ResearchReport}
  {cited : List UUID} {kept evidence : List EvidenceRecord} {record : EvidenceRecord}

/-- A report that was checked against kept records is supported by them. -/
theorem supports_of_checkReport (distinct : DistinctIds evidence)
    (known : ∀ record ∈ kept, record ∈ evidence) {checkedAgainst : List EvidenceRecord}
    (carried : ∀ record ∈ checkedAgainst, record ∈ kept)
    (checked : checkReport report checkedAgainst = .ok ()) :
    ∃ cited, report.citedEvidenceIds = .ok cited ∧ Supports kept cited := by
  obtain ⟨cited, cites, all⟩ := checkReport_eq_ok_iff.mp checked
  have publishableOf : ∀ id ∈ cited,
      ∃ record ∈ kept, record.id = id ∧ record.isPublishable = true := by
    intro id isCited
    obtain ⟨record, found, publishable⟩ := all id isCited
    have isIts : record.id = id := by simpa using List.find?_some found
    have member := carried record (List.mem_reverse.mp (List.mem_of_find?_eq_some found))
    exact ⟨record, member, isIts, publishable⟩
  refine ⟨cited, cites, ?_, ?_⟩
  · intro id isCited
    obtain ⟨record, member, isIts, -⟩ := publishableOf id isCited
    exact ⟨record, member, isIts⟩
  · intro record member isCited
    obtain ⟨other, isOther, same, publishable⟩ := publishableOf record.id isCited
    rw [eq_of_sameId distinct (known record member) (known other isOther) same.symm]
    exact publishable

/-- A known record with a cited identifier is one of the kept records. -/
theorem mem_of_cited (supports : Supports kept cited)
    (known : (checkedTerms key report cited kept).known evidence)
    (member : record ∈ evidence) (isCited : record.id ∈ cited) : record ∈ kept := by
  obtain ⟨distinct, among⟩ := known
  obtain ⟨its, isIts, same⟩ := supports.covers record.id isCited
  rw [← eq_of_sameId distinct (among its isIts) member same]
  exact isIts

/-- The terms allow publishing the report. -/
theorem checkedTerms_allows {job : ResearchJob} (ofJob : job.key = key)
    (cites : report.citedEvidenceIds = .ok cited) (supports : Supports kept cited) :
    (checkedTerms key report cited kept).Allows rendering.reportJson job report := by
  obtain rfl := ofJob
  have other {filename : String} {content : ArtifactContent}
      (notReport : filename ≠ reportJsonName) (notBundle : filename ≠ evidenceBundleName) :
      FitsChecked job.key report cited kept (jobArtifact job.id filename) content :=
    { isReport := fun same => absurd (jobArtifact_inj.mp same) notReport
      isBundle := fun same => absurd (jobArtifact_inj.mp same) notBundle }
  constructor
  · rfl
  · exact
      { isReport := fun _ => rfl
        isBundle := fun same => absurd (jobArtifact_inj.mp same) (by decide) }
  · intro shortfalls evidence checks
    exact other (by decide) (by decide)
  · intro manifest _
    exact other (by decide) (by decide)
  · intro evidence known
    refine
      { isReport := fun same => absurd (jobArtifact_inj.mp same) (by decide)
        isBundle := fun _ => ⟨_, rfl, ?_, ?_⟩ }
    · intro record member
      exact (List.mem_filter.mp member).2
    · intro record member isCited
      exact List.mem_filter.mpr
        ⟨known.2 record member, supports.publishable record member isCited⟩
  · intro publication evidence listed known itsCites describes
    obtain rfl := Except.ok.inj (cites.symm.trans itsCites)
    refine ⟨describes.reportKey, describes.evidenceKey, ?_, ?_⟩
    · rw [describes.reportAccessClass, mostRestrictive_le_iff, List.forall_mem_map]
      intro record member
      obtain ⟨isListed, isCited⟩ := List.mem_filter.mp member
      have isCited := of_decide_eq_true isCited
      have isKept := mem_of_cited supports known isListed isCited
      exact EvidenceRecord.isPublishable_iff.mp
        (supports.publishable record isKept isCited)
    · intro record member isCited
      rw [describes.reportAccessClass]
      apply le_mostRestrictive
      apply List.mem_map_of_mem
      exact List.mem_filter.mpr ⟨known.2 record member, decide_eq_true isCited⟩

/-- A publication that keeps to the terms is clean. -/
theorem clean_of_law {stores : TenantStores} {publication : ReportPublication}
    (cites : report.citedEvidenceIds = .ok cited) (supports : Supports kept cited)
    (known : (checkedTerms key report cited kept).known (stores.jobs.evidenceOf key))
    (law : (checkedTerms key report cited kept).Law rendering stores)
    (published : stores.jobs.publications.get? key = some publication) :
    ∃ bundle, CleanReport rendering stores key publication report cited bundle := by
  obtain ⟨states, complete⟩ := law publication published
  have all := List.forall_mem_map.mp complete
  obtain ⟨content, fits, got⟩ := all reportJsonName (by simp)
  obtain rfl := fits.isReport rfl
  obtain ⟨content, fits, gotBundle⟩ := all evidenceBundleName (by simp)
  obtain ⟨bundle, rfl, publishable, hasCited⟩ := fits.isBundle rfl
  have isKept : ∀ record ∈ stores.jobs.evidenceOf key, record.id ∈ cited →
      record ∈ kept := fun record => mem_of_cited supports known
  refine ⟨bundle, ?_⟩
  exact
    { named := by
        rw [states.reportKey, states.evidenceKey]
        exact ⟨List.mem_map_of_mem (by simp), List.mem_map_of_mem (by simp)⟩
      reportStored := by
        rw [states.reportKey]
        exact got
      cites := cites
      recorded := by
        intro id isCited
        obtain ⟨record, isIts, same⟩ := supports.covers id isCited
        have member := known.2 record isIts
        obtain ⟨ofTenant, ofJob⟩ := Prod.mk.inj (stores.jobs.evidenceKeyed member)
        exact ⟨record, member, same, ofTenant, ofJob⟩
      unrestricted := by
        intro record member isCited
        exact ne_restricted_of_isPublishable
          (supports.publishable record (isKept record member isCited) isCited)
      atMostInternal := states.atMostInternal
      coversCited := by
        intro record member isCited
        exact states.coversCited record (isKept record member isCited) isCited
      bundleStored := by
        rw [states.evidenceKey]
        exact gotBundle
      bundlesCited := by
        intro record member isCited
        exact hasCited record (isKept record member isCited) isCited
      bundleUnrestricted := by
        intro record member
        exact ne_restricted_of_isPublishable (publishable record member) }

end Checked

/-! ## Calls that pass by a publication -/

/-- Evidence may have been attached; the job's publication and artifacts are as they
were. -/
structure Passes (key : JobKey) (stores changed : TenantStores) : Prop where
  grown : Grown (stores.jobs.evidenceOf key) (changed.jobs.evidenceOf key)
  publication : changed.jobs.publications.get? key = stores.jobs.publications.get? key
  artifact : ∀ name ∈ artifactNames key.2,
    changed.artifacts.get key.1 name = stores.artifacts.get key.1 name

section Passing

variable {rendering : Rendering} {key : JobKey} {stores changed : TenantStores}

theorem passes_of_beside (beside : Beside key stores changed) :
    Passes key stores changed := by
  have grown := grown_of_beside beside
  obtain ⟨call, elsewhere, -, rfl⟩ := beside
  exact ⟨grown, PublishingTerms.publication_next elsewhere,
    fun name isArtifact => PublishingTerms.artifact_next elsewhere isArtifact⟩

/-- Every call of the pipeline but the publication passes by. -/
theorem passes_of_carried {call : PipelineCall} {answer : Except PyException call.Answer}
    (carried : Carried rendering stores call answer changed)
    (other : ∀ job report shortfalls, call ≠ .publish job report shortfalls) :
    Passes key stores changed := by
  have unchanged : Passes key stores stores := ⟨Or.inl rfl, rfl, fun _ _ => rfl⟩
  cases carried with
  | transition usage now performs =>
      rcases performing_eq_iff.mp performs with
        ⟨_, _, moves, -, rfl⟩ | ⟨error, -, -, rfl⟩
      · obtain ⟨-, jobs, rfl⟩ := JobActivities.eq_of_transition moves
        exact ⟨Or.inl rfl, rfl, fun _ _ => rfl⟩
      · exact unchanged
  | addEvidence id now fresh performs =>
      rcases performing_eq_iff.mp performs with
        ⟨_, _, adds, -, rfl⟩ | ⟨error, -, -, rfl⟩
      · rcases JobActivities.eq_of_addEvidence adds with ⟨-, rfl⟩ | ⟨rfl, isIts, rfl⟩
        · exact unchanged
        · refine ⟨grown_appendEvidence ?_, rfl, fun _ _ => rfl⟩
          intro ofJob
          rw [← ofJob, isIts]
          exact fresh
      · exact unchanged
  | recordFindings stamp performs =>
      rcases performing_eq_iff.mp performs with
        ⟨_, _, records, -, rfl⟩ | ⟨error, -, -, rfl⟩
      · rw [JobActivities.eq_of_recordFindings records]
        exact ⟨Or.inl rfl, rfl, fun _ _ => rfl⟩
      · exact unchanged
  | plan | research | analyze | critique | report | awaitReviewerDecision =>
      exact unchanged
  | publish hasChecker steps => exact absurd rfl (other _ _ _)

/-- A clean publication stays clean: what is attached is not cited. -/
theorem CleanReport.passes {publication : ReportPublication} {report : ResearchReport}
    {cited : List UUID} {bundle : List EvidenceRecord}
    (clean : CleanReport rendering stores key publication report cited bundle)
    (passes : Passes key stores changed) :
    CleanReport rendering changed key publication report cited bundle := by
  obtain ⟨isReport, isBundle⟩ := clean.named
  have earlier : ∀ record ∈ changed.jobs.evidenceOf key, record.id ∈ cited →
      record ∈ stores.jobs.evidenceOf key := by
    intro record member isCited
    rcases passes.grown with same | ⟨added, isNew, same⟩
    · exact same ▸ member
    · rw [same] at member
      rcases List.mem_append.mp member with stored | isAdded
      · exact stored
      · rw [List.mem_singleton.mp isAdded] at isCited
        obtain ⟨cites, stored, sameId, -⟩ := clean.recorded _ isCited
        exact absurd (List.mem_map.mpr ⟨cites, stored, sameId⟩) isNew
  exact
    { clean with
      reportStored := (passes.artifact _ isReport).trans clean.reportStored
      recorded := by
        intro id isCited
        obtain ⟨record, stored, facts⟩ := clean.recorded id isCited
        exact ⟨record, passes.grown.mem stored, facts⟩
      unrestricted := fun record member isCited =>
        clean.unrestricted record (earlier record member isCited) isCited
      coversCited := fun record member isCited =>
        clean.coversCited record (earlier record member isCited) isCited
      bundleStored := (passes.artifact _ isBundle).trans clean.bundleStored
      bundlesCited := fun record member isCited =>
        clean.bundlesCited record (earlier record member isCited) isCited }

end Passing

/-! ## The discipline of the pipeline -/

/-- What a run has been given back by `addEvidence`, and whether it has asked for the
publication. -/
structure Progress where
  stored : List EvidenceRecord := []
  asked : Bool := false

section Discipline

variable (rendering : Rendering) (key : JobKey)

def progressMonitor :
    Monitor PipelineCall PipelineCall.Answer PyException Progress where
  observe progress event :=
    match event with
    | ⟨.addEvidence .., .ok record⟩ =>
        { progress with stored := progress.stored ++ [record] }
    | ⟨.publish .., _⟩ => { progress with asked := true }
    | _ => progress
  admits _ event :=
    match event with
    | ⟨.transition tenantId jobId _ _, .ok moved⟩ => moved.key = (tenantId, jobId)
    | ⟨.report _ _ evidence, .ok written⟩ => checkReport written evidence = .ok ()
    | _ => True

/-- A run stores evidence for its own job, and publishes once, a report that was
checked against records it was given back. -/
def RunPermits (progress : Progress) : PipelineCall → Prop
  | .addEvidence tenantId jobId _ => (tenantId, jobId) = key
  | .publish job report _ =>
      job.key = key ∧ progress.asked = false ∧ ∃ evidence,
        (∀ record ∈ evidence, record ∈ progress.stored) ∧
          checkReport report evidence = .ok ()
  | _ => True

/-- Every publication of the job is clean. -/
def CleanLaw (stores : TenantStores) : Prop :=
  ∀ publication, stores.jobs.publications.get? key = some publication →
    ∃ report cited bundle, CleanReport rendering stores key publication report cited bundle

def runDiscipline :
    Discipline PipelineCall PipelineCall.Answer PyException TenantStores Progress
      ResearchOutcome where
  monitor := progressMonitor
  permits := RunPermits key
  relies progress stores :=
    (∀ record ∈ progress.stored, record ∈ stores.jobs.evidenceOf key) ∧
      (progress.asked = false → stores.jobs.publications.get? key = none)
  ends _ _ := True
  invariant stores :=
    DistinctIds (stores.jobs.evidenceOf key) ∧ CleanLaw rendering key stores

end Discipline

section Kept

variable {rendering : Rendering} {key : JobKey} {stores changed : TenantStores}
  {progress : Progress}

theorem CleanLaw.passes (law : CleanLaw rendering key stores)
    (passes : Passes key stores changed) : CleanLaw rendering key changed := by
  intro publication published
  rw [passes.publication] at published
  obtain ⟨report, cited, bundle, clean⟩ := law publication published
  exact ⟨report, cited, bundle, clean.passes passes⟩

theorem invariant_passes (invariant : (runDiscipline rendering key).invariant stores)
    (passes : Passes key stores changed) :
    (runDiscipline rendering key).invariant changed :=
  ⟨passes.grown.distinctIds invariant.1, invariant.2.passes passes⟩

theorem relies_passes (relied : (runDiscipline rendering key).relies progress stores)
    (passes : Passes key stores changed) :
    (runDiscipline rendering key).relies progress changed := by
  refine ⟨fun record member => passes.grown.mem (relied.1 record member), ?_⟩
  intro notAsked
  rw [passes.publication]
  exact relied.2 notAsked

/-- A publication alone keeps the terms of a checked report. -/
theorem publishingAlone_kept {report : ResearchReport} {cited : List UUID}
    {kept : List EvidenceRecord} :
    ((checkedTerms key report cited kept).discipline rendering).KeptBy
      (publishingAlone rendering key) := by
  apply PublishingTerms.keptBy
  · exact fun _ impossible => False.elim impossible
  · exact fun _ _ _ _ effect => effect
  · intro stores changed beside
    have grown := grown_of_beside beside
    obtain ⟨call, elsewhere, -, same⟩ := beside
    refine ⟨⟨call, elsewhere, same⟩, ?_⟩
    rintro ⟨distinct, among⟩
    exact ⟨grown.distinctIds distinct, fun record member => grown.mem (among record member)⟩

/-- What a permitted publication leaves, whatever it was answered. -/
theorem published_of_carried {job : ResearchJob} {report : ResearchReport}
    {shortfalls : List String} {answer : Except PyException ReportPublication}
    (invariant : (runDiscipline rendering key).invariant stores)
    (relied : (runDiscipline rendering key).relies progress stores)
    (permitted : RunPermits key progress (.publish job report shortfalls))
    (carried : Carried rendering stores (.publish job report shortfalls) answer changed) :
    (runDiscipline rendering key).invariant changed ∧
      ∀ record ∈ progress.stored, record ∈ changed.jobs.evidenceOf key := by
  obtain ⟨rfl, notAsked, checkedAgainst, given, checked⟩ := permitted
  obtain ⟨stillStored, unpublished⟩ := relied
  obtain ⟨cited, cites, supports⟩ :=
    supports_of_checkReport invariant.1 stillStored given checked
  cases carried with
  | publish hasChecker steps =>
      have allowed : (checkedTerms job.key report cited progress.stored).Allows
          rendering.reportJson job report := checkedTerms_allows rfl cites supports
      have follows := PublishingTerms.guarded_publish hasChecker shortfalls allowed
      have noneYet : (checkedTerms job.key report cited progress.stored).Law rendering
          stores := by
        intro publication published
        have atKey : stores.jobs.publications.get? job.key = some publication := published
        rw [unpublished notAsked] at atKey
        cases atKey
      obtain ⟨_, -, ⟨known, law⟩, -⟩ := publishingAlone_kept.toKeptAlone.steps
        (fun _ impossible => impossible) steps ⟨⟨invariant.1, stillStored⟩, noneYet⟩
        ⟨[], fun name _ none => absurd none List.not_mem_nil, follows⟩
      refine ⟨⟨known.1, ?_⟩, known.2⟩
      intro publication published
      obtain ⟨bundle, clean⟩ := clean_of_law cites supports known law published
      exact ⟨report, cited, bundle, clean⟩

/-- A call is not a publication, or it is one. -/
theorem publish_or_other (call : PipelineCall) :
    (∃ job report shortfalls, call = .publish job report shortfalls) ∨
      ∀ job report shortfalls, call ≠ .publish job report shortfalls := by
  by_cases isPublish : ∃ job report shortfalls, call = .publish job report shortfalls
  · exact Or.inl isPublish
  · right
    intro job report shortfalls same
    exact isPublish ⟨job, report, shortfalls, same⟩

/-- What a permitted call leaves, whatever it was answered. -/
theorem kept_of_carried {call : PipelineCall} {answer : Except PyException call.Answer}
    (invariant : (runDiscipline rendering key).invariant stores)
    (relied : (runDiscipline rendering key).relies progress stores)
    (permitted : RunPermits key progress call)
    (carried : Carried rendering stores call answer changed) :
    (runDiscipline rendering key).invariant changed ∧
      (∀ record ∈ progress.stored, record ∈ changed.jobs.evidenceOf key) ∧
        ((∀ job report shortfalls, call ≠ .publish job report shortfalls) →
          (runDiscipline rendering key).relies progress changed) := by
  rcases publish_or_other call with ⟨job, report, shortfalls, rfl⟩ | other
  · obtain ⟨clean, stored⟩ := published_of_carried invariant relied permitted carried
    exact ⟨clean, stored, fun other => absurd rfl (other job report shortfalls)⟩
  · have passes : Passes key stores changed := passes_of_carried carried other
    have still := relies_passes relied passes
    exact ⟨invariant_passes invariant passes, still.1, fun _ => still⟩

/-- A record that is given back is stored. -/
theorem stored_of_carried {tenantId : String} {jobId : UUID}
    {command : EvidenceRecordCreate} {record : EvidenceRecord}
    (ofJob : (tenantId, jobId) = key)
    (carried : Carried rendering stores (.addEvidence tenantId jobId command) (.ok record)
      changed) :
    record ∈ changed.jobs.evidenceOf key := by
  cases carried with
  | addEvidence id now fresh performs =>
      rcases performing_eq_iff.mp performs with
        ⟨_, _, adds, same, rfl⟩ | ⟨error, -, impossible, -⟩
      · obtain rfl := Except.ok.inj same
        rw [← ofJob]
        rcases JobActivities.eq_of_addEvidence adds with ⟨stored, rfl⟩ | ⟨-, isIts, rfl⟩
        · exact stored
        · change record ∈ (stores.jobs.appendEvidence record).evidenceOf _
          rw [InMemoryJobRepository.evidenceOf_appendEvidence, if_pos isIts]
          exact List.mem_append_right _ List.mem_cons_self
      · cases impossible

/-- The activities answer as the monitor admits. -/
theorem admitted_of_carried {call : PipelineCall} {answer : Except PyException call.Answer}
    (carried : Carried rendering stores call answer changed) :
    progressMonitor.admits progress ⟨call, answer⟩ := by
  cases carried with
  | transition usage now performs =>
      rcases performing_eq_iff.mp performs with
        ⟨_, _, moves, rfl, -⟩ | ⟨error, -, rfl, -⟩
      · exact (JobActivities.eq_of_transition moves).1
      · trivial
  | report checked => exact checked
  | addEvidence | recordFindings | plan | research | analyze | critique
  | awaitReviewerDecision | publish => trivial

/-- A call that failed leaves the progress as it was, but for having asked to
publish. -/
theorem relies_of_faulted {call : PipelineCall} {fault : PyException}
    (stored : ∀ record ∈ progress.stored, record ∈ changed.jobs.evidenceOf key)
    (passed : (∀ job report shortfalls, call ≠ .publish job report shortfalls) →
      (runDiscipline rendering key).relies progress changed) :
    (runDiscipline rendering key).relies
      (progressMonitor.observe progress ⟨call, .error fault⟩) changed := by
  cases call with
  | publish job report shortfalls =>
      refine ⟨stored, ?_⟩
      intro impossible
      cases impossible
  | transition | addEvidence | recordFindings | plan | research | analyze | critique
  | report | awaitReviewerDecision => exact passed (by intros; simp)

/-- The activities and others beside them keep the discipline of a run. -/
theorem running_kept :
    (runDiscipline rendering key).KeptAlone (running rendering key) where
  admitted := by
    intro stores changed progress call answer _ _ effect
    cases effect with
    | answered carried => exact admitted_of_carried carried
    | lost carried fault => cases call <;> trivial
    | refused fault => cases call <;> trivial
  invariant := by
    intro stores changed progress call answer invariant relied permitted effect
    cases effect with
    | answered carried => exact (kept_of_carried invariant relied permitted carried).1
    | lost carried fault => exact (kept_of_carried invariant relied permitted carried).1
    | refused fault => exact invariant
  advance := by
    intro stores changed progress call answer invariant relied permitted effect
    cases effect with
    | answered carried =>
        obtain ⟨-, stored, passed⟩ := kept_of_carried invariant relied permitted carried
        cases call with
        | publish job report shortfalls =>
            refine ⟨stored, ?_⟩
            intro impossible
            cases impossible
        | addEvidence tenantId jobId command =>
            have still := passed (by intros; simp)
            cases answer with
            | error fault => exact still
            | ok record =>
                refine ⟨?_, still.2⟩
                intro other member
                rcases List.mem_append.mp member with earlier | isNew
                · exact stored other earlier
                · rw [List.mem_singleton.mp isNew]
                  exact stored_of_carried permitted carried
        | transition | recordFindings | plan | research | analyze | critique | report
        | awaitReviewerDecision => exact passed (by intros; simp)
    | lost carried fault =>
        obtain ⟨-, stored, passed⟩ := kept_of_carried invariant relied permitted carried
        exact relies_of_faulted stored passed
    | refused fault => exact relies_of_faulted relied.1 fun _ => relied
  invariant_outside beside invariant :=
    invariant_passes invariant (passes_of_beside beside)
  relies_outside beside relied := relies_passes relied (passes_of_beside beside)

end Kept

/-! ## The pipeline keeps to it -/

section Run

open Pipeline

variable {key : JobKey} {progress : Progress} {job : ResearchJob} {Value Later : Type}

/-- The records are among those given back, and publishing has not been asked for
since. -/
structure Carries (before after : Progress) (records : List EvidenceRecord) : Prop where
  asked : after.asked = before.asked
  kept : ∀ record ∈ before.stored, record ∈ after.stored
  carried : ∀ record ∈ records, record ∈ after.stored

theorem Carries.trans {before middle after : Progress} {first second : List EvidenceRecord}
    (start : Carries before middle first) (rest : Carries middle after second) :
    Carries before after (first ++ second) where
  asked := rest.asked.trans start.asked
  kept record member := rest.kept record (start.kept record member)
  carried record member := by
    rcases List.mem_append.mp member with earlier | later
    · exact rest.kept record (start.carried record earlier)
    · exact rest.carried record later

theorem carries_nothing : Carries progress progress [] :=
  ⟨rfl, fun _ kept => kept, fun _ none => absurd none List.not_mem_nil⟩

/-- A move of the job gives the job back. -/
theorem run_transition {target : JobStatus} {detail : Option String}
    (ofJob : job.key = key) :
    (transition job target detail).Guarded progressMonitor (RunPermits key) progress
      (Returning fun moved last => moved.key = key ∧ last = progress) := by
  refine ⟨trivial, ?_⟩
  intro answer admitted
  cases answer with
  | ok moved =>
      have sameKey : moved.key = job.key := admitted
      exact ⟨sameKey.trans ofJob, rfl⟩
  | error fault => trivial

theorem run_recordFindings {analysis : AnalysisResult} {critique : CriticReview}
    {reviewerStatus : ReviewerStatus} :
    (Pipeline.recordFindings job analysis critique reviewerStatus).Guarded progressMonitor
      (RunPermits key) progress (Returning fun _ last => last = progress) := by
  unfold Pipeline.recordFindings
  apply guarded_lift_bind _ fun _ => trivial
  intro findings _
  apply guarded_perform_bind trivial _ fun _ => trivial
  exact fun _ _ => rfl

theorem run_storeRecords (ofJob : job.key = key) (commands : List EvidenceRecordCreate) :
    (storeRecords job commands).Guarded progressMonitor (RunPermits key) progress
      (Returning fun records last => Carries progress last records) := by
  induction commands generalizing progress with
  | nil => exact carries_nothing
  | cons command rest inductionHypothesis =>
      have isOwn : RunPermits key progress (.addEvidence job.tenantId job.id command) :=
        ofJob
      apply guarded_perform_bind isOwn _ fun _ => trivial
      intro record _
      apply Guarded.bind inductionHypothesis
      intro records last carries
      have first : Carries progress
          { progress with stored := progress.stored ++ [record] } [record] :=
        ⟨rfl, fun _ kept => List.mem_append_left _ kept,
          fun _ isIt => List.mem_append_right _ isIt⟩
      exact first.trans carries

theorem run_storeResults (ofJob : job.key = key)
    (results : List (ResearchTask × Except PyException EvidenceSubmission)) :
    (storeResults job results).Guarded progressMonitor (RunPermits key) progress
      (Returning fun found last => Carries progress last found.1) := by
  induction results generalizing progress with
  | nil => exact carries_nothing
  | cons result rest inductionHypothesis =>
      obtain ⟨task, answer⟩ := result
      cases answer with
      | error failure =>
          apply Guarded.bind inductionHypothesis
          exact fun found last carries => carries
      | ok submission =>
          apply Guarded.bind (run_storeRecords ofJob submission.records)
          intro stored middle first
          apply Guarded.bind inductionHypothesis
          exact fun found last carries => first.trans carries

theorem run_collectEvidence (ofJob : job.key = key) (tasks : List ResearchTask) :
    (collectEvidence job tasks).Guarded progressMonitor (RunPermits key) progress
      (Returning fun found last => Carries progress last found.1) := by
  unfold collectEvidence
  split
  · exact carries_nothing
  · apply guarded_perform_bind trivial _ fun _ => trivial
    intro results _
    exact run_storeResults ofJob _

/-- A round of the review changes nothing but the job. -/
theorem run_reviewRound (ofJob : job.key = key) (evidence : List EvidenceRecord) :
    (reviewRound job evidence).Guarded progressMonitor (RunPermits key) progress
      (Returning fun round last => last = progress ∧
        match round with
        | .settled job _ => job.key = key
        | .moreResearch job => job.key = key
        | .ended _ => True) := by
  unfold reviewRound
  apply Guarded.bind (run_transition ofJob)
  rintro job _ ⟨ofJob, rfl⟩
  apply guarded_perform_bind trivial _ fun _ => trivial
  intro analysis _
  apply guarded_perform_bind trivial _ fun _ => trivial
  intro critique _
  split
  · apply Guarded.bind run_recordFindings
    rintro _ _ rfl
    exact ⟨rfl, ofJob⟩
  · apply Guarded.bind run_recordFindings
    rintro _ _ rfl
    apply Guarded.bind (run_transition ofJob)
    rintro job _ ⟨ofJob, rfl⟩
    apply guarded_perform_bind trivial _ fun _ => trivial
    intro decision _
    cases decision with
    | approve =>
        apply Guarded.bind run_recordFindings
        rintro _ _ rfl
        exact ⟨rfl, ofJob⟩
    | reject =>
        apply Guarded.bind run_recordFindings
        rintro _ _ rfl
        apply Guarded.bind (run_transition ofJob)
        rintro job _ ⟨ofJob, rfl⟩
        exact ⟨rfl, trivial⟩
    | requestMoreResearch =>
        apply Guarded.bind (run_transition ofJob)
        rintro job _ ⟨ofJob, rfl⟩
        exact ⟨rfl, ofJob⟩

/-- However the review loop is left, what it carries on is stored. -/
theorem run_reviewLoop {tasks : List ResearchTask} {remaining : Nat}
    {evidence : List EvidenceRecord} {unmet : List NonEmptyText} (ofJob : job.key = key)
    (stored : ∀ record ∈ evidence, record ∈ progress.stored) :
    (reviewLoop tasks remaining job evidence unmet).Guarded progressMonitor
      (RunPermits key) progress
      (Returning fun reviewed last => last.asked = progress.asked ∧
        match reviewed with
        | .settled job _ evidence _ =>
            job.key = key ∧ ∀ record ∈ evidence, record ∈ last.stored
        | .ended _ => True) := by
  induction remaining generalizing progress job evidence unmet with
  | zero =>
      unfold reviewLoop
      apply Guarded.bind (run_reviewRound ofJob evidence)
      rintro round _ ⟨rfl, ofJob⟩
      cases round with
      | settled job critique => exact ⟨rfl, ofJob, stored⟩
      | ended outcome => exact ⟨rfl, trivial⟩
      | moreResearch job =>
          apply Guarded.bind (run_transition ofJob)
          rintro job _ ⟨ofJob, rfl⟩
          exact ⟨rfl, trivial⟩
  | succ remaining inductionHypothesis =>
      unfold reviewLoop
      apply Guarded.bind (run_reviewRound ofJob evidence)
      rintro round _ ⟨rfl, ofJob⟩
      cases round with
      | settled job critique => exact ⟨rfl, ofJob, stored⟩
      | ended outcome => exact ⟨rfl, trivial⟩
      | moreResearch job =>
          apply Guarded.bind (run_collectEvidence ofJob tasks)
          rintro ⟨moreEvidence, unmet⟩ middle carries
          have allStored : ∀ record ∈ evidence ++ moreEvidence,
              record ∈ middle.stored := by
            intro record member
            rcases List.mem_append.mp member with earlier | later
            · exact carries.kept record (stored record earlier)
            · exact carries.carried record later
          apply (inductionHypothesis ofJob allStored).mono
          intro outcome last returned
          cases outcome with
          | ok reviewed => exact ⟨returned.1.trans carries.asked, returned.2⟩
          | error fault => trivial

/-- A report that was checked against stored evidence may be published. -/
theorem run_publishReport {publishes : Bool} {report : ResearchReport}
    {shortfalls : List String} {evidence : List EvidenceRecord} (ofJob : job.key = key)
    (notAsked : progress.asked = false)
    (stored : ∀ record ∈ evidence, record ∈ progress.stored)
    (checked : checkReport report evidence = .ok ()) :
    (publishReport publishes job report shortfalls).Guarded progressMonitor
      (RunPermits key) progress (Returning fun _ _ => True) := by
  unfold publishReport
  split
  · apply guarded_perform_bind ⟨ofJob, notAsked, evidence, stored, checked⟩ _
      fun _ => trivial
    exact fun _ _ => trivial
  · trivial

/-- The report is checked against the evidence it is written from, and published. -/
theorem run_finishReport {publishes : Bool} {critique : CriticReview}
    {evidence : List EvidenceRecord} {unmet : List NonEmptyText} (ofJob : job.key = key)
    (notAsked : progress.asked = false)
    (stored : ∀ record ∈ evidence, record ∈ progress.stored) :
    (finishReport publishes job critique evidence unmet).Guarded progressMonitor
      (RunPermits key) progress (Returning fun _ _ => True) := by
  unfold finishReport
  apply Guarded.bind (run_transition ofJob)
  rintro job _ ⟨ofJob, rfl⟩
  apply guarded_perform_bind trivial _ fun _ => trivial
  intro report checked
  apply guarded_lift_bind _ fun _ => trivial
  intro missing _
  apply Guarded.bind (run_publishReport ofJob notAsked stored checked)
  rintro publication middle -
  split
  · apply Guarded.bind (run_transition ofJob)
    exact fun _ _ _ => trivial
  · apply Guarded.bind (run_transition ofJob)
    exact fun _ _ _ => trivial

theorem run_runSteps {publishes : Bool} {stamps : Nat → UUID × Timestamp}
    (ofJob : job.key = key) (notAsked : progress.asked = false) :
    (runSteps publishes stamps job).Guarded progressMonitor (RunPermits key) progress
      (Returning fun _ _ => True) := by
  unfold runSteps
  apply Guarded.bind (run_transition ofJob)
  rintro job _ ⟨ofJob, rfl⟩
  apply guarded_perform_bind trivial _ fun _ => trivial
  intro plan _
  apply Guarded.bind (run_transition ofJob)
  rintro job _ ⟨ofJob, rfl⟩
  apply Guarded.bind (run_collectEvidence ofJob _)
  rintro ⟨evidence, unmet⟩ middle carries
  dsimp only
  split
  · apply Guarded.bind (run_transition ofJob)
    exact fun _ _ _ => trivial
  · apply Guarded.bind (run_reviewLoop ofJob carries.carried)
    rintro reviewed last ⟨asked, settled⟩
    cases reviewed with
    | ended outcome => trivial
    | settled job critique evidence unmet =>
        obtain ⟨ofJob, stored⟩ := settled
        exact run_finishReport ofJob (asked.trans (carries.asked.trans notAsked)) stored

/-- Ending the job only moves it. -/
theorem run_endWith {target : JobStatus} {reason : String} :
    (endWith job target reason).Guarded progressMonitor (RunPermits key) progress
      fun _ last => last = progress := by
  refine ⟨trivial, ?_⟩
  intro answer _
  cases answer with
  | ok ended => exact rfl
  | error fault => exact rfl

theorem run_fail {error : PyException} :
    (fail job error).Guarded progressMonitor (RunPermits key) progress
      fun _ _ => True := by
  have asFailed {progress : Progress} : ((endWith job .failed (describe error)).rescue
      fun _ => raise error).Guarded progressMonitor (RunPermits key) progress
        fun _ _ => True := by
    apply guarded_rescue.mpr
    apply run_endWith.mono
    intro outcome last _
    cases outcome with
    | ok ended => trivial
    | error fault => trivial
  unfold fail
  dsimp only
  split
  · apply guarded_rescue.mpr
    apply run_endWith.mono
    intro outcome last _
    cases outcome with
    | ok ended => trivial
    | error fault => exact asFailed
  · exact asFailed

/-- A run keeps to the discipline, whatever it is answered. -/
theorem run_runResearchJob {publishes : Bool} {stamps : Nat → UUID × Timestamp}
    (ofJob : job.key = key) :
    (runResearchJob publishes stamps job).Guarded progressMonitor (RunPermits key) {}
      fun _ _ => True := by
  apply guarded_rescue.mpr
  apply (run_runSteps ofJob rfl).mono
  intro outcome last _
  cases outcome with
  | ok outcome => trivial
  | error fault => exact run_fail

end Run

namespace TeamPlan

def rendering : Rendering where
  reportJson report := report.title.val
  markdown _ report _ _ _ := report.title.val
  manifestJson manifest := manifest.reportSha256.val
  bundleJson records := String.join (records.map (·.excerpt.val))

def readings : PublicationActivities.Readings where
  check := { evidenceId := 5, status := .unchanged, checkedAt := 9 }
  now := 9

def stores : TenantStores where
  jobs := ({} : InMemoryJobRepository).add job

def failure : PyException := { className := "ApplicationError", rendered := "" }

/-- The activities, with agents that all do their part. -/
def activities : Handler PipelineCall PipelineCall.Answer PyException TenantStores :=
  fun stores call =>
    match call with
    | .transition tenantId jobId target detail =>
        performing stores
          (JobActivities.transition stores.jobs tenantId jobId target detail none 1)
    | .addEvidence tenantId jobId command =>
        if 5 ∈ (stores.jobs.evidenceOf (tenantId, jobId)).map (·.id) then
          (.error failure, stores)
        else
          performing stores
            (JobActivities.addEvidence stores.jobs tenantId jobId command 5 4)
    | .recordFindings tenantId jobId findings =>
        performing stores
          (JobActivities.recordFindings stores.jobs tenantId jobId findings fun _ => (6, 4))
    | .plan .. => (.ok plan, stores)
    | .research _ tasks =>
        (.ok (submissions tasks), stores)
    | .analyze .. => (.ok analysis, stores)
    | .critique .. => (.ok review, stores)
    | .report _ _ evidence =>
        match checkReport report evidence with
        | .ok () => (.ok report, stores)
        | .error _ => (.error failure, stores)
    | .awaitReviewerDecision .. => (.ok .approve, stores)
    | .publish job report shortfalls =>
        let run := interpret (PublicationActivities.serve rendering readings)
          (Publishing.publish rendering.reportJson true job report shortfalls) stores
        (run.outcome, run.world)

theorem activities_effect (stores : TenantStores) (call : PipelineCall) :
    PipelineActivities.Effect rendering stores call (activities stores call).1
      (activities stores call).2 := by
  cases call with
  | transition => exact Effect.answered (Carried.transition none 1 rfl)
  | addEvidence tenantId jobId command =>
      unfold activities
      dsimp only
      split
      · exact Effect.refused failure
      · rename_i fresh
        exact Effect.answered (Carried.addEvidence 5 4 fresh rfl)
  | recordFindings => exact Effect.answered (Carried.recordFindings _ rfl)
  | plan => exact Effect.answered (Carried.plan _)
  | research => exact Effect.answered (Carried.research _)
  | analyze => exact Effect.answered (Carried.analyze _)
  | critique => exact Effect.answered (Carried.critique _)
  | report job critique evidence =>
      unfold activities
      dsimp only
      split
      · rename_i checked
        exact Effect.answered (Carried.report checked)
      · exact Effect.refused failure
  | awaitReviewerDecision => exact Effect.answered (Carried.awaitReviewerDecision _)
  | publish job report shortfalls =>
      apply Effect.answered
      apply Carried.publish true
      exact Setting.steps_interpret
        (fun _ _ => PublicationActivities.Effect.served readings) _ stores

def publishingRun :
    Run PipelineCall PipelineCall.Answer PyException TenantStores ResearchOutcome :=
  interpret activities (Pipeline.runResearchJob true (fun _ => (2, 0)) job) stores

theorem published :
    ∃ publication, publishingRun.world.jobs.getPublication job.tenantId job.id =
      .ok (some publication) := by
  have isSome : (publishingRun.world.jobs.getPublication job.tenantId
      job.id).toOption.join.isSome = true := by
    decide +kernel
  cases outcome : publishingRun.world.jobs.getPublication job.tenantId job.id with
  | error error =>
      rw [outcome] at isSome
      cases isSome
  | ok found =>
      cases found with
      | none =>
          rw [outcome] at isSome
          cases isSome
      | some publication => exact ⟨publication, rfl⟩

theorem reaches : ∃ reached publication,
    (running rendering job.key).Steps
        ⟨stores, [Pipeline.runResearchJob true (fun _ => (2, 0)) job]⟩ reached ∧
      reached.world.jobs.getPublication job.tenantId job.id = .ok (some publication) := by
  obtain ⟨publication, read⟩ := published
  refine ⟨⟨publishingRun.world, [finish publishingRun.outcome]⟩, publication, ?_, ?_⟩
  · exact Setting.steps_interpret activities_effect _ stores
  · dsimp only
    exact read

end TeamPlan

end ResearchPlatform
