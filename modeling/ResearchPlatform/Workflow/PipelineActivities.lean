import ResearchPlatform.Agents.Checks
import ResearchPlatform.Workflow.PublishingDiscipline

/-!
# The pipeline over the activities

What each call of the pipeline does when `ResearchActivities`, `JobActivities` and
`PublicationActivities` carry it out over the stores of a deployment, while others
use the stores as well.  What agents, tools and reviewers answer is open, except that
a report has passed its check.
-/

namespace ResearchPlatform

open Foundation Program

namespace PipelineActivities

/-! ## Others beside a job -/

/-- The identifier is new among the evidence of the job. -/
def IsFresh (repository : InMemoryJobRepository) (key : JobKey) (id : UUID) : Prop :=
  id ∉ (repository.evidenceOf key).map (·.id)

/-- Evidence that a call attaches to the job has a new identifier. -/
def AttachesFresh (stores : TenantStores) (key : JobKey) : StoreCall → Prop
  | .job (.addEvidence tenantId jobId _) stamps =>
      (tenantId, jobId) = key → IsFresh stores.jobs key stamps.id
  | _ => True

/-- A call from elsewhere, among them the attaching of evidence by hand. -/
def Beside (key : JobKey) (stores changed : TenantStores) : Prop :=
  ∃ call : StoreCall, call.IsElsewhere key ∧ AttachesFresh stores key call ∧
    changed = TenantStores.serve.next stores call

/-! ## The calls -/

/-- The answer of an activity over the repository; one that raises leaves the stores
as they were. -/
def performing {Value : Type} (stores : TenantStores) :
    Except ServiceError (Value × InMemoryJobRepository) →
      Except PyException Value × TenantStores
  | .ok (value, jobs) => (.ok value, { stores with jobs := jobs })
  | .error error => (.error error.exception, stores)

/-- `_publish`, interleaved with the calls of others. -/
def publishingAlone (rendering : Rendering) (key : JobKey) :
    Setting PublishingCall PublishingCall.Answer PyException TenantStores
      ReportPublication where
  starts _ := False
  effect stores call := PublicationActivities.Effect rendering stores call
  outside := Beside key

/-- A call that is carried out. -/
inductive Carried (rendering : Rendering) (stores : TenantStores) :
    (call : PipelineCall) → Except PyException call.Answer → TenantStores → Prop
  | transition {tenantId : String} {jobId : UUID} {target : JobStatus}
      {detail : Option String} {answer : Except PyException ResearchJob}
      {changed : TenantStores} (usage : Option JobUsage) (now : Timestamp)
      (performs : performing stores
        (JobActivities.transition stores.jobs tenantId jobId target detail usage now) =
          (answer, changed)) :
      Carried rendering stores (.transition tenantId jobId target detail) answer changed
  | addEvidence {tenantId : String} {jobId : UUID} {command : EvidenceRecordCreate}
      {answer : Except PyException EvidenceRecord} {changed : TenantStores} (id : UUID)
      (now : Timestamp) (fresh : IsFresh stores.jobs (tenantId, jobId) id)
      (performs : performing stores
        (JobActivities.addEvidence stores.jobs tenantId jobId command id now) =
          (answer, changed)) :
      Carried rendering stores (.addEvidence tenantId jobId command) answer changed
  | recordFindings {tenantId : String} {jobId : UUID} {findings : List Finding}
      {answer : Except PyException (List FindingRecord)} {changed : TenantStores}
      (stamp : Nat → UUID × Timestamp)
      (performs : performing stores
        (JobActivities.recordFindings stores.jobs tenantId jobId findings stamp) =
          (answer, changed)) :
      Carried rendering stores (.recordFindings tenantId jobId findings) answer changed
  | plan {job : ResearchJob} (answer : Except PyException ResearchPlan) :
      Carried rendering stores (.plan job) answer stores
  | research {job : ResearchJob} {tasks : List ResearchTask}
      (answer : Except PyException (PipelineCall.research job tasks).Answer) :
      Carried rendering stores (.research job tasks) answer stores
  | analyze {job : ResearchJob} {evidence : List EvidenceRecord}
      (answer : Except PyException AnalysisResult) :
      Carried rendering stores (.analyze job evidence) answer stores
  | critique {job : ResearchJob} {analysis : AnalysisResult}
      {evidence : List EvidenceRecord} (answer : Except PyException CriticReview) :
      Carried rendering stores (.critique job analysis evidence) answer stores
  | report {job : ResearchJob} {critique : CriticReview}
      {evidence : List EvidenceRecord} {written : ResearchReport}
      (checked : checkReport written evidence = .ok ()) :
      Carried rendering stores (.report job critique evidence) (.ok written) stores
  | awaitReviewerDecision {job : ResearchJob} {critique : CriticReview}
      (answer : Except PyException ReviewerDecision) :
      Carried rendering stores (.awaitReviewerDecision job critique) answer stores
  | publish {job : ResearchJob} {report : ResearchReport} {shortfalls : List String}
      {answer : Except PyException ReportPublication} {changed : TenantStores}
      (hasChecker : Bool)
      (steps : (publishingAlone rendering job.key).Steps
        ⟨stores,
          [Publishing.publish rendering.reportJson hasChecker job report shortfalls]⟩
        ⟨changed, [finish answer]⟩) :
      Carried rendering stores (.publish job report shortfalls) answer changed

/-- A call is answered, or it fails: after it was carried out, when its answer is
lost, or before. -/
inductive Effect (rendering : Rendering) (stores : TenantStores) (call : PipelineCall) :
    Except PyException call.Answer → TenantStores → Prop
  | answered {answer : Except PyException call.Answer} {changed : TenantStores}
      (carried : Carried rendering stores call answer changed) :
      Effect rendering stores call answer changed
  | lost {answer : Except PyException call.Answer} {changed : TenantStores}
      (carried : Carried rendering stores call answer changed) (fault : PyException) :
      Effect rendering stores call (.error fault) changed
  | refused (fault : PyException) : Effect rendering stores call (.error fault) stores

/-- One run of the pipeline for a job, with others beside it. -/
def running (rendering : Rendering) (key : JobKey) :
    Setting PipelineCall PipelineCall.Answer PyException TenantStores ResearchOutcome where
  starts _ := False
  effect stores call := Effect rendering stores call
  outside := Beside key

theorem performing_eq_iff {Value : Type} {stores changed : TenantStores}
    {outcome : Except ServiceError (Value × InMemoryJobRepository)}
    {answer : Except PyException Value} :
    performing stores outcome = (answer, changed) ↔
      (∃ value jobs, outcome = .ok (value, jobs) ∧ answer = .ok value ∧
        changed = { stores with jobs := jobs }) ∨
      ∃ error, outcome = .error error ∧ answer = .error error.exception ∧
        changed = stores := by
  cases outcome with
  | ok result =>
      obtain ⟨value, jobs⟩ := result
      simp [performing, eq_comm]
  | error error => simp [performing, eq_comm]

end PipelineActivities

/-! ## What the activities write -/

namespace JobActivities

variable {repository updated : InMemoryJobRepository} {tenantId : String} {jobId : UUID}

/-- A move writes the job and nothing else. -/
theorem eq_of_transition {target : JobStatus} {detail : Option String}
    {usage : Option JobUsage} {now : Timestamp} {moved : ResearchJob}
    (moves : transition repository tenantId jobId target detail usage now =
      .ok (moved, updated)) :
    moved.key = (tenantId, jobId) ∧
      ∃ jobs, updated = { repository with jobs := jobs } := by
  obtain ⟨current, found, moves⟩ := bind_eq_ok.mp moves
  split at moves
  · obtain ⟨rfl, rfl⟩ := Prod.mk.inj (Except.ok.inj moves)
    exact ⟨JobTable.key_of_get found, repository.jobs, rfl⟩
  · obtain ⟨job, stored, moves⟩ := bind_eq_ok.mp moves
    cases outcome : job.transitionTo target detail usage now with
    | error refusal =>
        rw [outcome] at moves
        cases moves
    | ok target =>
        rw [outcome] at moves
        obtain ⟨_, updates, moves⟩ := bind_eq_ok.mp moves
        obtain ⟨rfl, rfl⟩ := Prod.mk.inj (Except.ok.inj moves)
        obtain ⟨jobs, -, rfl⟩ := map_eq_ok.mp updates
        obtain ⟨-, rfl⟩ := ResearchJob.transitionTo_eq_ok_iff.mp outcome
        have sameKey : job.key = (tenantId, jobId) := JobTable.key_of_get stored
        exact ⟨sameKey, jobs, rfl⟩

/-- A record is found stored, or it is new and appended. -/
theorem eq_of_addEvidence {command : EvidenceRecordCreate} {id : UUID} {now : Timestamp}
    {record : EvidenceRecord}
    (adds : addEvidence repository tenantId jobId command id now = .ok (record, updated)) :
    (record ∈ repository.evidenceOf (tenantId, jobId) ∧ updated = repository) ∨
      (record.id = id ∧ record.key = (tenantId, jobId) ∧
        updated = repository.appendEvidence record) := by
  rcases added_of_addEvidence adds with stored | added
  · exact Or.inl stored
  · obtain ⟨rfl, appended⟩ := ResearchJobService.eq_of_addEvidence added
    exact Or.inr ⟨rfl, rfl, appended⟩

end JobActivities

end ResearchPlatform
