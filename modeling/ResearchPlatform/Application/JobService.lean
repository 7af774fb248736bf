import ResearchPlatform.Application.Jobs
import ResearchPlatform.Foundation.Service

/-!
# The job service over any repository

`ResearchJobService` over the `JobRepository` port, as a service that is called
with the operations of its callers.  Fresh identifiers and clock readings come
with each call.
-/

namespace ResearchPlatform

open Foundation

/-- What an operation raises: an error of the service, pydantic's refusal to build
a model, or the database's refusal of a row. -/
inductive JobError where
  | service (error : ServiceError)
  | invalidModel (error : ValidationError)
  | integrity (constraint : String)
  deriving DecidableEq

/-! ## Models that are built -/

/-- The field limits of `ResearchJob` that its parts do not carry. -/
def ResearchJob.FieldsValid (job : ResearchJob) : Prop :=
  (1 ≤ job.tenantId.length ∧ job.tenantId.length ≤ 100) ∧
    (1 ≤ job.requesterId.length ∧ job.requesterId.length ≤ 200) ∧
    (∀ detail ∈ job.statusDetail, detail.length ≤ statusDetailLimit) ∧
    (∀ workflowId ∈ job.workflowId, workflowId.length ≤ 255) ∧
    ∀ runId ∈ job.workflowRunId, runId.length ≤ 255

instance (job : ResearchJob) : Decidable job.FieldsValid :=
  inferInstanceAs (Decidable (_ ∧ _))

/-- `ResearchJob(...)`: construct a job or raise. -/
def ResearchJob.validate (job : ResearchJob) : Except JobError ResearchJob :=
  if job.FieldsValid then .ok job
  else .error (.invalidModel ⟨"a job breaks its own field limits"⟩)

/-- The limit of `tenant_id`. -/
def checkTenant (tenantId : String) : Except JobError Unit :=
  if 1 ≤ tenantId.length ∧ tenantId.length ≤ 100 then .ok ()
  else .error (.invalidModel ⟨"tenant_id is not a text of 1 to 100 characters"⟩)

/-- `EvidenceRecord(...)`, with the clock that its validator reads. -/
def EvidenceRecord.validate (record : EvidenceRecord) (now : Timestamp) :
    Except JobError EvidenceRecord := do
  checkTenant record.tenantId
  if record.Published now then
    return record
  else
    throw (.service (.invalidEvidence
      ⟨"evidence cannot carry a future publication date"⟩))

/-- `FindingRecord(...)`. -/
def FindingRecord.validate (record : FindingRecord) : Except JobError FindingRecord := do
  checkTenant record.tenantId
  return record

theorem ResearchJob.validate_eq_ok_iff {job built : ResearchJob} :
    job.validate = .ok built ↔ job.FieldsValid ∧ job = built :=
  ite_eq_ok_iff

theorem checkTenant_eq_ok_iff {tenantId : String} :
    checkTenant tenantId = .ok () ↔ 1 ≤ tenantId.length ∧ tenantId.length ≤ 100 := by
  unfold checkTenant
  rw [ite_eq_ok_iff]
  simp

theorem EvidenceRecord.validate_eq_ok_iff {record built : EvidenceRecord}
    {now : Timestamp} :
    record.validate now = .ok built ↔
      checkTenant record.tenantId = .ok () ∧ record.Published now ∧ record = built := by
  constructor
  · intro isBuilt
    obtain ⟨_, passed, rest⟩ := bind_eq_ok.mp isBuilt
    exact ⟨passed, ite_eq_ok_iff.mp rest⟩
  · rintro ⟨passed, checked⟩
    exact bind_eq_ok.mpr ⟨(), passed, ite_eq_ok_iff.mpr checked⟩

theorem FindingRecord.validate_eq_ok_iff {record built : FindingRecord} :
    record.validate = .ok built ↔
      checkTenant record.tenantId = .ok () ∧ record = built := by
  constructor
  · intro isBuilt
    obtain ⟨_, passed, rest⟩ := bind_eq_ok.mp isBuilt
    exact ⟨passed, Except.ok.inj rest⟩
  · rintro ⟨passed, rfl⟩
    exact bind_eq_ok.mpr ⟨(), passed, rfl⟩

/-- Records that were built are the records that were asked for. -/
theorem FindingRecord.eq_of_mapM_validate {records built : List FindingRecord}
    (all : records.mapM validate = .ok built) : built = records := by
  have each := mapM_eq_ok_iff.mp all
  have same := each.imp fun record result isBuilt => (validate_eq_ok_iff.mp isBuilt).2
  exact (List.forall₂_eq_eq_eq ▸ same : records = built).symm

/-! ## The port -/

/-- `JobRepository`.  A method that writes returns the repository it leaves; a
method that reads evidence builds the records it returns. -/
structure JobRepository (Store : Type) where
  add : Store → ResearchJob → Except JobError Store
  get : Store → String → UUID → Except JobError ResearchJob
  list : Store → String → Except JobError (List ResearchJob)
  update : Store → ResearchJob → Except JobError Store
  addEvidence : Store → EvidenceRecord → Except JobError Store
  listEvidence : Store → String → UUID → Timestamp →
    Except JobError (List EvidenceRecord)
  recordInvocation : Store → ToolInvocation → Except JobError Store
  listInvocations : Store → String → UUID → Except JobError (List ToolInvocation)
  replaceFindings : Store → String → UUID → List FindingRecord → Except JobError Store
  listFindings : Store → String → UUID → Except JobError (List FindingRecord)
  recordPublication : Store → ReportPublication → Except JobError Store
  getPublication : Store → String → UUID → Except JobError (Option ReportPublication)

/-- `InMemoryJobRepository` behind the port. -/
def JobRepository.inMemory : JobRepository InMemoryJobRepository where
  add repository job := .ok (repository.add job)
  get repository tenantId jobId := (repository.get tenantId jobId).mapError .service
  list repository tenantId := .ok (repository.jobs.list tenantId)
  update repository job := (repository.update job).mapError .service
  addEvidence repository record := (repository.addEvidence record).mapError .service
  listEvidence repository tenantId jobId _ :=
    (repository.listEvidence tenantId jobId).mapError .service
  recordInvocation repository invocation :=
    .ok (repository.recordInvocation invocation)
  listInvocations repository tenantId jobId :=
    .ok (repository.listInvocations tenantId jobId)
  replaceFindings repository tenantId jobId findings :=
    (repository.replaceFindings tenantId jobId findings).mapError .service
  listFindings repository tenantId jobId :=
    (repository.listFindings tenantId jobId).mapError .service
  recordPublication repository publication :=
    (repository.recordPublication publication).mapError .service
  getPublication repository tenantId jobId :=
    (repository.getPublication tenantId jobId).mapError .service

/-! ## The operations -/

/-- The identifiers and clock readings that are new in one call. -/
structure Stamps where
  id : UUID
  now : Timestamp
  finding : Nat → UUID × Timestamp

namespace JobService

variable {Store : Type} (repository : JobRepository Store) (store : Store)

/-- The job that `create` builds. -/
def newJob (tenantId requesterId : String) (command : ResearchJobCreate)
    (clearance : AccessClass) (stamps : Stamps) : ResearchJob where
  id := stamps.id
  tenantId := tenantId
  requesterId := requesterId
  question := command.question
  constraints := command.constraints
  sourceRequirements := command.sourceRequirements
  budget := command.budget
  clearance := clearance
  createdAt := stamps.now
  updatedAt := stamps.now

def create (tenantId requesterId : String) (command : ResearchJobCreate)
    (clearance : AccessClass) (stamps : Stamps) :
    Except JobError (ResearchJob × Store) := do
  let job ← (newJob tenantId requesterId command clearance stamps).validate
  let stored ← repository.add store job
  return (job, stored)

def transition (tenantId : String) (jobId : UUID) (target : JobStatus)
    (detail : Option String) (usage : Option JobUsage) (stamps : Stamps) :
    Except JobError (ResearchJob × Store) := do
  let job ← repository.get store tenantId jobId
  match job.transitionTo target detail usage stamps.now with
  | .ok moved =>
      let updated ← repository.update store moved
      return (moved, updated)
  | .error refusal => throw (.service (.invalidStateTransition refusal))

def recordCheckpoint (tenantId : String) (jobId : UUID)
    (workflowId workflowRunId : String) (stamps : Stamps) :
    Except JobError (ResearchJob × Store) := do
  let job ← repository.get store tenantId jobId
  let marked := job.withCheckpoint workflowId workflowRunId stamps.now
  let updated ← repository.update store marked
  return (marked, updated)

/-- The record that `add_evidence` builds. -/
def newEvidence (tenantId : String) (jobId : UUID) (command : EvidenceRecordCreate)
    (stamps : Stamps) : EvidenceRecord where
  toEvidenceRecordCreate := command
  id := stamps.id
  jobId := jobId
  tenantId := tenantId
  retrievedAt := stamps.now

def addEvidence (tenantId : String) (jobId : UUID) (command : EvidenceRecordCreate)
    (stamps : Stamps) : Except JobError (EvidenceRecord × Store) := do
  let _ ← repository.get store tenantId jobId
  let record ← (newEvidence tenantId jobId command stamps).validate stamps.now
  let updated ← repository.addEvidence store record
  return (record, updated)

def recordInvocation (invocation : ToolInvocation) :
    Except JobError (ToolInvocation × Store) := do
  let updated ← repository.recordInvocation store invocation
  return (invocation, updated)

/-- `list_invocations`: unlike the repository, the service asks for the job. -/
def listInvocations (tenantId : String) (jobId : UUID) :
    Except JobError (List ToolInvocation) := do
  let _ ← repository.get store tenantId jobId
  repository.listInvocations store tenantId jobId

def recordFindings (tenantId : String) (jobId : UUID) (findings : List Finding)
    (stamps : Stamps) : Except JobError (List FindingRecord × Store) := do
  let _ ← repository.get store tenantId jobId
  let records ←
    (ResearchJobService.findingRecords tenantId jobId findings stamps.finding).mapM
      FindingRecord.validate
  let updated ← repository.replaceFindings store tenantId jobId records
  return (records, updated)

def recordPublication (publication : ReportPublication) :
    Except JobError (ReportPublication × Store) := do
  let updated ← repository.recordPublication store publication
  return (publication, updated)

end JobService

/-! ## Two repositories compared -/

section Comparison

variable {Store Other : Type} {related : Store → Other → Prop}
  {first : JobRepository Store} {second : JobRepository Other} {store : Store}
  {other : Other}

/-- The same answer, and related repositories. -/
def SameAnswer {Value : Type} (related : Store → Other → Prop)
    (left : Value × Store) (right : Value × Other) : Prop :=
  left.1 = right.1 ∧ related left.2 right.2

namespace JobService

theorem create_alike {tenantId requesterId : String} {command : ResearchJobCreate}
    {clearance : AccessClass} {stamps : Stamps}
    (adds : (newJob tenantId requesterId command clearance stamps).FieldsValid →
      Alike related
        (first.add store (newJob tenantId requesterId command clearance stamps))
        (second.add other (newJob tenantId requesterId command clearance stamps))) :
    Alike (SameAnswer related)
      (create first store tenantId requesterId command clearance stamps)
      (create second other tenantId requesterId command clearance stamps) := by
  apply Alike.bind_same rfl
  intro job built
  obtain ⟨valid, rfl⟩ := ResearchJob.validate_eq_ok_iff.mp built
  apply Alike.bind (adds valid)
  intro left right both
  exact Alike.ok ⟨rfl, both⟩

theorem transition_alike {tenantId : String} {jobId : UUID} {target : JobStatus}
    {detail : Option String} {usage : Option JobUsage} {stamps : Stamps}
    (gets : first.get store tenantId jobId = second.get other tenantId jobId)
    (updates : ∀ job moved, first.get store tenantId jobId = .ok job →
      job.transitionTo target detail usage stamps.now = .ok moved →
        Alike related (first.update store moved) (second.update other moved)) :
    Alike (SameAnswer related)
      (transition first store tenantId jobId target detail usage stamps)
      (transition second other tenantId jobId target detail usage stamps) := by
  apply Alike.bind_same gets
  intro job found
  cases moves : job.transitionTo target detail usage stamps.now with
  | error refusal => exact Alike.error _
  | ok moved =>
      apply Alike.bind (updates job moved found moves)
      intro left right both
      exact Alike.ok ⟨rfl, both⟩

theorem recordCheckpoint_alike {tenantId : String} {jobId : UUID}
    {workflowId workflowRunId : String} {stamps : Stamps}
    (gets : first.get store tenantId jobId = second.get other tenantId jobId)
    (updates : ∀ job, first.get store tenantId jobId = .ok job →
      Alike related
        (first.update store (job.withCheckpoint workflowId workflowRunId stamps.now))
        (second.update other (job.withCheckpoint workflowId workflowRunId stamps.now))) :
    Alike (SameAnswer related)
      (recordCheckpoint first store tenantId jobId workflowId workflowRunId stamps)
      (recordCheckpoint second other tenantId jobId workflowId workflowRunId stamps) := by
  apply Alike.bind_same gets
  intro job found
  apply Alike.bind (updates job found)
  intro left right both
  exact Alike.ok ⟨rfl, both⟩

theorem addEvidence_alike {tenantId : String} {jobId : UUID}
    {command : EvidenceRecordCreate} {stamps : Stamps}
    (gets : first.get store tenantId jobId = second.get other tenantId jobId)
    (adds : ∀ job, first.get store tenantId jobId = .ok job →
      command.Published stamps.now →
        Alike related
          (first.addEvidence store (newEvidence tenantId jobId command stamps))
          (second.addEvidence other (newEvidence tenantId jobId command stamps))) :
    Alike (SameAnswer related)
      (addEvidence first store tenantId jobId command stamps)
      (addEvidence second other tenantId jobId command stamps) := by
  apply Alike.bind_same gets
  intro job found
  apply Alike.bind_same rfl
  intro record built
  obtain ⟨-, published, rfl⟩ := EvidenceRecord.validate_eq_ok_iff.mp built
  apply Alike.bind (adds job found published)
  intro left right both
  exact Alike.ok ⟨rfl, both⟩

theorem recordInvocation_alike {invocation : ToolInvocation}
    (records : Alike related (first.recordInvocation store invocation)
      (second.recordInvocation other invocation)) :
    Alike (SameAnswer related) (recordInvocation first store invocation)
      (recordInvocation second other invocation) := by
  apply Alike.bind records
  intro left right both
  exact Alike.ok ⟨rfl, both⟩

theorem listInvocations_same {tenantId : String} {jobId : UUID}
    (gets : first.get store tenantId jobId = second.get other tenantId jobId)
    (lists : first.listInvocations store tenantId jobId =
      second.listInvocations other tenantId jobId) :
    listInvocations first store tenantId jobId =
      listInvocations second other tenantId jobId := by
  unfold listInvocations
  rw [gets, lists]

theorem recordFindings_alike {tenantId : String} {jobId : UUID}
    {findings : List Finding} {stamps : Stamps}
    (gets : first.get store tenantId jobId = second.get other tenantId jobId)
    (replaces : ∀ job, first.get store tenantId jobId = .ok job →
      let records :=
        ResearchJobService.findingRecords tenantId jobId findings stamps.finding
      Alike related (first.replaceFindings store tenantId jobId records)
        (second.replaceFindings other tenantId jobId records)) :
    Alike (SameAnswer related)
      (recordFindings first store tenantId jobId findings stamps)
      (recordFindings second other tenantId jobId findings stamps) := by
  apply Alike.bind_same gets
  intro job found
  apply Alike.bind_same rfl
  intro records built
  rw [FindingRecord.eq_of_mapM_validate built]
  apply Alike.bind (replaces job found)
  intro left right both
  exact Alike.ok ⟨rfl, both⟩

theorem recordPublication_alike {publication : ReportPublication}
    (records : Alike related (first.recordPublication store publication)
      (second.recordPublication other publication)) :
    Alike (SameAnswer related) (recordPublication first store publication)
      (recordPublication second other publication) := by
  apply Alike.bind records
  intro left right both
  exact Alike.ok ⟨rfl, both⟩

end JobService

end Comparison

/-! ## Calls and answers -/

/-- One call of the service. -/
inductive RepositoryCall where
  | create (tenantId requesterId : String) (command : ResearchJobCreate)
      (clearance : AccessClass)
  | get (tenantId : String) (jobId : UUID)
  | list (tenantId : String)
  | transition (tenantId : String) (jobId : UUID) (target : JobStatus)
      (detail : Option String) (usage : Option JobUsage)
  | recordCheckpoint (tenantId : String) (jobId : UUID)
      (workflowId workflowRunId : String)
  | addEvidence (tenantId : String) (jobId : UUID) (command : EvidenceRecordCreate)
  | listEvidence (tenantId : String) (jobId : UUID)
  | recordInvocation (invocation : ToolInvocation)
  | listInvocations (tenantId : String) (jobId : UUID)
  | recordFindings (tenantId : String) (jobId : UUID) (findings : List Finding)
  | listFindings (tenantId : String) (jobId : UUID)
  | recordPublication (publication : ReportPublication)
  | getPublication (tenantId : String) (jobId : UUID)

/-- The tenant that a call acts for. -/
def RepositoryCall.tenant : RepositoryCall → String
  | create tenantId .. => tenantId
  | get tenantId _ => tenantId
  | list tenantId => tenantId
  | transition tenantId .. => tenantId
  | recordCheckpoint tenantId .. => tenantId
  | addEvidence tenantId .. => tenantId
  | listEvidence tenantId _ => tenantId
  | recordInvocation invocation => invocation.tenantId
  | listInvocations tenantId _ => tenantId
  | recordFindings tenantId .. => tenantId
  | listFindings tenantId _ => tenantId
  | recordPublication publication => publication.tenantId
  | getPublication tenantId _ => tenantId

inductive JobAnswer where
  | job (job : ResearchJob)
  | jobs (jobs : List ResearchJob)
  | evidence (record : EvidenceRecord)
  | evidenceList (records : List EvidenceRecord)
  | invocation (invocation : ToolInvocation)
  | invocations (invocations : List ToolInvocation)
  | findings (findings : List FindingRecord)
  | publication (publication : ReportPublication)
  | publicationOf (publication : Option ReportPublication)

/-- The answer to an operation that reads. -/
def reading {Store Value : Type} (store : Store) (answer : Value → JobAnswer)
    (outcome : Except JobError Value) : Except JobError JobAnswer × Store :=
  (outcome.map answer, store)

/-- The answer to an operation that writes; one that raises leaves the store as it
was. -/
def writing {Store Value : Type} (store : Store) (answer : Value → JobAnswer) :
    Except JobError (Value × Store) → Except JobError JobAnswer × Store
  | .ok (value, updated) => (.ok (answer value), updated)
  | .error error => (.error error, store)

theorem reading_alike {Store Other Value : Type} {related : Store → Other → Prop}
    {store : Store} {other : Other} {answer : Value → JobAnswer}
    {first second : Except JobError Value} (start : related store other)
    (same : first = second) :
    (reading store answer first).1 = (reading other answer second).1 ∧
      related (reading store answer first).2 (reading other answer second).2 :=
  ⟨by rw [same]; rfl, start⟩

theorem writing_alike {Store Other Value : Type} {related : Store → Other → Prop}
    {store : Store} {other : Other} {answer : Value → JobAnswer}
    {first : Except JobError (Value × Store)} {second : Except JobError (Value × Other)}
    (start : related store other) (alike : Alike (SameAnswer related) first second) :
    (writing store answer first).1 = (writing other answer second).1 ∧
      related (writing store answer first).2 (writing other answer second).2 := by
  cases alike with
  | ok both =>
      obtain ⟨same, still⟩ := both
      exact ⟨congrArg (fun value => Except.ok (answer value)) same, still⟩
  | error fault => exact ⟨rfl, start⟩

/-- `ResearchJobService`, one call at a time. -/
def JobRepository.serve {Store : Type} (repository : JobRepository Store) :
    Service Store (RepositoryCall × Stamps) (Except JobError JobAnswer) :=
  fun store (call, stamps) =>
    match call with
    | .create tenantId requesterId command clearance =>
        writing store .job
          (JobService.create repository store tenantId requesterId command clearance
            stamps)
    | .get tenantId jobId => reading store .job (repository.get store tenantId jobId)
    | .list tenantId => reading store .jobs (repository.list store tenantId)
    | .transition tenantId jobId target detail usage =>
        writing store .job
          (JobService.transition repository store tenantId jobId target detail usage
            stamps)
    | .recordCheckpoint tenantId jobId workflowId workflowRunId =>
        writing store .job
          (JobService.recordCheckpoint repository store tenantId jobId workflowId
            workflowRunId stamps)
    | .addEvidence tenantId jobId command =>
        writing store .evidence
          (JobService.addEvidence repository store tenantId jobId command stamps)
    | .listEvidence tenantId jobId =>
        reading store .evidenceList
          (repository.listEvidence store tenantId jobId stamps.now)
    | .recordInvocation invocation =>
        writing store .invocation
          (JobService.recordInvocation repository store invocation)
    | .listInvocations tenantId jobId =>
        reading store .invocations
          (JobService.listInvocations repository store tenantId jobId)
    | .recordFindings tenantId jobId findings =>
        writing store .findings
          (JobService.recordFindings repository store tenantId jobId findings stamps)
    | .listFindings tenantId jobId =>
        reading store .findings (repository.listFindings store tenantId jobId)
    | .recordPublication publication =>
        writing store .publication
          (JobService.recordPublication repository store publication)
    | .getPublication tenantId jobId =>
        reading store .publicationOf (repository.getPublication store tenantId jobId)

/-! ## What a call writes -/

section Writes

open InMemoryJobRepository

variable {repository updated : InMemoryJobRepository} {stamps : Stamps}

/-- The repositories that a call can leave. -/
inductive Wrote (repository : InMemoryJobRepository) (stamps : Stamps) :
    RepositoryCall → InMemoryJobRepository → Prop
  | nothing {call : RepositoryCall} : Wrote repository stamps call repository
  | job {call : RepositoryCall} {job : ResearchJob} (owned : job.tenantId = call.tenant) :
      Wrote repository stamps call (repository.add job)
  | evidence {tenantId : String} {jobId : UUID} {command : EvidenceRecordCreate} :
      Wrote repository stamps (.addEvidence tenantId jobId command)
        (repository.appendEvidence
          (JobService.newEvidence tenantId jobId command stamps))
  | invocation {invocation : ToolInvocation} :
      Wrote repository stamps (.recordInvocation invocation)
        (repository.recordInvocation invocation)
  | findings {tenantId : String} {jobId : UUID} {findings : List Finding}
      {records : List FindingRecord} :
      Wrote repository stamps (.recordFindings tenantId jobId findings)
        { repository with
          findings := repository.findings.set (tenantId, jobId) records }
  | publication {publication : ReportPublication} :
      Wrote repository stamps (.recordPublication publication)
        { repository with
          publications :=
            repository.publications.set (publication.tenantId, publication.jobId)
              publication }

theorem InMemoryJobRepository.update_eq_ok {job : ResearchJob}
    (updates : repository.update job = .ok updated) : updated = repository.add job := by
  obtain ⟨jobs, changed, rfl⟩ := map_eq_ok.mp updates
  unfold JobTable.update at changed
  cases found : repository.jobs.rows.get? job.key with
  | none =>
      rw [found] at changed
      cases changed
  | some row =>
      rw [found] at changed
      rw [← Except.ok.inj changed]
      rfl

/-- A stored job is of the tenant it is read for. -/
theorem tenant_of_get {tenantId : String} {jobId : UUID} {job : ResearchJob}
    (found : JobRepository.inMemory.get repository tenantId jobId = .ok job) :
    job.tenantId = tenantId := by
  have stored : repository.get tenantId jobId = .ok job := mapError_eq_ok.mp found
  exact congrArg Prod.fst (JobTable.key_of_get stored)

theorem tenant_of_transitionTo {job moved : ResearchJob} {target : JobStatus}
    {detail : Option String} {usage : Option JobUsage} {now : Timestamp}
    (moves : job.transitionTo target detail usage now = .ok moved) :
    moved.tenantId = job.tenantId := by
  obtain ⟨-, rfl⟩ := ResearchJob.transitionTo_eq_ok_iff.mp moves
  rfl

/-- An operation that raises writes nothing. -/
theorem wrote_writing {Value : Type} {answer : Value → JobAnswer} {call : RepositoryCall}
    {outcome : Except JobError (Value × InMemoryJobRepository)}
    (writes : ∀ value updated, outcome = .ok (value, updated) →
      Wrote repository stamps call updated) :
    Wrote repository stamps call (writing repository answer outcome).2 := by
  cases outcome with
  | error error => exact Wrote.nothing
  | ok result => exact writes result.1 result.2 rfl

/-- Every call leaves one of these. -/
theorem wrote_serve (repository : InMemoryJobRepository) (call : RepositoryCall)
    (stamps : Stamps) :
    Wrote repository stamps call
      (JobRepository.inMemory.serve repository (call, stamps)).2 := by
  cases call with
  | create owner requesterId command clearance =>
      apply wrote_writing
      intro _ _ created
      obtain ⟨job, built, created⟩ := bind_eq_ok.mp created
      obtain ⟨-, rfl⟩ := ResearchJob.validate_eq_ok_iff.mp built
      obtain ⟨_, added, created⟩ := bind_eq_ok.mp created
      obtain ⟨-, rfl⟩ := Prod.mk.inj (Except.ok.inj created)
      obtain rfl := Except.ok.inj added
      exact Wrote.job rfl
  | transition owner jobId target detail usage =>
      apply wrote_writing
      intro _ _ moved
      obtain ⟨job, found, moved⟩ := bind_eq_ok.mp moved
      cases moves : job.transitionTo target detail usage stamps.now with
      | error refusal =>
          rw [moves] at moved
          cases moved
      | ok target =>
          rw [moves] at moved
          obtain ⟨_, updates, moved⟩ := bind_eq_ok.mp moved
          obtain ⟨-, rfl⟩ := Prod.mk.inj (Except.ok.inj moved)
          rw [InMemoryJobRepository.update_eq_ok (mapError_eq_ok.mp updates)]
          exact Wrote.job ((tenant_of_transitionTo moves).trans (tenant_of_get found))
  | recordCheckpoint owner jobId workflowId workflowRunId =>
      apply wrote_writing
      intro _ _ marked
      obtain ⟨job, found, marked⟩ := bind_eq_ok.mp marked
      obtain ⟨_, updates, marked⟩ := bind_eq_ok.mp marked
      obtain ⟨-, rfl⟩ := Prod.mk.inj (Except.ok.inj marked)
      rw [InMemoryJobRepository.update_eq_ok (mapError_eq_ok.mp updates)]
      have stored : job.tenantId = owner := tenant_of_get found
      exact Wrote.job stored
  | addEvidence owner jobId command =>
      apply wrote_writing
      intro _ _ added
      obtain ⟨_, -, added⟩ := bind_eq_ok.mp added
      obtain ⟨record, built, added⟩ := bind_eq_ok.mp added
      obtain ⟨-, -, rfl⟩ := EvidenceRecord.validate_eq_ok_iff.mp built
      obtain ⟨_, adds, added⟩ := bind_eq_ok.mp added
      obtain ⟨-, rfl⟩ := Prod.mk.inj (Except.ok.inj added)
      obtain ⟨_, -, rfl⟩ := map_eq_ok.mp (mapError_eq_ok.mp adds)
      exact Wrote.evidence
  | recordInvocation invocation =>
      apply wrote_writing
      intro _ _ recorded
      obtain ⟨-, rfl⟩ := Prod.mk.inj (Except.ok.inj recorded)
      exact Wrote.invocation
  | recordFindings owner jobId findings =>
      apply wrote_writing
      intro _ _ recorded
      obtain ⟨_, -, recorded⟩ := bind_eq_ok.mp recorded
      obtain ⟨_, -, recorded⟩ := bind_eq_ok.mp recorded
      obtain ⟨_, replaces, recorded⟩ := bind_eq_ok.mp recorded
      obtain ⟨-, rfl⟩ := Prod.mk.inj (Except.ok.inj recorded)
      obtain ⟨_, -, rfl⟩ := map_eq_ok.mp (mapError_eq_ok.mp replaces)
      exact Wrote.findings
  | recordPublication publication =>
      apply wrote_writing
      intro _ _ recorded
      obtain ⟨_, records, recorded⟩ := bind_eq_ok.mp recorded
      obtain ⟨-, rfl⟩ := Prod.mk.inj (Except.ok.inj recorded)
      obtain ⟨_, -, rfl⟩ := map_eq_ok.mp (mapError_eq_ok.mp records)
      exact Wrote.publication
  | get | list | listEvidence | listInvocations | listFindings | getPublication =>
      exact Wrote.nothing

end Writes

end ResearchPlatform
