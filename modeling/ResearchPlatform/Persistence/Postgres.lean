import ResearchPlatform.Application.Jobs

/-!
# The durable repository

`PostgresJobRepository.update` sets the columns that a job's progress changes
and leaves the others of the row as they are.
-/

namespace ResearchPlatform

open Foundation

/-- The row with the columns the statement sets taken from `written`. -/
def ResearchJob.withProgressOf (row written : ResearchJob) : ResearchJob :=
  { row with
    status := written.status
    statusDetail := written.statusDetail
    usage := written.usage
    workflowId := written.workflowId
    workflowRunId := written.workflowRunId
    updatedAt := written.updatedAt }

/-- `PostgresJobRepository.update`. -/
def JobTable.updateProgress (table : JobTable) (job : ResearchJob) :
    Except ServiceError JobTable :=
  match table.rows.get? job.key with
  | some row => .ok (table.add (row.withProgressOf job))
  | none => .error (.jobNotFound job.id)

/-- The two repositories that implement `JobRepository`. -/
inductive Backend where
  | inMemory
  | postgres
  deriving DecidableEq, Repr

/-- `JobRepository.update` of either repository. -/
def Backend.update : Backend → JobTable → ResearchJob → Except ServiceError JobTable
  | inMemory => JobTable.update
  | postgres => JobTable.updateProgress

/-- The two jobs differ at most in the columns that progress changes. -/
def SameAssignment (row job : ResearchJob) : Prop := row.withProgressOf job = job

theorem SameAssignment.of_common {job first second : ResearchJob}
    (left : SameAssignment job first) (right : SameAssignment job second) :
    SameAssignment first second := by
  calc
    first.withProgressOf second = (job.withProgressOf first).withProgressOf second := by
      rw [left]
    _ = job.withProgressOf second := rfl
    _ = second := right

theorem SameAssignment.key_eq {row job : ResearchJob}
    (same : SameAssignment row job) : job.key = row.key := by
  rw [← same]
  rfl

theorem ResearchJob.sameAssignment_transitionTo {job moved : ResearchJob}
    {target : JobStatus} {detail : Option String} {usage : Option JobUsage}
    {now : Timestamp} (accepted : job.transitionTo target detail usage now = .ok moved) :
    SameAssignment job moved := by
  obtain ⟨-, rfl⟩ := ResearchJob.transitionTo_eq_ok_iff.mp accepted
  rfl

theorem ResearchJob.sameAssignment_withCheckpoint (job : ResearchJob)
    (workflowId workflowRunId : String) (now : Timestamp) :
    SameAssignment job (job.withCheckpoint workflowId workflowRunId now) := rfl

/-- Either repository stores the job it is given, where only its progress
changed. -/
theorem Backend.update_eq_ok (backend : Backend) {table : JobTable}
    {tenantId : String} {jobId : UUID} {row moved : ResearchJob}
    (found : table.get tenantId jobId = .ok row)
    (same : SameAssignment row moved) :
    backend.update table moved = .ok (table.add moved) := by
  have movedKey : moved.key = (tenantId, jobId) :=
    same.key_eq.trans (JobTable.key_of_get found)
  cases backend with
  | inMemory => exact JobTable.update_eq_ok found movedKey
  | postgres =>
      change JobTable.updateProgress table moved = _
      unfold JobTable.updateProgress
      rw [movedKey, JobTable.get_eq_ok_iff.mp found]
      exact congrArg (fun job => Except.ok (table.add job)) same

end ResearchPlatform
