import ResearchPlatform.Foundation.ReadModifyWrite
import ResearchPlatform.Persistence.Postgres

/-!
# Concurrent updates of one job

`transition` and `recordCheckpoint` read the whole job, change a copy and write
it back.  Two such calls are serializable except when both read the stored job
before either writes and the copy written last does not build on the other.
-/

namespace ResearchPlatform

open Foundation ReadModifyWrite

/-- The operations of the service that update a stored job. -/
inductive JobOperation where
  | transition (target : JobStatus) (detail : Option String)
      (usage : Option JobUsage)
  | recordCheckpoint (workflowId workflowRunId : String)

/-- One call, with the reading of the clock its copy is stamped with. -/
structure JobCall where
  operation : JobOperation
  now : Timestamp

namespace JobCall

/-- The changed copy of the job that was read, or the refusal. -/
def revise (call : JobCall) (job : ResearchJob) :
    Except InvalidStateTransition ResearchJob :=
  match call.operation with
  | .transition target detail usage => job.transitionTo target detail usage call.now
  | .recordCheckpoint workflowId workflowRunId =>
      .ok (job.withCheckpoint workflowId workflowRunId call.now)

/-- A call as two steps on the stored jobs: `JobRepository.get`, then
`JobRepository.update` unless the transition is refused. -/
def client (backend : Backend) (tenantId : String) (jobId : UUID) (call : JobCall) :
    Client JobTable ResearchJob (Except ServiceError ResearchJob) where
  read table :=
    match table.get tenantId jobId with
    | .error error => .inl (.error error)
    | .ok job =>
        match call.revise job with
        | .ok moved => .inr moved
        | .error refusal => .inl (.error (.invalidStateTransition refusal))
  write moved table :=
    match backend.update table moved with
    | .ok updated => (.ok moved, updated)
    | .error error => (.error error, table)

/-- A call whose two steps nothing separates. -/
def perform (call : JobCall) (repository : InMemoryJobRepository)
    (tenantId : String) (jobId : UUID) :
    Except ServiceError (ResearchJob × InMemoryJobRepository) :=
  match (call.client .inMemory tenantId jobId).read repository.jobs with
  | .inl reply => reply.map fun job => (job, repository)
  | .inr moved =>
      let (reply, jobs) :=
        (call.client .inMemory tenantId jobId).write moved repository.jobs
      reply.map fun job => (job, { repository with jobs := jobs })

end JobCall

/-- The two steps together are `ResearchJobService.transition`. -/
theorem perform_transition (repository : InMemoryJobRepository) (tenantId : String)
    (jobId : UUID) (target : JobStatus) (detail : Option String)
    (usage : Option JobUsage) (now : Timestamp) :
    JobCall.perform ⟨.transition target detail usage, now⟩ repository tenantId jobId =
      ResearchJobService.transition repository tenantId jobId target detail usage
        now := by
  unfold JobCall.perform ResearchJobService.transition JobCall.client
  simp only [InMemoryJobRepository.get, InMemoryJobRepository.update, JobCall.revise]
  cases repository.jobs.get tenantId jobId with
  | error error => rfl
  | ok job =>
      cases revised : job.transitionTo target detail usage now with
      | error refusal => simp [revised, Except.map, bind, Except.bind, throw,
          throwThe, MonadExceptOf.throw]
      | ok moved =>
          simp only [revised, Backend.update, bind, Except.bind]
          cases repository.jobs.update moved <;> rfl

/-- The two steps together are `ResearchJobService.record_checkpoint`. -/
theorem perform_recordCheckpoint (repository : InMemoryJobRepository)
    (tenantId : String) (jobId : UUID) (workflowId workflowRunId : String)
    (now : Timestamp) :
    JobCall.perform ⟨.recordCheckpoint workflowId workflowRunId, now⟩ repository
        tenantId jobId =
      ResearchJobService.recordCheckpoint repository tenantId jobId workflowId
        workflowRunId now := by
  unfold JobCall.perform ResearchJobService.recordCheckpoint JobCall.client
  simp only [InMemoryJobRepository.get, InMemoryJobRepository.update, JobCall.revise]
  cases repository.jobs.get tenantId jobId with
  | error error => rfl
  | ok job =>
      simp only [Backend.update, bind, Except.bind]
      cases repository.jobs.update (job.withCheckpoint workflowId workflowRunId now) <;>
        rfl

/-- The copy written last builds on the one written first: it is the copy that
would have been made of the job as the first call left it. -/
def Compatible (job : ResearchJob) (first last : JobCall) : Prop :=
  match first.operation, last.operation with
  | .recordCheckpoint _ _, .recordCheckpoint _ _ => True
  | .recordCheckpoint workflowId workflowRunId, .transition _ _ _ =>
      job.workflowId = some workflowId ∧ job.workflowRunId = some workflowRunId
  | .transition target _ usage, .transition lastTarget _ lastUsage =>
      lastTarget ∈ target.allowedTransitions ∧
        lastUsage.getD (usage.getD job.usage) = lastUsage.getD job.usage
  | .transition _ _ _, .recordCheckpoint _ _ => False

section Copies

variable {job moved lastMoved : ResearchJob} {call first last : JobCall}

theorem JobCall.sameAssignment_revise (revised : call.revise job = .ok moved) :
    SameAssignment job moved := by
  unfold JobCall.revise at revised
  split at revised
  · exact ResearchJob.sameAssignment_transitionTo revised
  · cases revised
    exact ResearchJob.sameAssignment_withCheckpoint ..

/-- The last copy is the one a serial run makes exactly when the two calls are
compatible on the job that both read. -/
theorem revise_revised_iff (revised : first.revise job = .ok moved)
    (lastRevised : last.revise job = .ok lastMoved) :
    last.revise moved = .ok lastMoved ↔ Compatible job first last := by
  obtain ⟨operation, now⟩ := first
  obtain ⟨lastOperation, lastNow⟩ := last
  cases operation with
  | transition target detail usage =>
      obtain ⟨allowed, rfl⟩ := ResearchJob.transitionTo_eq_ok_iff.mp revised
      cases lastOperation with
      | transition lastTarget lastDetail lastUsage =>
          obtain ⟨-, rfl⟩ := ResearchJob.transitionTo_eq_ok_iff.mp lastRevised
          simp only [JobCall.revise, ResearchJob.transitionTo_eq_ok_iff, Compatible]
          simp [eq_comm]
      | recordCheckpoint workflowId workflowRunId =>
          cases lastRevised
          have changed : target ≠ job.status := by
            rintro rfl
            exact JobStatus.not_mem_allowedTransitions_self _ allowed
          simp [JobCall.revise, ResearchJob.withCheckpoint, Compatible, changed]
  | recordCheckpoint workflowId workflowRunId =>
      cases revised
      cases lastOperation with
      | transition lastTarget lastDetail lastUsage =>
          obtain ⟨allowed, rfl⟩ := ResearchJob.transitionTo_eq_ok_iff.mp lastRevised
          simp only [JobCall.revise, ResearchJob.transitionTo_eq_ok_iff, Compatible]
          simp [ResearchJob.withCheckpoint, allowed]
      | recordCheckpoint lastWorkflowId lastRunId =>
          cases lastRevised
          simp [JobCall.revise, ResearchJob.withCheckpoint, Compatible]

/-- Two calls that leave equal copies of the job, the first made over again, are
two checkpoints. -/
theorem compatible_of_same_copy (revised : first.revise job = .ok moved)
    (lastRevised : last.revise job = .ok moved)
    (again : first.revise moved = .ok moved) : Compatible job first last := by
  obtain ⟨operation, now⟩ := first
  obtain ⟨lastOperation, lastNow⟩ := last
  cases operation with
  | transition target detail usage =>
      obtain ⟨-, rfl⟩ := ResearchJob.transitionTo_eq_ok_iff.mp revised
      obtain ⟨allowed, -⟩ := ResearchJob.transitionTo_eq_ok_iff.mp again
      exact absurd allowed (JobStatus.not_mem_allowedTransitions_self target)
  | recordCheckpoint workflowId workflowRunId =>
      cases lastOperation with
      | transition lastTarget lastDetail lastUsage =>
          obtain ⟨allowed, same⟩ := ResearchJob.transitionTo_eq_ok_iff.mp lastRevised
          cases revised
          have sameStatus : job.status = lastTarget :=
            congrArg ResearchJob.status same
          rw [← sameStatus] at allowed
          exact absurd allowed (JobStatus.not_mem_allowedTransitions_self _)
      | recordCheckpoint lastWorkflowId lastRunId => trivial

end Copies

/-! ## The two calls on the stored jobs -/

section Steps

variable (backend : Backend) (calls : Side → JobCall) {tenantId : String}
  {jobId : UUID} {table : JobTable} {job moved otherMoved : ResearchJob}

/-- The two callers. -/
def callers (tenantId : String) (jobId : UUID) (side : Side) :
    Client JobTable ResearchJob (Except ServiceError ResearchJob) :=
  (calls side).client backend tenantId jobId

variable {first : Side}

theorem read_of_refused {refusal : InvalidStateTransition}
    (found : table.get tenantId jobId = .ok job)
    (refused : (calls first).revise job = .error refusal) :
    (callers backend calls tenantId jobId first).read table =
      .inl (.error (.invalidStateTransition refusal)) := by
  simp only [callers, JobCall.client, found, refused]

theorem read_of_accepted (found : table.get tenantId jobId = .ok job)
    (revised : (calls first).revise job = .ok moved) :
    (callers backend calls tenantId jobId first).read table = .inr moved := by
  simp only [callers, JobCall.client, found, revised]

theorem write_of_sameAssignment (found : table.get tenantId jobId = .ok job)
    (same : SameAssignment job moved) :
    (callers backend calls tenantId jobId first).write moved table =
      (.ok moved, table.add moved) := by
  simp only [callers, JobCall.client, backend.update_eq_ok found same]

/-- A job that only made progress is found where the old one was. -/
theorem get_add_of_sameAssignment (found : table.get tenantId jobId = .ok job)
    (same : SameAssignment job moved) :
    (table.add moved).get tenantId jobId = .ok moved := by
  have sameKey : moved.key = (tenantId, jobId) :=
    same.key_eq.trans (JobTable.key_of_get found)
  obtain ⟨rfl, rfl⟩ := Prod.mk.injEq .. ▸ sameKey
  exact JobTable.get_add_self

/-- Both calls decided on the stored job: the row ends as the second writer's
copy, and both callers are told that their call succeeded. -/
theorem overlapped_of_accepted (found : table.get tenantId jobId = .ok job)
    (revised : (calls first).revise job = .ok moved)
    (otherRevised : (calls first.other).revise job = .ok otherMoved) :
    let race := overlapped (callers backend calls tenantId jobId) table first
    race.store = table.add otherMoved ∧ race.phase first = .finished (.ok moved) ∧
      race.phase first.other = .finished (.ok otherMoved) := by
  have same := JobCall.sameAssignment_revise revised
  have otherSame := JobCall.sameAssignment_revise otherRevised
  have outcome := overlapped_of_held
    (read_of_accepted backend calls found revised)
    (read_of_accepted backend calls found otherRevised)
  rw [write_of_sameAssignment backend calls found same] at outcome
  simp only [write_of_sameAssignment backend calls
    (get_add_of_sameAssignment found same) (same.of_common otherSame)] at outcome
  rwa [JobTable.add_add (otherSame.key_eq.trans same.key_eq.symm)] at outcome

/-- A serial run whose first call is accepted leaves the second the new row. -/
theorem serial_of_accepted (found : table.get tenantId jobId = .ok job)
    (revised : (calls first).revise job = .ok moved) :
    serial (callers backend calls tenantId jobId) table first =
      settle (callers backend calls tenantId jobId)
        ⟨table.add moved,
          Function.update (fun _ => .ready) first (.finished (.ok moved))⟩
        first.other := by
  have firstSettled : settle (callers backend calls tenantId jobId)
      (Race.start table) first = _ :=
    settle_of_held rfl (read_of_accepted backend calls found revised)
  have written : (callers backend calls tenantId jobId first).write moved table = _ :=
    write_of_sameAssignment backend calls found
      (JobCall.sameAssignment_revise revised)
  simp only [Race.start, written] at firstSettled
  rw [serial, Race.start, firstSettled]

/-- A serial run of two accepted calls. -/
theorem serial_outcome_of_accepted (found : table.get tenantId jobId = .ok job)
    (revised : (calls first).revise job = .ok moved)
    (otherRevised : (calls first.other).revise moved = .ok otherMoved) :
    let race := serial (callers backend calls tenantId jobId) table first
    race.store = table.add otherMoved ∧ race.phase first = .finished (.ok moved) ∧
      race.phase first.other = .finished (.ok otherMoved) := by
  have same := JobCall.sameAssignment_revise revised
  have otherSame := JobCall.sameAssignment_revise otherRevised
  have foundMoved := get_add_of_sameAssignment found same
  have written : (callers backend calls tenantId jobId first.other).write otherMoved
      (table.add moved) = _ :=
    write_of_sameAssignment backend calls foundMoved otherSame
  rw [JobTable.add_add otherSame.key_eq] at written
  rw [serial_of_accepted backend calls found revised,
    settle_of_held (by simp) (read_of_accepted backend calls foundMoved otherRevised)]
  simp [written]

/-- A serial run whose second call is refused. -/
theorem serial_outcome_of_refused {refusal : InvalidStateTransition}
    (found : table.get tenantId jobId = .ok job)
    (revised : (calls first).revise job = .ok moved)
    (otherRefused : (calls first.other).revise moved = .error refusal) :
    (serial (callers backend calls tenantId jobId) table first).phase first.other =
      .finished (.error (.invalidStateTransition refusal)) := by
  have foundMoved :=
    get_add_of_sameAssignment found (JobCall.sameAssignment_revise revised)
  rw [serial_of_accepted backend calls found revised,
    settle_of_refused (by simp) (read_of_refused backend calls foundMoved otherRefused)]
  simp

/-- Two overlapping calls are as good as serial, the first writer first, exactly
when they are compatible. -/
theorem overlapped_eq_serial_iff (found : table.get tenantId jobId = .ok job)
    (revised : (calls first).revise job = .ok moved)
    (otherRevised : (calls first.other).revise job = .ok otherMoved) :
    overlapped (callers backend calls tenantId jobId) table first =
        serial (callers backend calls tenantId jobId) table first ↔
      Compatible job (calls first) (calls first.other) := by
  obtain ⟨store, reply, otherReply⟩ :=
    overlapped_of_accepted backend calls found revised otherRevised
  rw [← revise_revised_iff revised otherRevised, Race.eq_iff first, store, reply,
    otherReply]
  cases again : (calls first.other).revise moved with
  | error refusal =>
      rw [serial_outcome_of_refused backend calls found revised again]
      simp
  | ok otherAgain =>
      obtain ⟨serialStore, serialReply, serialOther⟩ :=
        serial_outcome_of_accepted backend calls found revised again
      rw [serialStore, serialReply, serialOther]
      constructor
      · rintro ⟨-, -, sameReply⟩
        simpa using sameReply.symm
      · intro sameCopy
        obtain rfl : otherAgain = otherMoved := by simpa using sameCopy
        exact ⟨rfl, rfl, rfl⟩

/-- Overlapping calls that look serial with the second writer first are
compatible all the same. -/
theorem compatible_of_overlapped_eq_serial_other
    (found : table.get tenantId jobId = .ok job)
    (revised : (calls first).revise job = .ok moved)
    (otherRevised : (calls first.other).revise job = .ok otherMoved)
    (equal : overlapped (callers backend calls tenantId jobId) table first =
      serial (callers backend calls tenantId jobId) table first.other) :
    Compatible job (calls first) (calls first.other) := by
  obtain ⟨store, reply, -⟩ :=
    overlapped_of_accepted backend calls found revised otherRevised
  rw [equal] at store reply
  cases again : (calls first).revise otherMoved with
  | error refusal =>
      have backAgain :
          (calls first.other.other).revise otherMoved = .error refusal := by
        rwa [Side.other_other]
      have refused :=
        serial_outcome_of_refused backend calls found otherRevised backAgain
      rw [Side.other_other, reply] at refused
      simp at refused
  | ok firstAgain =>
      have backAgain : (calls first.other.other).revise otherMoved = .ok firstAgain := by
        rwa [Side.other_other]
      obtain ⟨serialStore, -, serialReply⟩ :=
        serial_outcome_of_accepted backend calls found otherRevised backAgain
      rw [Side.other_other, reply] at serialReply
      obtain rfl : moved = firstAgain := by simpa using serialReply
      have sameRow : table.add moved = table.add otherMoved := serialStore.symm.trans store
      have firstFound :=
        get_add_of_sameAssignment found (JobCall.sameAssignment_revise revised)
      have otherFound :=
        get_add_of_sameAssignment found (JobCall.sameAssignment_revise otherRevised)
      rw [sameRow, otherFound] at firstFound
      obtain rfl : otherMoved = moved := by simpa using firstFound
      exact compatible_of_same_copy revised otherRevised again

end Steps

/-! ## Serializability -/

/-- For every stored job, any two calls on it and every complete interleaving of
their steps, the outcome is that of the two calls one after the other exactly
when they did not both read before either wrote, or one of them had nothing to
write, or the copy written last builds on the one written first. -/
theorem jobUpdates_serializable_iff (backend : Backend) (calls : Side → JobCall)
    (tenantId : String) (jobId : UUID) (table : JobTable) (job : ResearchJob)
    (schedule : List Side) (found : table.get tenantId jobId = .ok job)
    (complete :
      (run (callers backend calls tenantId jobId) (Race.start table)
        schedule).Complete) :
    Serializable (callers backend calls tenantId jobId) table schedule ↔
      ¬ Overlaps schedule ∨
        (∃ side refusal, (calls side).revise job = .error refusal) ∨
        Compatible job (calls (firstWriter schedule))
          (calls (firstWriter schedule).other) := by
  by_cases overlaps : Overlaps schedule
  · have overlapRun := run_eq_overlapped complete overlaps
    simp only [overlaps, not_true_eq_false, false_or]
    cases revised : (calls (firstWriter schedule)).revise job with
    | error refusal =>
        refine iff_of_true ⟨firstWriter schedule, ?_⟩ (Or.inl ⟨_, refusal, revised⟩)
        exact overlapRun.trans (overlapped_eq_serial_of_refused
          (read_of_refused backend calls found revised) _)
    | ok moved =>
        cases otherRevised : (calls (firstWriter schedule).other).revise job with
        | error refusal =>
            refine iff_of_true ⟨(firstWriter schedule).other, ?_⟩
              (Or.inl ⟨_, refusal, otherRevised⟩)
            exact overlapRun.trans (overlapped_eq_serial_of_refused
              (read_of_refused backend calls found otherRevised) _)
        | ok otherMoved =>
            have accepted :
                ¬ ∃ side refusal, (calls side).revise job = .error refusal := by
              rintro ⟨side, refusal, refused⟩
              rcases Side.eq_or_eq_other side (firstWriter schedule) with rfl | rfl
              · rw [revised] at refused
                cases refused
              · rw [otherRevised] at refused
                cases refused
            simp only [accepted, false_or]
            constructor
            · rintro ⟨first, serialRun⟩
              rw [overlapRun] at serialRun
              rcases Side.eq_or_eq_other first (firstWriter schedule) with rfl | rfl
              · exact (overlapped_eq_serial_iff backend calls found revised
                  otherRevised).mp serialRun
              · exact compatible_of_overlapped_eq_serial_other backend calls found
                  revised otherRevised serialRun
            · intro compatible
              exact ⟨_, overlapRun.trans ((overlapped_eq_serial_iff backend calls
                found revised otherRevised).mpr compatible)⟩
  · exact iff_of_true (run_eq_serial complete overlaps) (Or.inl overlaps)

/-! ## A checkpoint over a failed job -/

namespace LateCheckpoint

def job : ResearchJob where
  id := 1
  tenantId := "acme"
  requesterId := "ana"
  question := exampleQuestion
  createdAt := 0
  updatedAt := 0

def table : JobTable := JobTable.add {} job

/-- The API stores the checkpoint while the workflow stores that the job failed. -/
def calls : Side → JobCall
  | .left => ⟨.recordCheckpoint "research-job-1" "run-1", 1⟩
  | .right => ⟨.transition .failed (some "APIError: the model is gone") none, 2⟩

/-- Both read the new job, the failure is written, then the checkpoint. -/
def schedule : List Side := [.left, .right, .right, .left]

theorem complete (backend : Backend) :
    (run (callers backend calls "acme" 1) (Race.start table) schedule).Complete := by
  intro side
  cases backend <;> cases side <;> exact ⟨_, rfl⟩

/-- The stored failure is gone. -/
theorem stored_created (backend : Backend) :
    ((run (callers backend calls "acme" 1) (Race.start table) schedule).store.get
      "acme" 1).map (·.status) = .ok .created := by
  cases backend <;> rfl

theorem serial_failed (backend : Backend) (first : Side) :
    ((serial (callers backend calls "acme" 1) table first).store.get
      "acme" 1).map (·.status) = .ok .failed := by
  cases backend <;> cases first <;> rfl

/-- No order of the two calls leaves the job as the race does. -/
theorem not_serializable (backend : Backend) :
    ¬ Serializable (callers backend calls "acme" 1) table schedule := by
  rintro ⟨first, serialRun⟩
  have created := stored_created backend
  rw [serialRun, serial_failed backend first] at created
  cases created

end LateCheckpoint

/-- The job was failed, and the checkpoint written last takes it back to
`created`, in either repository. -/
theorem lateCheckpoint_loses_failure :
    ¬ Serializable (callers .inMemory LateCheckpoint.calls "acme" 1)
        LateCheckpoint.table LateCheckpoint.schedule ∧
      ¬ Serializable (callers .postgres LateCheckpoint.calls "acme" 1)
        LateCheckpoint.table LateCheckpoint.schedule :=
  ⟨LateCheckpoint.not_serializable .inMemory,
    LateCheckpoint.not_serializable .postgres⟩

/-- The equivalence at the run above. -/
theorem jobUpdates_serializable_iff_at_lateCheckpoint :
    Serializable (callers .postgres LateCheckpoint.calls "acme" 1)
        LateCheckpoint.table LateCheckpoint.schedule ↔
      ¬ Overlaps LateCheckpoint.schedule ∨
        (∃ side refusal,
          (LateCheckpoint.calls side).revise LateCheckpoint.job = .error refusal) ∨
        Compatible LateCheckpoint.job
          (LateCheckpoint.calls (firstWriter LateCheckpoint.schedule))
          (LateCheckpoint.calls (firstWriter LateCheckpoint.schedule).other) :=
  jobUpdates_serializable_iff .postgres LateCheckpoint.calls "acme" 1
    LateCheckpoint.table LateCheckpoint.job LateCheckpoint.schedule rfl
    (LateCheckpoint.complete .postgres)

end ResearchPlatform
