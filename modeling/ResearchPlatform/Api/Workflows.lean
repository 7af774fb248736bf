import ResearchPlatform.Api.Routes
import ResearchPlatform.Application.JobService
import ResearchPlatform.Foundation.Interleaving
import ResearchPlatform.Persistence.Postgres
import ResearchPlatform.Workflow.Orchestration

/-!
# The routes that hand a job to its workflow

`create_job`, `review_job` and `transition_job` with `TemporalWorkflowStarter`, as
programs that call the repository of the jobs and the workflow service.  A job is changed
in two steps: it is read, and written back.
-/

namespace ResearchPlatform

open Foundation Program

/-- `workflow_id_for`. -/
def workflowIdFor (jobId : UUID) : String :=
  "research-job-" ++ jobId.str

/-- A workflow identifier names one job. -/
theorem workflowIdFor_inj {first second : UUID}
    (same : workflowIdFor first = workflowIdFor second) : first = second := by
  have texts : first.str = second.str := String.append_right_inj _ |>.mp same
  have parsed := UUID.parse_str first
  rw [texts, UUID.parse_str] at parsed
  exact (Option.some.inj parsed).symm

/-- `WorkflowCheckpoint`. -/
structure WorkflowCheckpoint where
  workflowId : String
  workflowRunId : String
  deriving DecidableEq

/-- What the routes ask of the repository, of the clock and of the workflow service. -/
inductive RouteCall where
  | create (tenantId requesterId : String) (command : ResearchJobCreate)
      (clearance : AccessClass)
  | get (tenantId : String) (jobId : UUID)
  | update (job : ResearchJob)
  | utcNow
  | connect
  | startWorkflow (workflowId : String) (job : ResearchJob)
  | describe (workflowId : String)
  | signal (workflowId : String) (decision : ReviewerDecision)

/-- A job, a time, or the run identifier that Temporal may give. -/
abbrev RouteCall.Answer : RouteCall → Type
  | create .. | get .. => ResearchJob
  | utcNow => Timestamp
  | update .. | connect | signal .. => Unit
  | startWorkflow .. | describe .. => Option String

/-- What is raised: `RPCError`, with whether it says that nothing was found, and the
`RuntimeError` or `OSError` of a connection are apart from the rest. -/
inductive RouteFault where
  | http (statusCode : Nat) (detail : String)
  | job (error : JobError)
  | alreadyStarted
  | rpc (notFound : Bool) (text : String)
  | connection (text : String)
  | workflowUnavailable (text : String)
  | workflowNotRunning (text : String)
  | other (text : String)

abbrev RouteProgram : Type → Type := Program RouteCall RouteCall.Answer RouteFault

/-! ## The job service, step by step -/

namespace JobSteps

/-- `ResearchJobService.transition`. -/
def transition (tenantId : String) (jobId : UUID) (target : JobStatus)
    (detail : Option String) (usage : Option JobUsage) : RouteProgram ResearchJob := do
  let job ← perform (RouteCall.get tenantId jobId)
  let now ← perform RouteCall.utcNow
  match job.transitionTo target detail usage now with
  | .ok moved =>
      perform (RouteCall.update moved)
      return moved
  | .error refusal => raise (.job (.service (.invalidStateTransition refusal)))

/-- `ResearchJobService.record_checkpoint`. -/
def recordCheckpoint (tenantId : String) (jobId : UUID)
    (workflowId workflowRunId : String) : RouteProgram ResearchJob := do
  let job ← perform (RouteCall.get tenantId jobId)
  let now ← perform RouteCall.utcNow
  let marked := job.withCheckpoint workflowId workflowRunId now
  perform (RouteCall.update marked)
  return marked

end JobSteps

/-! ## The workflow service -/

namespace TemporalWorkflowStarter

/-- `_connected`. -/
def connected : RouteProgram Unit :=
  (perform RouteCall.connect).rescue fun fault =>
    match fault with
    | .rpc _ text | .connection text =>
        raise (.workflowUnavailable ("the workflow service could not be reached: " ++ text))
    | fault => raise fault

/-- `start`: a workflow that already runs under the job's identifier is reported. -/
def start (job : ResearchJob) : RouteProgram WorkflowCheckpoint := do
  connected
  let workflowId := workflowIdFor job.id
  Program.rescue
    (do
      let runId ← perform (RouteCall.startWorkflow workflowId job)
      return ⟨workflowId, runId.getD ""⟩)
    fun fault =>
      match fault with
      | .alreadyStarted => do
          let runId ← perform (RouteCall.describe workflowId)
          return ⟨workflowId, runId.getD ""⟩
      | .rpc _ text =>
          raise (.workflowUnavailable ("the workflow could not be started: " ++ text))
      | fault => raise fault

/-- `job.workflow_id or workflow_id_for(job.id)`. -/
def signalled (job : ResearchJob) : String :=
  match job.workflowId with
  | none => workflowIdFor job.id
  | some workflowId => if workflowId = "" then workflowIdFor job.id else workflowId

/-- `submit_reviewer_decision`. -/
def submitReviewerDecision (job : ResearchJob) (decision : ReviewerDecision) :
    RouteProgram Unit := do
  connected
  (perform (RouteCall.signal (signalled job) decision)).rescue fun fault =>
    match fault with
    | .rpc true _ =>
        raise (.workflowNotRunning
          ("job " ++ job.id.str ++ " has no running workflow to review"))
    | .rpc false text =>
        raise (.workflowUnavailable ("the reviewer decision could not be delivered: " ++ text))
    | fault => raise fault

end TemporalWorkflowStarter

/-! ## The routes -/

namespace Routes

/-- `REVIEWERS`. -/
def reviewers : Finset Role := {.reviewer, .administrator}

/-- `raise HTTPException(status_code=404, ...)` for a job that is not found. -/
def missing (fault : RouteFault) : RouteFault :=
  match fault with
  | .job (.service (.jobNotFound _)) => .http 404 "research job not found"
  | fault => fault

/-- `create_job`, with its workflow: the job is stored first and started second. -/
def createAndStart (identity : RequestIdentity) (command : ResearchJobCreate)
    (workflows : Bool) : RouteProgram ResearchJob := do
  let job ← perform (RouteCall.create identity.tenantId identity.requesterId command
    identity.clearance)
  if !workflows then
    return job
  else
    let checkpoint ← (TemporalWorkflowStarter.start job).rescue fun fault =>
      match fault with
      | .workflowUnavailable text => do
          let _ ← JobSteps.transition job.tenantId job.id .failed none none
          raise (.http 503 ("research job " ++ job.id.str ++
            " was recorded but could not be started: " ++ text))
      | fault => raise fault
    JobSteps.recordCheckpoint job.tenantId job.id checkpoint.workflowId
      checkpoint.workflowRunId

/-- `review_job`. -/
def reviewJob (identity : RequestIdentity) (jobId : UUID) (decision : ReviewerDecision)
    (workflows : Bool) : RouteProgram ResearchJob := do
  if identity.roles ∩ reviewers = ∅ then
    raise (.http 403 "only a reviewer may decide a review")
  else
    let job ← (perform (RouteCall.get identity.tenantId jobId)).rescue fun fault =>
      raise (missing fault)
    if job.requesterId = identity.requesterId ∧ .administrator ∉ identity.roles then
      raise (.http 403 "a requester cannot review their own research job")
    else if job.status ≠ .reviewRequired then
      raise (.http 409 ("research job is " ++ job.status.value ++ ", not awaiting review"))
    else if !workflows then
      raise (.http 503 "workflows are not enabled")
    else
      (TemporalWorkflowStarter.submitReviewerDecision job decision).rescue fun fault =>
        match fault with
        | .workflowNotRunning text => raise (.http 409 text)
        | .workflowUnavailable text => raise (.http 503 text)
        | fault => raise fault
      return job

/-- The `ValueError`s that the service raises are answered with a conflict. -/
def conflict (fault : RouteFault) : RouteFault :=
  match fault with
  | .job (.service (.invalidStateTransition refusal)) =>
      .http 409 ("cannot transition research job from " ++ refusal.current.value ++ " to " ++
        refusal.target.value)
  | .job (.service (.invalidEvidence error)) => .http 409 error.message
  | .job (.invalidModel error) => .http 409 error.message
  | fault => fault

/-- `transition_job`: only a job that no workflow owns is moved by hand. -/
def transitionJob (identity : RequestIdentity) (jobId : UUID) (target : JobStatus) :
    RouteProgram ResearchJob :=
  Program.rescue
    (do
      let job ← perform (RouteCall.get identity.tenantId jobId)
      if job.workflowId.isSome then
        raise (.http 409 "this research job is run by a workflow and cannot be moved by hand")
      else
        JobSteps.transition identity.tenantId jobId target none none)
    fun fault => raise (conflict (missing fault))

end Routes

/-! ## The platform -/

/-- A workflow execution: the job it was started for, and what it was signalled. -/
structure Execution where
  job : ResearchJob
  running : Bool := true
  signals : List ReviewerDecision := []

/-- The jobs on record, and the latest execution under each workflow identifier. -/
structure PlatformState where
  jobs : JobTable := {}
  executions : Dict String Execution := ∅

namespace PlatformState

/-- What a call may be answered and leave, over either repository.  A job has an identifier
that no tenant has used; a workflow starts where none is running and is signalled while it
is; and a call that was answered with a fault may or may not have been carried out. -/
inductive Served (backend : Backend) : PlatformState → (call : RouteCall) →
    Except RouteFault call.Answer → PlatformState → Prop
  | created {state : PlatformState} {tenantId requesterId : String}
      {command : ResearchJobCreate} {clearance : AccessClass} {stamps : Stamps}
      {job : ResearchJob}
      (fresh : ∀ tenant, state.jobs.rows.get? (tenant, stamps.id) = none)
      (built : (JobService.newJob tenantId requesterId command clearance stamps).validate =
        .ok job) :
      Served backend state (.create tenantId requesterId command clearance) (.ok job)
        { state with jobs := state.jobs.add job }
  | got {state : PlatformState} {tenantId : String} {jobId : UUID} {job : ResearchJob}
      (found : state.jobs.get tenantId jobId = .ok job) :
      Served backend state (.get tenantId jobId) (.ok job) state
  | updated {state : PlatformState} {job : ResearchJob} {jobs : JobTable}
      (updates : backend.update state.jobs job = .ok jobs) :
      Served backend state (.update job) (.ok ()) { state with jobs := jobs }
  | read {state : PlatformState} {now : Timestamp} :
      Served backend state .utcNow (.ok now) state
  | connected {state : PlatformState} : Served backend state .connect (.ok ()) state
  | started {state : PlatformState} {workflowId : String} {job : ResearchJob}
      {runId : Option String}
      (free : ∀ execution, state.executions.get? workflowId = some execution →
        execution.running = false) :
      Served backend state (.startWorkflow workflowId job) (.ok runId)
        { state with executions := state.executions.set workflowId { job := job } }
  | described {state : PlatformState} {workflowId : String} {runId : Option String} :
      Served backend state (.describe workflowId) (.ok runId) state
  | signalled {state : PlatformState} {workflowId : String} {decision : ReviewerDecision}
      {execution : Execution}
      (found : state.executions.get? workflowId = some execution)
      (running : execution.running = true) :
      Served backend state (.signal workflowId decision) (.ok ())
        { state with
          executions := state.executions.set workflowId
            { execution with signals := execution.signals ++ [decision] } }
  | refused {state : PlatformState} {call : RouteCall} (fault : RouteFault) :
      Served backend state call (.error fault) state
  | lost {state changed : PlatformState} {call : RouteCall} {answer : call.Answer}
      (fault : RouteFault) (served : Served backend state call (.ok answer) changed) :
      Served backend state call (.error fault) changed

/-- An execution ends. -/
inductive Closes : PlatformState → PlatformState → Prop
  | closed {state : PlatformState} {workflowId : String} {execution : Execution}
      (found : state.executions.get? workflowId = some execution) :
      Closes state
        { state with
          executions := state.executions.set workflowId { execution with running := false } }

end PlatformState

end ResearchPlatform
