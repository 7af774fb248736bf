import ResearchPlatform.Api.Routes
import ResearchPlatform.Properties.JobUpdates
import ResearchPlatform.Workflow.Research

/-!
# The system of record in use

Jobs are requested over the API, read and updated, researched, and given evidence, in
any order.  An update is made on a copy that was read at some time before, and so is
research.
-/

namespace ResearchPlatform

open Foundation Program

/-- The system of record, with the jobs as they were requested and by whom, the jobs
that someone has read, and the submissions that research has returned. -/
structure ResearchRecord where
  repository : InMemoryJobRepository := {}
  requested : List (RequestIdentity × ResearchJob) := []
  seen : List ResearchJob := []
  returned : List (ResearchJob × EvidenceSubmission) := []

namespace ResearchActivities

/-- Some run of the agent, its tools, the ledger and the clock makes `research` return
the submission. -/
def MaySubmit (activities : ResearchActivities) (job : ResearchJob) (task : ResearchTask)
    (submission : EvidenceSubmission) : Prop :=
  ∃ (World : Type) (handler : Handler AgentCall AgentCall.Answer AgentFault World)
    (world : World),
    (interpret handler (activities.research job task) world).outcome = .ok submission

theorem MaySubmit.verified {activities : ResearchActivities} {job : ResearchJob}
    {task : ResearchTask} {submission : EvidenceSubmission}
    (submits : activities.MaySubmit job task submission) :
    activities.Verified job task submission := by
  obtain ⟨World, handler, world, returned⟩ := submits
  exact returns_research.sound returned

end ResearchActivities

namespace ResearchRecord

/-- What may happen next.  Evidence reaches the service from the API, from a submission,
or else as `direct` allows. -/
inductive Step (python : PythonText) (direct : EvidenceRecordCreate → Prop) :
    ResearchRecord → ResearchRecord → Prop
  | create {state : ResearchRecord} {identity : RequestIdentity}
      {command : ResearchJobCreate} {id : UUID} {now : Timestamp} {job : ResearchJob}
      {repository : InMemoryJobRepository}
      (created : Routes.createJob state.repository identity command id now =
        (job, repository)) :
      Step python direct state
        { state with
          repository := repository
          requested := state.requested ++ [(identity, job)]
          seen := state.seen ++ [job] }
  | read {state : ResearchRecord} {tenantId : String} {jobId : UUID} {job : ResearchJob}
      (found : state.repository.get tenantId jobId = .ok job) :
      Step python direct state { state with seen := state.seen ++ [job] }
  | update {state : ResearchRecord} {job moved : ResearchJob}
      {repository : InMemoryJobRepository} (member : job ∈ state.seen) (call : JobCall)
      (revised : call.revise job = .ok moved)
      (updates : state.repository.update moved = .ok repository) :
      Step python direct state
        { state with repository := repository, seen := state.seen ++ [moved] }
  | recordInvocation {state : ResearchRecord} (invocation : ToolInvocation) :
      Step python direct state
        { state with repository := state.repository.recordInvocation invocation }
  | recordFindings {state : ResearchRecord} {tenantId : String} {jobId : UUID}
      {findings : List Finding} {stamp : Nat → UUID × Timestamp}
      {records : List FindingRecord} {repository : InMemoryJobRepository}
      (recorded : ResearchJobService.recordFindings state.repository tenantId jobId findings
        stamp = .ok (records, repository)) :
      Step python direct state { state with repository := repository }
  | recordPublication {state : ResearchRecord} {publication : ReportPublication}
      {repository : InMemoryJobRepository}
      (recorded : state.repository.recordPublication publication = .ok repository) :
      Step python direct state { state with repository := repository }
  | addEvidence {state : ResearchRecord} {tenantId : String} {jobId id : UUID}
      {command : EvidenceRecordCreate} {now : Timestamp} {record : EvidenceRecord}
      {repository : InMemoryJobRepository} (allowed : direct command)
      (added : ResearchJobService.addEvidence state.repository tenantId jobId command id now =
        .ok (record, repository)) :
      Step python direct state { state with repository := repository }
  | attach {state : ResearchRecord} {identity : RequestIdentity} {jobId id : UUID}
      {command : EvidenceRecordCreate} {now : Timestamp} {record : EvidenceRecord}
      {repository : InMemoryJobRepository}
      (attached : Routes.addEvidence python state.repository identity jobId command id now =
        .ok (record, repository)) :
      Step python direct state { state with repository := repository }
  | research {state : ResearchRecord} {activities : ResearchActivities} {job : ResearchJob}
      {task : ResearchTask} {submission : EvidenceSubmission}
      (samePython : activities.python = python) (member : job ∈ state.seen)
      (submits : activities.MaySubmit job task submission) :
      Step python direct state
        { state with returned := state.returned ++ [(job, submission)] }
  | collect {state : ResearchRecord} {job : ResearchJob} {submission : EvidenceSubmission}
      {command : EvidenceRecordCreate} {id : UUID} {now : Timestamp}
      {record : EvidenceRecord} {repository : InMemoryJobRepository}
      (returned : (job, submission) ∈ state.returned)
      (submitted : command ∈ submission.records)
      (added : JobActivities.addEvidence state.repository job.tenantId job.id command id now =
        .ok (record, repository)) :
      Step python direct state { state with repository := repository }

/-- The states of the system of record, from an empty one. -/
def Reached (python : PythonText) (direct : EvidenceRecordCreate → Prop) :
    ResearchRecord → Prop :=
  Relation.ReflTransGen (Step python direct) {}

/-- The invariant rule. -/
theorem Reached.invariant {python : PythonText} {direct : EvidenceRecordCreate → Prop}
    {holds : ResearchRecord → Prop} (initially : holds {})
    (kept : ∀ {state next}, holds state → Step python direct state next → holds next)
    {state : ResearchRecord} (reached : Reached python direct state) : holds state := by
  induction reached with
  | refl => exact initially
  | tail _ step inductionHypothesis => exact kept inductionHypothesis step

end ResearchRecord

end ResearchPlatform
