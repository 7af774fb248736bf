import ResearchPlatform.Application.Findings
import ResearchPlatform.Application.Publication
import ResearchPlatform.Foundation.Program

/-!
# The core workflow

`runResearchJob` as a program over the calls it awaits: the three of `JobsPort`
and those of `OrchestrationActivities`.  Metrics and spans are left out, and so
are the clock readings that only they use.
-/

namespace ResearchPlatform

open Foundation

/-- What `_describe` reads of an exception. -/
structure ExceptionFacts where
  className : String
  typeAttribute : Option String := none
  messageAttribute : Option String := none
  rendered : String
  deriving DecidableEq

/-- An exception, with the `cause` that an activity failure wraps. -/
structure PyException extends ExceptionFacts where
  cause : Option ExceptionFacts := none
  deriving DecidableEq

/-- `ReviewerDecision`. -/
inductive ReviewerDecision where
  | approve
  | requestMoreResearch
  | reject
  deriving DecidableEq, Repr

/-- What one pipeline run produced. -/
structure ResearchOutcome where
  job : ResearchJob
  report : Option ResearchReport
  evidence : List EvidenceRecord
  failure : Option String := none
  publication : Option ReportPublication := none

/-- The calls the pipeline awaits.  `research` is one `asyncio.gather` over the
researcher tasks. -/
inductive PipelineCall where
  | transition (tenantId : String) (jobId : UUID) (target : JobStatus)
      (detail : Option String)
  | addEvidence (tenantId : String) (jobId : UUID) (command : EvidenceRecordCreate)
  | recordFindings (tenantId : String) (jobId : UUID) (findings : List Finding)
  | plan (job : ResearchJob)
  | research (job : ResearchJob) (tasks : List ResearchTask)
  | analyze (job : ResearchJob) (evidence : List EvidenceRecord)
  | critique (job : ResearchJob) (analysis : AnalysisResult)
      (evidence : List EvidenceRecord)
  | report (job : ResearchJob) (critique : CriticReview)
      (evidence : List EvidenceRecord)
  | awaitReviewerDecision (job : ResearchJob) (critique : CriticReview)
  | publish (job : ResearchJob) (report : ResearchReport) (shortfalls : List String)

/-- What each call returns.  `return_exceptions=True` makes the failures of the
researcher tasks part of the answer. -/
abbrev PipelineCall.Answer : PipelineCall → Type
  | transition .. => ResearchJob
  | addEvidence .. => EvidenceRecord
  | recordFindings .. => List FindingRecord
  | plan .. => ResearchPlan
  | research _ tasks =>
      { results : List (Except PyException EvidenceSubmission) //
        results.length = tasks.length }
  | analyze .. => AnalysisResult
  | critique .. => CriticReview
  | report .. => ResearchReport
  | awaitReviewerDecision .. => ReviewerDecision
  | publish .. => ReportPublication

abbrev Pipeline (α : Type) : Type :=
  Program PipelineCall PipelineCall.Answer PyException α

abbrev PipelineEvent : Type := Event PipelineCall PipelineCall.Answer PyException

namespace Pipeline

open Program

/-- `BUDGET_EXHAUSTED`. -/
def budgetExhausted : String := "BudgetExhausted"

/-- `MAX_REVIEW_CYCLES`. -/
def maxReviewCycles : Nat := 2

/-- A text, or the fallback when it is absent or empty. -/
def orElse (given : Option String) (fallback : String) : String :=
  match given with
  | some text => if text = "" then fallback else text
  | none => fallback

/-- `_describe`. -/
def describe (error : PyException) : String :=
  let cause := error.cause.getD error.toExceptionFacts
  orElse cause.typeAttribute cause.className ++ ": " ++
    orElse cause.messageAttribute cause.rendered

/-- A `ValueError` raised by the platform's own code. -/
def valueError (error : ValueError) : PyException where
  className := "ValueError"
  rendered := error.message

/-- A pydantic `ValidationError`. -/
def validationError (error : ValidationError) : PyException where
  className := "ValidationError"
  rendered := error.message

/-- Await one call. -/
def await (call : PipelineCall) : Pipeline call.Answer := perform call

/-- Ask the port to move the job. -/
def transition (job : ResearchJob) (target : JobStatus)
    (detail : Option String) : Pipeline ResearchJob :=
  await (.transition job.tenantId job.id target detail)

/-- `_record_findings`. -/
def recordFindings (job : ResearchJob) (analysis : AnalysisResult)
    (critique : CriticReview) (reviewerStatus : ReviewerStatus) : Pipeline Unit := do
  let findings ←
    lift ((deriveFindings analysis critique reviewerStatus).mapError validationError)
  let _ ← await (.recordFindings job.tenantId job.id findings)
  return ()

/-- `_task_from`, with the fresh identifier and creation time of the task. -/
def taskFrom (planned : PlannedTask) (job : ResearchJob)
    (stamp : UUID × Timestamp) : ResearchTask where
  id := stamp.1
  jobId := job.id
  tenantId := job.tenantId
  objective := planned.objective
  assignedAgent := planned.assignedAgent
  evidenceRequirements := planned.evidenceRequirements
  sourceRestrictions := planned.sourceRestrictions
  createdAt := ⟨stamp.2, true⟩

/-- The tasks the plan gives to researchers. -/
def researcherTasks (plan : ResearchPlan) (job : ResearchJob)
    (stamps : Nat → UUID × Timestamp) : List ResearchTask :=
  (plan.tasks.filter (·.assignedAgent = .researcher)).zipIdx.map
    fun (planned, index) => taskFrom planned job (stamps index)

/-! ## Collecting evidence -/

/-- Store the records of one submission, in order. -/
def storeRecords (job : ResearchJob) :
    List EvidenceRecordCreate → Pipeline (List EvidenceRecord)
  | [] => return []
  | command :: rest => do
      let record ← await (.addEvidence job.tenantId job.id command)
      let records ← storeRecords job rest
      return record :: records

/-- What a task that failed leaves unmet. -/
def failedRequirements (task : ResearchTask) : List NonEmptyText :=
  if task.evidenceRequirements = [] then [task.objective]
  else task.evidenceRequirements

/-- Persist what each task found; a task that failed leaves its requirements
unmet. -/
def storeResults (job : ResearchJob) :
    List (ResearchTask × Except PyException EvidenceSubmission) →
      Pipeline (List EvidenceRecord × List NonEmptyText)
  | [] => return ([], [])
  | (task, .error _) :: rest => do
      let (records, unmet) ← storeResults job rest
      return (records, failedRequirements task ++ unmet)
  | (_, .ok submission) :: rest => do
      let stored ← storeRecords job submission.records
      let (records, unmet) ← storeResults job rest
      return (stored ++ records, submission.unmetRequirements ++ unmet)

/-- `_collect_evidence`. -/
def collectEvidence (job : ResearchJob) (tasks : List ResearchTask) :
    Pipeline (List EvidenceRecord × List NonEmptyText) :=
  if tasks = [] then
    return ([], [])
  else do
    let results ← await (.research job tasks)
    storeResults job (tasks.zip results.val)

/-! ## Review and report -/

/-- How one round of the review loop ends: with nothing left to review, with the
job ended, or with more research asked for. -/
inductive Round where
  | settled (job : ResearchJob) (critique : CriticReview)
  | ended (outcome : ResearchOutcome)
  | moreResearch (job : ResearchJob)

/-- One round of the review loop, up to the transition back to research. -/
def reviewRound (job : ResearchJob) (evidence : List EvidenceRecord) :
    Pipeline Round := do
  let job ← transition job .analyzing none
  let analysis ← await (.analyze job evidence)
  let critique ← await (.critique job analysis evidence)
  if !critique.requiresReviewer then
    recordFindings job analysis critique .notRequired
    return .settled job critique
  else
    recordFindings job analysis critique .pending
    let job ← transition job .reviewRequired none
    let decision ← await (.awaitReviewerDecision job critique)
    match decision with
    | .approve =>
        recordFindings job analysis critique .approved
        return .settled job critique
    | .reject =>
        recordFindings job analysis critique .rejected
        let job ← transition job .failed (some "rejected by the reviewer")
        return .ended { job := job, report := none, evidence := evidence }
    | .requestMoreResearch =>
        let job ← transition job .researching none
        return .moreResearch job

def reviewLimitDetail : String :=
  s!"the reviewer asked for more research more than {maxReviewCycles} times"

/-- How the review loop was left: with the job ended, or with a review settled
and a report to write. -/
inductive Reviewed where
  | ended (outcome : ResearchOutcome)
  | settled (job : ResearchJob) (critique : CriticReview)
      (evidence : List EvidenceRecord) (unmet : List NonEmptyText)

/-- The review loop.  `remaining` is `MAX_REVIEW_CYCLES - review_cycle`. -/
def reviewLoop (tasks : List ResearchTask) (remaining : Nat) (job : ResearchJob)
    (evidence : List EvidenceRecord) (unmet : List NonEmptyText) :
    Pipeline Reviewed := do
  let round ← reviewRound job evidence
  match round with
  | .settled job critique => return .settled job critique evidence unmet
  | .ended outcome => return .ended outcome
  | .moreResearch job =>
      match remaining with
      | 0 =>
          let job ← transition job .partialResult (some reviewLimitDetail)
          return .ended { job := job, report := none, evidence := evidence }
      | remaining + 1 =>
          let (moreEvidence, unmet) ← collectEvidence job tasks
          reviewLoop tasks remaining job (evidence ++ moreEvidence) unmet

/-- The reasons a result is not complete. -/
def shortfallsOf (unmet : List NonEmptyText) (report : ResearchReport)
    (missing : List UUID) : List String :=
  unmet.map (fun requirement => "unmet requirement: " ++ requirement.val) ++
    report.omittedBecause.map (fun reason => "omitted: " ++ reason.val) ++
    ((missing.map UUID.str).insertionSort (· ≤ ·)).map
      fun identifier => "cites unrecorded evidence " ++ identifier

/-- `publish`, when the pipeline was given one. -/
def publishReport (publishes : Bool) (job : ResearchJob) (report : ResearchReport)
    (shortfalls : List String) : Pipeline (Option ReportPublication) :=
  if publishes then do
    let publication ← await (.publish job report shortfalls)
    return some publication
  else
    return none

/-- The report, its publication and the final status. -/
def finishReport (publishes : Bool) (job : ResearchJob) (critique : CriticReview)
    (evidence : List EvidenceRecord) (unmet : List NonEmptyText) :
    Pipeline ResearchOutcome := do
  let job ← transition job .reporting none
  let report ← await (.report job critique evidence)
  let missing ←
    lift ((unsupportedCitations report (evidence.map (·.id))).mapError valueError)
  let shortfalls := shortfallsOf unmet report missing
  let publication ← publishReport publishes job report shortfalls
  let job ←
    if shortfalls = [] then transition job .completed none
    else transition job .partialResult (some ("; ".intercalate shortfalls))
  return {
    job := job
    report := some report
    evidence := evidence
    publication := publication }

/-- `_run_research_job`. -/
def runSteps (publishes : Bool) (stamps : Nat → UUID × Timestamp)
    (job : ResearchJob) : Pipeline ResearchOutcome := do
  let job ← transition job .planning none
  let plan ← await (.plan job)
  let job ← transition job .researching none
  let tasks := researcherTasks plan job stamps
  let (evidence, unmet) ← collectEvidence job tasks
  if evidence = [] then
    let job ← transition job .partialResult (some "no evidence could be collected")
    return { job := job, report := none, evidence := evidence }
  else
    let reviewed ← reviewLoop tasks maxReviewCycles job evidence unmet
    match reviewed with
    | .ended outcome => return outcome
    | .settled job critique evidence unmet =>
        finishReport publishes job critique evidence unmet

/-- End the job in a status, with the reason. -/
def endWith (job : ResearchJob) (target : JobStatus) (reason : String) :
    Pipeline ResearchOutcome := do
  let ended ← transition job target (some reason)
  return { job := ended, report := none, evidence := [], failure := some reason }

/-- `_fail`. -/
def fail (job : ResearchJob) (error : PyException) : Pipeline ResearchOutcome :=
  let reason := describe error
  let asFailed := (endWith job .failed reason).rescue fun _ => raise error
  if budgetExhausted.toList <+: reason.toList then
    (endWith job .partialResult reason).rescue fun _ => asFailed
  else
    asFailed

/-- `run_research_job`. -/
def runResearchJob (publishes : Bool) (stamps : Nat → UUID × Timestamp)
    (job : ResearchJob) : Pipeline ResearchOutcome :=
  (runSteps publishes stamps job).rescue (fail job)

end Pipeline

end ResearchPlatform
