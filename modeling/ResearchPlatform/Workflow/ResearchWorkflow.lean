import ResearchPlatform.Workflow.Orchestration

/-!
# The durable workflow and its review signal

`ResearchJobWorkflow` runs a pipeline one call at a time.  Between any two of its
steps a `submit_reviewer_decision` signal may be applied, and a wait first sees
its condition hold and resumes in a later step.
-/

namespace ResearchPlatform

open Foundation Program

/-- One signal.  The number tells signals with the same decision apart; the
workflow does not read it. -/
structure ReviewSignal where
  number : Nat
  decision : ReviewerDecision
  deriving DecidableEq, Repr

namespace PipelineCall

/-- The request of the transition that opens a review. -/
def OpensReview : PipelineCall → Prop
  | transition _ _ target _ => target = .reviewRequired
  | _ => False

instance (call : PipelineCall) : Decidable call.OpensReview := by
  cases call <;> unfold OpensReview <;> infer_instance

def AwaitsReview : PipelineCall → Prop
  | awaitReviewerDecision .. => True
  | _ => False

end PipelineCall

/-- How far the workflow is with its next call: it has still to make it, it waits
for the answer, or it was seen that the condition it waits for holds. -/
inductive CallProgress where
  | toCall
  | called
  | noticed
  deriving DecidableEq, Repr

/-- The fields of `ResearchJobWorkflow`, with what `run` has still to do. -/
structure ResearchJobWorkflow (α : Type) where
  remaining : Pipeline α
  progress : CallProgress := .toCall
  reviewerDecisions : List ReviewSignal := []
  reviewIsOpen : Bool := false

namespace ResearchJobWorkflow

variable {α : Type}

/-- `submit_reviewer_decision`. -/
def submitReviewerDecision (workflow : ResearchJobWorkflow α) (signal : ReviewSignal) :
    ResearchJobWorkflow α :=
  if workflow.reviewIsOpen then
    { workflow with reviewerDecisions := workflow.reviewerDecisions ++ [signal] }
  else
    workflow

/-- Start the next call.  Only `transition` does more than that. -/
def makeCall (workflow : ResearchJobWorkflow α) (call : PipelineCall) :
    ResearchJobWorkflow α :=
  { workflow with
    progress := .called
    reviewIsOpen := if call.OpensReview then true else workflow.reviewIsOpen }

/-- `_await_reviewer_decision` from where its wait ends: one decision answers one
review, and what else arrived for it goes with it. -/
def closeReview (workflow : ResearchJobWorkflow α) (rest : Pipeline α) :
    ResearchJobWorkflow α :=
  { workflow with
    remaining := rest
    progress := .toCall
    reviewerDecisions := []
    reviewIsOpen := false }

end ResearchJobWorkflow

/-- What a step of the workflow was. -/
inductive WorkflowEvent where
  | signal (signal : ReviewSignal)
  | called (call : PipelineCall)
  | answered (call : PipelineCall)
  | noticed
  | returned (signal : ReviewSignal)

/-- One step: a signal is applied, a call is made, an activity answers or fails,
the condition of a wait is seen to hold, or a wait returns its decision. -/
inductive WorkflowStep {α : Type} :
    ResearchJobWorkflow α → WorkflowEvent → ResearchJobWorkflow α → Prop
  | signal (workflow : ResearchJobWorkflow α) (signal : ReviewSignal) :
      WorkflowStep workflow (.signal signal) (workflow.submitReviewerDecision signal)
  | call {workflow : ResearchJobWorkflow α} {call : PipelineCall}
      {resume : Except PyException call.Answer → Pipeline α}
      (next : workflow.remaining = .request call resume)
      (ready : workflow.progress = .toCall) :
      WorkflowStep workflow (.called call) (workflow.makeCall call)
  | answer {workflow : ResearchJobWorkflow α} {call : PipelineCall}
      {resume : Except PyException call.Answer → Pipeline α}
      (next : workflow.remaining = .request call resume)
      (pending : workflow.progress = .called) (activity : ¬ call.AwaitsReview)
      (answer : Except PyException call.Answer) :
      WorkflowStep workflow (.answered call)
        { workflow with remaining := resume answer, progress := .toCall }
  | notice {workflow : ResearchJobWorkflow α} {job : ResearchJob}
      {critique : CriticReview}
      {resume : Except PyException ReviewerDecision → Pipeline α}
      (next : workflow.remaining =
        .request (.awaitReviewerDecision job critique) resume)
      (pending : workflow.progress = .called)
      (holds : workflow.reviewerDecisions ≠ []) :
      WorkflowStep workflow .noticed { workflow with progress := .noticed }
  | resume {workflow : ResearchJobWorkflow α} {job : ResearchJob}
      {critique : CriticReview}
      {resume : Except PyException ReviewerDecision → Pipeline α}
      {first : ReviewSignal} {others : List ReviewSignal}
      (next : workflow.remaining =
        .request (.awaitReviewerDecision job critique) resume)
      (noticed : workflow.progress = .noticed)
      (queue : workflow.reviewerDecisions = first :: others) :
      WorkflowStep workflow (.returned first)
        (workflow.closeReview (resume (.ok first.decision)))

/-- The runs of a pipeline, with their events from the first to the last. -/
inductive WorkflowRun {α : Type} (pipeline : Pipeline α) :
    List WorkflowEvent → ResearchJobWorkflow α → Prop
  | start : WorkflowRun pipeline [] { remaining := pipeline }
  | step {history : List WorkflowEvent} {before after : ResearchJobWorkflow α}
      {event : WorkflowEvent} (run : WorkflowRun pipeline history before)
      (taken : WorkflowStep before event after) :
      WorkflowRun pipeline (history ++ [event]) after

end ResearchPlatform
