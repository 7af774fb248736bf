import ResearchPlatform.Properties.AtLeastOnce
import ResearchPlatform.Properties.NoFalseSuccess

/-!
# Every record is stored once

What the researchers of a run submit is stored in the order it was submitted, each record
once.  A redelivery adds nothing, and no two records are taken for one another, since a
submission repeats no hash, a record names its own task, and a later pass has calls of its
own to cite.
-/

namespace ResearchPlatform

open Foundation Program

/-! ## What a run submits and stores -/

/-- The records of the submissions that a gathering of the researchers returned. -/
def recordsOf (results : List (Except PyException EvidenceSubmission)) :
    List EvidenceRecordCreate :=
  results.flatMap fun result =>
    match result with
    | .ok submission => submission.records
    | .error _ => []

/-- What one event of a run submits. -/
def submittedBy : PipelineEvent → List EvidenceRecordCreate
  | ⟨.research _ _, .ok results⟩ => recordsOf results.val
  | _ => []

/-- What one event of a run has answered to a record. -/
def storedBy : PipelineEvent → List (EvidenceRecordCreate × EvidenceRecord)
  | ⟨.addEvidence _ _ command, .ok record⟩ => [(command, record)]
  | _ => []

def submittedOf (trace : List PipelineEvent) : List EvidenceRecordCreate :=
  trace.flatMap submittedBy

def storedOf (trace : List PipelineEvent) : List (EvidenceRecordCreate × EvidenceRecord) :=
  trace.flatMap storedBy

/-- Neither a submission nor the storing of a record. -/
def PipelineCall.IsAside : PipelineCall → Prop
  | research .. | addEvidence .. => False
  | _ => True

theorem submittedOf_append {first second : List PipelineEvent} :
    submittedOf (first ++ second) = submittedOf first ++ submittedOf second :=
  List.flatMap_append

theorem storedOf_append {first second : List PipelineEvent} :
    storedOf (first ++ second) = storedOf first ++ storedOf second :=
  List.flatMap_append

/-- A record is added to the evidence of this job, and the tasks of a gathering differ. -/
def PipelineCall.IsFor (key : JobKey) : PipelineCall → Prop
  | addEvidence tenantId jobId _ => (tenantId, jobId) = key
  | research _ tasks => (tasks.map (·.id)).Nodup
  | _ => True

/-- The event neither submits nor stores anything, and is not about another job. -/
structure IsSilent (key : JobKey) (event : PipelineEvent) : Prop where
  submits : submittedBy event = []
  stores : storedBy event = []
  isFor : event.1.IsFor key

theorem isSilent_of_isAside {key : JobKey} {event : PipelineEvent} (aside : event.1.IsAside) :
    IsSilent key event := by
  obtain ⟨call, answer⟩ := event
  cases call with
  | research => exact aside.elim
  | addEvidence => exact aside.elim
  | _ => exact ⟨rfl, rfl, trivial⟩

/-- What was submitted so far has been stored for the job, in order, but for what is still
to come. -/
structure StoredSoFar (key : JobKey) (trace : List PipelineEvent)
    (toCome : List EvidenceRecordCreate) (evidence : List EvidenceRecord) : Prop where
  submitted : (storedOf trace).map Prod.fst ++ toCome = submittedOf trace
  records : (storedOf trace).map Prod.snd = evidence
  isFor : ∀ event ∈ trace, event.1.IsFor key

section StoredSoFar

variable {key : JobKey} {trace added : List PipelineEvent}
  {toCome : List EvidenceRecordCreate} {evidence : List EvidenceRecord}

theorem storedSoFar_nil : StoredSoFar key [] [] [] := ⟨rfl, rfl, by simp⟩

/-- Silent events keep the progress. -/
theorem StoredSoFar.silent (progress : StoredSoFar key trace toCome evidence)
    (silent : ∀ event ∈ added, IsSilent key event) :
    StoredSoFar key (trace ++ added) toCome evidence := by
  have noneSubmitted : submittedOf added = [] :=
    List.flatMap_eq_nil_iff.mpr fun event member => (silent event member).submits
  have noneStored : storedOf added = [] :=
    List.flatMap_eq_nil_iff.mpr fun event member => (silent event member).stores
  constructor
  · rw [storedOf_append, submittedOf_append, noneSubmitted, noneStored, List.append_nil,
      List.append_nil]
    exact progress.submitted
  · rw [storedOf_append, noneStored, List.append_nil]
    exact progress.records
  · exact List.forall_mem_append.mpr
      ⟨progress.isFor, fun event member => (silent event member).isFor⟩

/-- The next record to come is stored. -/
theorem StoredSoFar.store {command : EvidenceRecordCreate} {tenantId : String} {jobId : UUID}
    (progress : StoredSoFar key trace (command :: toCome) evidence)
    (ofKey : (tenantId, jobId) = key) (record : EvidenceRecord) :
    StoredSoFar key (trace ++ [⟨.addEvidence tenantId jobId command, .ok record⟩]) toCome
      (evidence ++ [record]) := by
  constructor
  · rw [storedOf_append, submittedOf_append, ← progress.submitted]
    simp [storedOf, submittedOf, storedBy, submittedBy]
  · rw [storedOf_append, List.map_append, progress.records]
    rfl
  · exact List.forall_mem_append.mpr ⟨progress.isFor, List.forall_mem_singleton.mpr ofKey⟩

/-- A gathering returns, with what its submissions hold to come. -/
theorem StoredSoFar.submit {job : ResearchJob} {tasks : List ResearchTask}
    (progress : StoredSoFar key trace [] evidence) (differ : (tasks.map (·.id)).Nodup)
    (results : (PipelineCall.research job tasks).Answer) :
    StoredSoFar key (trace ++ [⟨.research job tasks, .ok results⟩]) (recordsOf results.val)
      evidence := by
  have nothingLeft := progress.submitted
  rw [List.append_nil] at nothingLeft
  constructor
  · rw [storedOf_append, submittedOf_append, ← nothingLeft]
    simp [storedOf, submittedOf, storedBy, submittedBy]
  · rw [storedOf_append, List.map_append, progress.records]
    exact List.append_nil evidence
  · exact List.forall_mem_append.mpr ⟨progress.isFor, List.forall_mem_singleton.mpr differ⟩

end StoredSoFar

/-! ## The pipeline -/

/-- A job that was moved is the job that was asked for. -/
def MovesItself : PipelineEvent → Prop
  | ⟨.transition tenantId jobId _ _, .ok moved⟩ => moved.key = (tenantId, jobId)
  | _ => True

/-- The recorder of runs whose port moves the job that it is asked for. -/
abbrev moveRecorder :
    Monitor PipelineCall PipelineCall.Answer PyException (List PipelineEvent) :=
  Monitor.recorder fun _ event => MovesItself event

/-- A program that ends leaves this, and one that is stopped has stored some of what was
submitted. -/
def Leaves {α : Type} (key : JobKey) (holds : α → List PipelineEvent → Prop) :
    Except PyException α → List PipelineEvent → Prop
  | .ok value, after => holds value after
  | .error _, after => ∃ left kept, StoredSoFar key after left kept

section Pipeline

open Pipeline

variable {α β : Type} {key : JobKey} {trace : List PipelineEvent}
  {toCome : List EvidenceRecordCreate}
  {evidence : List EvidenceRecord} {job : ResearchJob} {tasks : List ResearchTask}
  {holds : β → List PipelineEvent → Prop}

/-- A program that makes only calls on the side, followed by another. -/
theorem leaves_aside_bind {program : Pipeline α} {next : α → Pipeline β}
    (only : Requests PipelineCall.IsAside program)
    (progress : StoredSoFar key trace toCome evidence)
    (goOn : ∀ value after, StoredSoFar key after toCome evidence →
      Ensures moveRecorder (next value) after (Leaves key holds)) :
    Ensures moveRecorder (program.bind next) trace (Leaves key holds) := by
  apply ensures_bind.mpr
  apply (only.ensures trace).mono
  rintro outcome _ ⟨added, aside, rfl⟩
  have still := progress.silent fun event member => isSilent_of_isAside (aside event member)
  cases outcome with
  | ok value => exact goOn value _ still
  | error fault => exact ⟨toCome, evidence, still⟩

/-- The rule for sequences. -/
theorem leaves_bind {program : Pipeline α} {next : α → Pipeline β}
    {between : α → List PipelineEvent → Prop}
    (first : Ensures moveRecorder program trace (Leaves key between))
    (second : ∀ value after, between value after →
      Ensures moveRecorder (next value) after (Leaves key holds)) :
    Ensures moveRecorder (program.bind next) trace (Leaves key holds) := by
  apply ensures_bind.mpr
  apply first.mono
  intro outcome after leaves
  cases outcome with
  | ok value => exact second value after leaves
  | error fault => exact leaves

theorem leaves_storeRecords (ofJob : job.key = key) (commands : List EvidenceRecordCreate)
    (progress : StoredSoFar key trace (commands ++ toCome) evidence) :
    Ensures moveRecorder (storeRecords job commands) trace
      (Leaves key fun records after => StoredSoFar key after toCome (evidence ++ records)) := by
  induction commands generalizing trace evidence with
  | nil =>
      change StoredSoFar key trace toCome (evidence ++ [])
      rw [List.append_nil]
      exact progress
  | cons command rest inductionHypothesis =>
      apply ensures_perform_bind.mpr
      intro answer _
      cases answer with
      | ok record =>
          apply leaves_bind (inductionHypothesis (progress.store ofJob record))
          intro records after stored
          rw [List.append_assoc] at stored
          exact stored
      | error fault =>
          exact ⟨_, _, progress.silent (List.forall_mem_singleton.mpr ⟨rfl, rfl, ofJob⟩)⟩

theorem leaves_storeResults (ofJob : job.key = key)
    (results : List (ResearchTask × Except PyException EvidenceSubmission))
    (progress : StoredSoFar key trace (recordsOf (results.map Prod.snd) ++ toCome) evidence) :
    Ensures moveRecorder (storeResults job results) trace
      (Leaves key fun collected after =>
        StoredSoFar key after toCome (evidence ++ collected.1)) := by
  induction results generalizing trace evidence with
  | nil =>
      change StoredSoFar key trace toCome (evidence ++ [])
      rw [List.append_nil]
      exact progress
  | cons result rest inductionHypothesis =>
      obtain ⟨task, result⟩ := result
      cases result with
      | error failure =>
          apply leaves_bind (inductionHypothesis progress)
          exact fun collected after stored => stored
      | ok submission =>
          have first : recordsOf (((task, .ok submission) :: rest).map Prod.snd) ++ toCome =
              submission.records ++ (recordsOf (rest.map Prod.snd) ++ toCome) := by
            rw [← List.append_assoc]
            rfl
          rw [first] at progress
          apply leaves_bind (leaves_storeRecords ofJob submission.records progress)
          intro stored after kept
          apply leaves_bind (inductionHypothesis kept)
          intro collected last stored
          rw [List.append_assoc] at stored
          exact stored

theorem leaves_collectEvidence (ofJob : job.key = key) (differ : (tasks.map (·.id)).Nodup)
    (progress : StoredSoFar key trace [] evidence) :
    Ensures moveRecorder (collectEvidence job tasks) trace
      (Leaves key fun collected after => StoredSoFar key after [] (evidence ++ collected.1)) := by
  unfold collectEvidence
  split
  · change StoredSoFar key trace [] (evidence ++ [])
    rw [List.append_nil]
    exact progress
  · apply ensures_perform_bind.mpr
    intro answer _
    cases answer with
    | ok results =>
        apply leaves_storeResults ofJob
        have paired : (tasks.zip results.val).map Prod.snd = results.val :=
          List.map_snd_zip (Nat.le_of_eq results.property)
        rw [paired, List.append_nil]
        exact progress.submit differ results
    | error fault =>
        exact ⟨_, _, progress.silent (List.forall_mem_singleton.mpr ⟨rfl, rfl, differ⟩)⟩

/-- The job is moved, and is still the same job. -/
theorem leaves_transition_bind {target : JobStatus} {detail : Option String}
    {next : ResearchJob → Pipeline β} (ofJob : job.key = key)
    (progress : StoredSoFar key trace toCome evidence)
    (goOn : ∀ moved : ResearchJob, moved.key = key → ∀ after,
      StoredSoFar key after toCome evidence →
        Ensures moveRecorder (next moved) after (Leaves key holds)) :
    Ensures moveRecorder ((transition job target detail).bind next) trace
      (Leaves key holds) := by
  apply ensures_perform_bind.mpr
  intro answer movesItself
  have still := progress.silent (List.forall_mem_singleton.mpr
    (@isSilent_of_isAside key ⟨.transition job.tenantId job.id target detail, answer⟩ trivial))
  cases answer with
  | ok moved => exact goOn moved (movesItself.trans ofJob) _ still
  | error fault => exact ⟨toCome, evidence, still⟩

theorem aside_recordFindings {analysis : AnalysisResult} {critique : CriticReview}
    {status : ReviewerStatus} :
    Requests PipelineCall.IsAside (recordFindings job analysis critique status) := by
  apply requests_bind requests_finish
  intro findings
  exact requests_bind (requests_perform.mpr trivial) fun _ => requests_finish

/-- A round goes on with the same job and the evidence that it had, or ends with it. -/
def Pipeline.Round.KeepsTo (key : JobKey) (evidence : List EvidenceRecord) : Round → Prop
  | .settled job _ => job.key = key
  | .moreResearch job => job.key = key
  | .ended outcome => outcome.evidence = evidence

theorem leaves_reviewRound (ofJob : job.key = key) (progress : StoredSoFar key trace [] evidence) :
    Ensures moveRecorder (reviewRound job evidence) trace
      (Leaves key fun round after =>
        StoredSoFar key after [] evidence ∧ round.KeepsTo key evidence) := by
  apply leaves_transition_bind ofJob progress
  intro job ofJob after progress
  refine leaves_aside_bind (requests_perform.mpr (by trivial)) progress ?_
  intro analysis after progress
  refine leaves_aside_bind (requests_perform.mpr (by trivial)) progress ?_
  intro critique after progress
  split
  · apply leaves_aside_bind aside_recordFindings progress
    exact fun _ after progress => ⟨progress, ofJob⟩
  · apply leaves_aside_bind aside_recordFindings progress
    intro _ after progress
    apply leaves_transition_bind ofJob progress
    intro job ofJob after progress
    refine leaves_aside_bind (requests_perform.mpr (by trivial)) progress ?_
    intro decision after progress
    cases decision with
    | approve =>
        apply leaves_aside_bind aside_recordFindings progress
        exact fun _ after progress => ⟨progress, ofJob⟩
    | reject =>
        apply leaves_aside_bind aside_recordFindings progress
        intro _ after progress
        apply leaves_transition_bind ofJob progress
        exact fun _ _ after progress => ⟨progress, rfl⟩
    | requestMoreResearch =>
        apply leaves_transition_bind ofJob progress
        exact fun _ ofJob after progress => ⟨progress, ofJob⟩

/-- The review loop was left with all that is stored. -/
def Pipeline.Reviewed.Gathers (key : JobKey) (reviewed : Reviewed) (after : List PipelineEvent) :
    Prop :=
  match reviewed with
  | .ended outcome => StoredSoFar key after [] outcome.evidence
  | .settled job _ evidence _ => StoredSoFar key after [] evidence ∧ job.key = key

theorem leaves_reviewLoop (remaining : Nat) {unmet : List NonEmptyText}
    (ofJob : job.key = key) (differ : (tasks.map (·.id)).Nodup)
    (progress : StoredSoFar key trace [] evidence) :
    Ensures moveRecorder (reviewLoop tasks remaining job evidence unmet) trace
      (Leaves key (Reviewed.Gathers key)) := by
  induction remaining generalizing trace job evidence unmet with
  | zero =>
      unfold reviewLoop
      apply leaves_bind (leaves_reviewRound ofJob progress)
      rintro round after ⟨progress, keepsTo⟩
      cases round with
      | settled job critique => exact ⟨progress, keepsTo⟩
      | ended outcome =>
          have same : outcome.evidence = evidence := keepsTo
          rw [← same] at progress
          exact progress
      | moreResearch job =>
          apply leaves_transition_bind keepsTo progress
          exact fun _ _ after progress => progress
  | succ remaining inductionHypothesis =>
      unfold reviewLoop
      apply leaves_bind (leaves_reviewRound ofJob progress)
      rintro round after ⟨progress, keepsTo⟩
      cases round with
      | settled job critique => exact ⟨progress, keepsTo⟩
      | ended outcome =>
          have same : outcome.evidence = evidence := keepsTo
          rw [← same] at progress
          exact progress
      | moreResearch job =>
          apply leaves_bind (leaves_collectEvidence keepsTo differ progress)
          exact fun collected after progress => inductionHypothesis keepsTo progress

theorem leaves_finishReport {publishes : Bool} {critique : CriticReview}
    {unmet : List NonEmptyText} (ofJob : job.key = key)
    (progress : StoredSoFar key trace [] evidence) :
    Ensures moveRecorder (finishReport publishes job critique evidence unmet) trace
      (Leaves key fun ended after => StoredSoFar key after [] ended.evidence) := by
  apply leaves_transition_bind ofJob progress
  intro job ofJob after progress
  refine leaves_aside_bind (requests_perform.mpr (by trivial)) progress ?_
  intro report after progress
  apply leaves_aside_bind requests_finish progress
  intro missing after progress
  have published : Requests PipelineCall.IsAside
      (publishReport publishes job report (shortfallsOf unmet report missing)) := by
    unfold publishReport
    split
    · exact requests_bind (requests_perform.mpr trivial) fun _ => requests_finish
    · exact requests_finish
  apply leaves_aside_bind published progress
  intro publication after progress
  dsimp only
  split
  · apply leaves_transition_bind ofJob progress
    exact fun _ _ after progress => progress
  · apply leaves_transition_bind ofJob progress
    exact fun _ _ after progress => progress

/-- Fresh identifiers give the tasks of a plan identifiers of their own. -/
def FreshTasks (stamps : Nat → UUID × Timestamp) : Prop :=
  ∀ first second, first < 50 → second < 50 → (stamps first).1 = (stamps second).1 →
    first = second

theorem nodup_researcherTasks {stamps : Nat → UUID × Timestamp} (fresh : FreshTasks stamps)
    (plan : ResearchPlan) (job : ResearchJob) :
    ((researcherTasks plan job stamps).map (·.id)).Nodup := by
  have few : (plan.tasks.filter (·.assignedAgent = .researcher)).length ≤ 50 :=
    (List.length_filter_le ..).trans plan.tasksInRange.2
  have ids : (researcherTasks plan job stamps).map (·.id) =
      (List.range (plan.tasks.filter (·.assignedAgent = .researcher)).length).map
        fun index => (stamps index).1 := by
    unfold researcherTasks
    rw [List.map_map, List.range_eq_range', ← List.zipIdx_map_snd 0, List.map_map]
    rfl
  rw [ids]
  apply List.Nodup.map_on
  · intro first isFirst second isSecond same
    rw [List.mem_range] at isFirst isSecond
    exact fresh first second (by omega) (by omega) same
  · exact List.nodup_range

theorem leaves_runSteps {publishes : Bool} {stamps : Nat → UUID × Timestamp}
    (ofJob : job.key = key)
    (differ : ∀ plan job, ((researcherTasks plan job stamps).map (·.id)).Nodup) :
    Ensures moveRecorder (runSteps publishes stamps job) []
      (Leaves key fun ended after => StoredSoFar key after [] ended.evidence) := by
  apply leaves_transition_bind ofJob storedSoFar_nil
  intro job ofJob after progress
  refine leaves_aside_bind (requests_perform.mpr (by trivial)) progress ?_
  intro plan after progress
  apply leaves_transition_bind ofJob progress
  intro job ofJob after progress
  apply leaves_bind (leaves_collectEvidence ofJob (differ plan job) progress)
  intro collected after progress
  obtain ⟨evidence, unmet⟩ := collected
  dsimp only
  split
  · apply leaves_transition_bind ofJob progress
    exact fun _ _ after progress => progress
  · apply leaves_bind (leaves_reviewLoop maxReviewCycles ofJob (differ plan _) progress)
    intro reviewed after gathers
    cases reviewed with
    | ended outcome => exact gathers
    | settled job critique evidence unmet =>
        obtain ⟨progress, ofJob⟩ := gathers
        exact leaves_finishReport ofJob progress

/-- A run that could not go on: what was stored stays, and the outcome says why. -/
def Fails (key : JobKey) (toCome : List EvidenceRecordCreate) (evidence : List EvidenceRecord)
    (outcome : Except PyException ResearchOutcome) (after : List PipelineEvent) : Prop :=
  StoredSoFar key after toCome evidence ∧ ∀ ended, outcome = .ok ended → ended.failure ≠ none

theorem fails_endWith {target : JobStatus} {reason : String}
    (progress : StoredSoFar key trace toCome evidence) :
    Ensures moveRecorder (endWith job target reason) trace (Fails key toCome evidence) := by
  apply ensures_perform_bind.mpr
  intro answer _
  have still := progress.silent (List.forall_mem_singleton.mpr
    (@isSilent_of_isAside key ⟨.transition job.tenantId job.id target (some reason), answer⟩
      trivial))
  cases answer with
  | ok ended =>
      refine ⟨still, ?_⟩
      intro outcome same
      rw [← Except.ok.inj same]
      exact Option.some_ne_none reason
  | error fault =>
      refine ⟨still, ?_⟩
      intro outcome same
      cases same

theorem fails_fail {error : PyException} (progress : StoredSoFar key trace toCome evidence) :
    Ensures moveRecorder (fail job error) trace (Fails key toCome evidence) := by
  have asFailed {trace : List PipelineEvent} (progress : StoredSoFar key trace toCome evidence) :
      Ensures moveRecorder ((endWith job .failed (describe error)).rescue fun _ => raise error)
        trace (Fails key toCome evidence) := by
    apply ensures_rescue.mpr
    apply (fails_endWith progress).mono
    intro outcome after fails
    cases outcome with
    | ok ended => exact fails
    | error fault => exact ⟨fails.1, fun ended same => by cases same⟩
  unfold fail
  dsimp only
  split
  · apply ensures_rescue.mpr
    apply (fails_endWith progress).mono
    intro outcome after fails
    cases outcome with
    | ok ended => exact fails
    | error fault => exact asFailed fails.1
  · exact asFailed progress

/-- What was submitted is stored in order, all of it unless the run has failed. -/
def StoredInOrder (key : JobKey) (outcome : Except PyException ResearchOutcome)
    (after : List PipelineEvent) : Prop :=
  ∃ toCome evidence, StoredSoFar key after toCome evidence ∧
    ∀ ended, outcome = .ok ended → ended.failure = none →
      toCome = [] ∧ evidence = ended.evidence

theorem storedInOrder_runResearchJob {publishes : Bool} {stamps : Nat → UUID × Timestamp}
    (fresh : FreshTasks stamps) :
    Ensures moveRecorder (runResearchJob publishes stamps job) []
      (StoredInOrder job.key) := by
  apply ensures_rescue.mpr
  apply (leaves_runSteps rfl (nodup_researcherTasks fresh)).mono
  intro outcome after leaves
  cases outcome with
  | ok ended =>
      refine ⟨[], ended.evidence, leaves, ?_⟩
      intro other same _
      rw [Except.ok.inj same]
      exact ⟨rfl, rfl⟩
  | error fault =>
      obtain ⟨toCome, evidence, progress⟩ := leaves
      apply (fails_fail progress).mono
      rintro outcome last ⟨progress, failed⟩
      exact ⟨toCome, evidence, progress, fun ended same failure =>
        absurd failure (failed ended same)⟩

end Pipeline

/-! ## Records that differ -/

/-- A redelivery of the one would be recognised by the other. -/
def EvidenceRecordCreate.SameAs (first second : EvidenceRecordCreate) : Prop :=
  first.contentHash = second.contentHash ∧ first.producingTaskId = second.producingTaskId ∧
    first.toolInvocationId = second.toolInvocationId ∧ first.sourceUri = second.sourceUri

/-- What research promises of its submissions: each names its own task, and a later
gathering cites other calls than an earlier one. -/
structure FreshSubmissions (trace : List PipelineEvent) : Prop where
  named : ∀ job tasks results, ⟨.research job tasks, .ok results⟩ ∈ trace →
    ∀ task submission, (task, .ok submission) ∈ tasks.zip results.val →
      ∀ command ∈ submission.records, command.producingTaskId = task.id
  calls : trace.Pairwise fun earlier later =>
    ∀ first ∈ submittedBy earlier, ∀ second ∈ submittedBy later,
      first.toolInvocationId ≠ second.toolInvocationId

section Differ

variable {key : JobKey} {trace : List PipelineEvent}

/-- The records of one gathering differ: in their task, or else in their hash. -/
theorem differ_of_recordsOf {tasks : List ResearchTask}
    {results : List (Except PyException EvidenceSubmission)}
    (paired : results.length = tasks.length) (distinct : (tasks.map (·.id)).Nodup)
    (named : ∀ task submission, (task, .ok submission) ∈ tasks.zip results →
      ∀ command ∈ submission.records, command.producingTaskId = task.id) :
    (recordsOf results).Pairwise fun first second => ¬ first.SameAs second := by
  have byTask : recordsOf results = (tasks.zip results).flatMap fun pair =>
      match pair.2 with
      | .ok submission => submission.records
      | .error _ => [] := by
    have same : (tasks.zip results).map Prod.snd = results :=
      List.map_snd_zip (Nat.le_of_eq paired)
    unfold recordsOf
    rw [← same, List.flatMap_map, same]
  have apart : (tasks.zip results).Pairwise fun first second => first.1.id ≠ second.1.id := by
    have firsts : (tasks.zip results).map Prod.fst = tasks :=
      List.map_fst_zip (Nat.le_of_eq paired.symm)
    rw [← firsts, List.map_map] at distinct
    exact List.pairwise_map.mp distinct
  rw [byTask, List.pairwise_flatMap]
  constructor
  · rintro ⟨task, result⟩ member
    cases result with
    | error fault => exact List.Pairwise.nil
    | ok submission =>
        apply (List.pairwise_map.mp submission.hashesDistinct).imp
        exact fun differ same => differ same.1
  · apply apart.imp_of_mem
    rintro ⟨task, result⟩ ⟨other, later⟩ member laterMember differ first isFirst second isSecond
      same
    cases result with
    | error fault => cases isFirst
    | ok submission =>
        cases later with
        | error fault => cases isSecond
        | ok laterSubmission =>
            apply differ
            rw [← named task submission member first isFirst,
              ← named other laterSubmission laterMember second isSecond]
            exact same.2.1

/-- All records that are submitted in a run differ. -/
theorem FreshSubmissions.differ (fresh : FreshSubmissions trace)
    (isFor : ∀ event ∈ trace, event.1.IsFor key) :
    (submittedOf trace).Pairwise fun first second => ¬ first.SameAs second := by
  unfold submittedOf
  rw [List.pairwise_flatMap]
  constructor
  · rintro ⟨call, answer⟩ member
    cases call with
    | research job tasks =>
        cases answer with
        | error fault => exact List.Pairwise.nil
        | ok results =>
            exact differ_of_recordsOf results.property (isFor _ member)
              (fresh.named job tasks results member)
    | _ => exact List.Pairwise.nil
  · apply fresh.calls.imp
    exact fun others first isFirst second isSecond same =>
      others first isFirst second isSecond same.2.2.1

end Differ

/-! ## What the store keeps -/

section Store

variable {World : Type} {deliveries : Deliveries} {world : DeliveryWorld World}
  {others : Handler PipelineCall PipelineCall.Answer PyException (DeliveryWorld World)}
  {key : JobKey} {tenantId : String} {jobId : UUID} {command : EvidenceRecordCreate}

/-- Nobody else writes to the evidence of the job. -/
def KeepsEvidence (key : JobKey)
    (others : Handler PipelineCall PipelineCall.Answer PyException (DeliveryWorld World)) :
    Prop :=
  ∀ world call, (others world call).2.stores.jobs.evidenceOf key =
    world.stores.jobs.evidenceOf key

theorem EvidenceRecordCreate.not_isSameRecord {record : EvidenceRecord}
    (differ : ¬ record.toEvidenceRecordCreate.SameAs command) :
    ¬ JobActivities.isSameRecord command record = true := by
  intro same
  exact differ (by simpa [JobActivities.isSameRecord, SameAs] using same)

/-- A record that is stored, and unlike any that was, is appended. -/
theorem DeliveryWorld.evidence_of_stored {record : EvidenceRecord}
    (differ : ∀ record ∈ world.stores.jobs.evidenceOf (tenantId, jobId),
      ¬ record.toEvidenceRecordCreate.SameAs command)
    (stored : (handler deliveries others world (.addEvidence tenantId jobId command)).1 =
      .ok record) :
    record.toEvidenceRecordCreate = command ∧
      (handler deliveries others world
          (.addEvidence tenantId jobId command)).2.stores.jobs.evidenceOf (tenantId, jobId) =
        world.stores.jobs.evidenceOf (tenantId, jobId) ++ [record] := by
  have unknown : (world.stores.jobs.evidenceOf (tenantId, jobId)).find?
      (JobActivities.isSameRecord command) = none :=
    List.find?_eq_none.mpr fun record member =>
      EvidenceRecordCreate.not_isSameRecord (differ record member)
  rw [handler_addEvidence] at stored ⊢
  unfold JobActivities.deliverEvidence at stored ⊢
  rw [JobActivities.addEvidence_eq, unknown] at stored ⊢
  cases found : world.stores.jobs.get tenantId jobId with
  | error missing =>
      rw [found] at stored
      cases stored
  | ok job =>
      rw [found] at stored
      dsimp only at stored ⊢
      split at stored
      · rename_i published
        obtain rfl := Except.ok.inj stored
        rw [if_pos published]
        exact ⟨rfl, JobActivities.evidenceOf_appendEvidence_self⟩
      · cases stored

/-- A record that is refused leaves the jobs as they are. -/
theorem DeliveryWorld.jobs_of_refused {fault : PyException}
    (refused : (handler deliveries others world (.addEvidence tenantId jobId command)).1 =
      .error fault) :
    (handler deliveries others world (.addEvidence tenantId jobId command)).2.stores.jobs =
      world.stores.jobs := by
  rw [handler_addEvidence] at refused ⊢
  unfold JobActivities.deliverEvidence at refused ⊢
  generalize (once deliveries world.delivered _).1 = delivery at refused ⊢
  cases outcome : JobActivities.addEvidence world.stores.jobs tenantId jobId command
      delivery.id delivery.now with
  | ok result =>
      rw [outcome] at refused
      cases refused
  | error error => rfl

/-- Only the adding of evidence writes to the evidence of the job. -/
theorem DeliveryWorld.evidenceOf_handler (undisturbed : KeepsEvidence key others)
    {call : PipelineCall} (notEvidence : ∀ tenantId jobId command,
      call ≠ .addEvidence tenantId jobId command) :
    (handler deliveries others world call).2.stores.jobs.evidenceOf key =
      world.stores.jobs.evidenceOf key := by
  cases call with
  | addEvidence tenantId jobId command => exact absurd rfl (notEvidence tenantId jobId command)
  | transition tenantId jobId target detail =>
      rw [handler_transition]
      unfold JobActivities.deliverTransition
      generalize (once deliveries world.delivered _).1 = delivery
      cases outcome : JobActivities.transition world.stores.jobs tenantId jobId target detail
          delivery.usage delivery.now with
      | error error => rfl
      | ok result =>
          obtain ⟨moved, updated⟩ := result
          obtain ⟨-, jobs, rfl⟩ := JobActivities.eq_of_transition outcome
          rfl
  | recordFindings tenantId jobId findings =>
      rw [handler_recordFindings]
      unfold JobActivities.deliverFindings
      generalize (once deliveries world.delivered _).1 = delivery
      cases outcome : JobActivities.recordFindings world.stores.jobs tenantId jobId findings
          delivery.finding with
      | error error => rfl
      | ok result =>
          obtain ⟨_, -, records⟩ := bind_eq_ok.mp outcome
          obtain ⟨updated, replaces, records⟩ := bind_eq_ok.mp records
          obtain ⟨_, -, rfl⟩ := map_eq_ok.mp replaces
          obtain rfl := Except.ok.inj records
          rfl
  | _ => exact undisturbed world _

/-- The records that were answered are appended, each to the command that asked for it. -/
structure Appended (pairs : List (EvidenceRecordCreate × EvidenceRecord))
    (before after : List EvidenceRecord) : Prop where
  appended : after = before ++ pairs.map Prod.snd
  asked : ∀ pair ∈ pairs, pair.2.toEvidenceRecordCreate = pair.1

/-- No record that is stored would be taken for one of these. -/
def Unlike (pairs : List (EvidenceRecordCreate × EvidenceRecord))
    (evidence : List EvidenceRecord) : Prop :=
  ∀ pair ∈ pairs, ∀ record ∈ evidence, ¬ record.toEvidenceRecordCreate.SameAs pair.1

/-- One call appends what it is answered. -/
theorem DeliveryWorld.appended_of_handler (undisturbed : KeepsEvidence key others)
    (call : PipelineCall) (isFor : call.IsFor key)
    (unlike : Unlike (storedBy ⟨call, (handler deliveries others world call).1⟩)
      (world.stores.jobs.evidenceOf key)) :
    Appended (storedBy ⟨call, (handler deliveries others world call).1⟩)
      (world.stores.jobs.evidenceOf key)
      ((handler deliveries others world call).2.stores.jobs.evidenceOf key) := by
  have quiet (silent : storedBy ⟨call, (handler deliveries others world call).1⟩ = [])
      (same : (handler deliveries others world call).2.stores.jobs.evidenceOf key =
        world.stores.jobs.evidenceOf key) :
      Appended (storedBy ⟨call, (handler deliveries others world call).1⟩)
        (world.stores.jobs.evidenceOf key)
        ((handler deliveries others world call).2.stores.jobs.evidenceOf key) := by
    rw [silent, same]
    exact ⟨(List.append_nil _).symm, by simp⟩
  cases call with
  | addEvidence tenantId jobId command =>
      have ofKey : (tenantId, jobId) = key := isFor
      cases answered : (handler deliveries others world
          (.addEvidence tenantId jobId command)).1 with
      | ok record =>
          rw [answered] at unlike
          have differ := unlike (command, record) (List.mem_singleton_self _)
          rw [← ofKey] at differ ⊢
          obtain ⟨same, appended⟩ := evidence_of_stored differ answered
          exact ⟨appended, List.forall_mem_singleton.mpr same⟩
      | error fault =>
          rw [answered] at quiet
          apply quiet rfl
          unfold InMemoryJobRepository.evidenceOf
          rw [jobs_of_refused answered]
  | transition | recordFindings =>
      exact quiet rfl (evidenceOf_handler undisturbed fun _ _ _ same => by cases same)
  | _ => exact quiet rfl (undisturbed world _)

/-- A run appends what it is answered, in order. -/
theorem DeliveryWorld.appended_of_interpret {α : Type} {pipeline : Pipeline α}
    {trace : List PipelineEvent} (undisturbed : KeepsEvidence key others)
    (runs : (interpret (handler deliveries others) pipeline world).trace = trace)
    (isFor : ∀ event ∈ trace, event.1.IsFor key)
    (differ : ((storedOf trace).map Prod.fst).Pairwise
      fun first second => ¬ first.SameAs second)
    (unlike : Unlike (storedOf trace) (world.stores.jobs.evidenceOf key)) :
    Appended (storedOf trace) (world.stores.jobs.evidenceOf key)
      ((interpret (handler deliveries others) pipeline world).world.stores.jobs.evidenceOf
        key) := by
  induction pipeline generalizing world trace with
  | finish outcome =>
      obtain rfl := runs
      exact ⟨(List.append_nil _).symm, by simp [storedOf]⟩
  | request call resume inductionHypothesis =>
      obtain rfl := runs
      let answered := handler deliveries others world call
      let rest := (interpret (handler deliveries others) (resume answered.1) answered.2).trace
      have split : storedOf (⟨call, answered.1⟩ :: rest) =
          storedBy ⟨call, answered.1⟩ ++ storedOf rest := rfl
      change Appended (storedOf (⟨call, answered.1⟩ :: rest)) _ _
      change Unlike (storedOf (⟨call, answered.1⟩ :: rest)) _ at unlike
      change ((storedOf (⟨call, answered.1⟩ :: rest)).map Prod.fst).Pairwise _ at differ
      rw [split] at unlike differ ⊢
      rw [List.map_append, List.pairwise_append] at differ
      obtain ⟨-, laterDiffer, apart⟩ := differ
      have first := appended_of_handler undisturbed call (isFor _ List.mem_cons_self)
        fun pair member => unlike pair (List.mem_append_left _ member)
      have still : Unlike (storedOf rest) (answered.2.stores.jobs.evidenceOf key) := by
        intro pair member record isStored
        rw [first.appended] at isStored
        rcases List.mem_append.mp isStored with earlier | now
        · exact unlike pair (List.mem_append_right _ member) record earlier
        · obtain ⟨asked, isAsked, rfl⟩ := List.mem_map.mp now
          rw [first.asked asked isAsked]
          exact apart _ (List.mem_map_of_mem isAsked) _ (List.mem_map_of_mem member)
      have second := inductionHypothesis answered.1 rfl
        (fun event member => isFor event (List.mem_cons_of_mem _ member)) laterDiffer still
      constructor
      · change (interpret (handler deliveries others) (resume answered.1)
          answered.2).world.stores.jobs.evidenceOf key = _
        rw [second.appended, first.appended, List.map_append, List.append_assoc]
      · exact List.forall_mem_append.mpr ⟨first.asked, second.asked⟩

end Store

/-- Whatever the port answers, the job that it moved is the one that it was asked to
move. -/
theorem DeliveryWorld.movesItself {World α : Type} {deliveries : Deliveries}
    {others : Handler PipelineCall PipelineCall.Answer PyException (DeliveryWorld World)}
    (pipeline : Pipeline α) (world : DeliveryWorld World) :
    moveRecorder.Admits [] (interpret (handler deliveries others) pipeline world).trace := by
  apply Monitor.admits_of_forall
  rintro _ ⟨call, answer⟩ member
  obtain ⟨before, given⟩ := answer_of_mem_trace _ member
  cases call with
  | transition tenantId jobId target detail =>
      cases answer with
      | error fault => trivial
      | ok moved =>
          have answered : (handler deliveries others before
              (.transition tenantId jobId target detail)).1 = .ok moved := given.symm
          rw [handler_transition] at answered
          unfold JobActivities.deliverTransition at answered
          generalize (once deliveries before.delivered _).1 = delivery at answered
          cases outcome : JobActivities.transition before.stores.jobs tenantId jobId target
              detail delivery.usage delivery.now with
          | error error =>
              rw [outcome] at answered
              cases answered
          | ok result =>
              rw [outcome] at answered
              obtain rfl := Except.ok.inj answered
              exact (JobActivities.eq_of_transition outcome).1
  | _ => trivial

/-- Every record that the researchers of a run submit is stored once: the evidence of the
job grows by one record for each, in the order they were submitted, however often the
activities are delivered; and by all of them unless the run has failed. -/
theorem submissions_stored_once {World : Type} {deliveries : Deliveries}
    {others : Handler PipelineCall PipelineCall.Answer PyException (DeliveryWorld World)}
    {world : DeliveryWorld World} {publishes : Bool} {stamps : Nat → UUID × Timestamp}
    {job : ResearchJob} {run : Run PipelineCall PipelineCall.Answer PyException
      (DeliveryWorld World) ResearchOutcome}
    (runs : interpret (DeliveryWorld.handler deliveries others)
      (Pipeline.runResearchJob publishes stamps job) world = run)
    (freshTasks : FreshTasks stamps) (undisturbed : KeepsEvidence job.key others)
    (fresh : FreshSubmissions run.trace)
    (newCalls : ∀ command ∈ submittedOf run.trace,
      ∀ record ∈ world.stores.jobs.evidenceOf job.key,
        record.toolInvocationId ≠ command.toolInvocationId) :
    ∃ stored : List EvidenceRecord,
      run.world.stores.jobs.evidenceOf job.key =
          world.stores.jobs.evidenceOf job.key ++ stored ∧
        stored.map (·.toEvidenceRecordCreate) <+: submittedOf run.trace ∧
        ∀ ended, run.outcome = .ok ended → ended.failure = none →
          stored.map (·.toEvidenceRecordCreate) = submittedOf run.trace ∧
            ended.evidence = stored := by
  subst runs
  obtain ⟨toCome, evidence, progress, whole⟩ :=
    (storedInOrder_runResearchJob freshTasks).sound_recorder
      (DeliveryWorld.movesItself _ world)
  have stored := progress.submitted
  have pre : (storedOf (interpret (DeliveryWorld.handler deliveries others)
      (Pipeline.runResearchJob publishes stamps job) world).trace).map Prod.fst <+:
        submittedOf _ := ⟨toCome, progress.submitted⟩
  have appended := DeliveryWorld.appended_of_interpret undisturbed rfl progress.isFor
    ((fresh.differ progress.isFor).sublist pre.sublist) (by
      intro pair member record isStored same
      exact newCalls pair.1 (pre.subset (List.mem_map_of_mem member)) record isStored
        same.2.2.1)
  have asked : (storedOf (interpret (DeliveryWorld.handler deliveries others)
      (Pipeline.runResearchJob publishes stamps job) world).trace).map Prod.fst =
        evidence.map (·.toEvidenceRecordCreate) := by
    rw [← progress.records, List.map_map]
    exact (List.map_congr_left appended.asked).symm
  refine ⟨evidence, ?_, ?_, ?_⟩
  · rw [appended.appended, progress.records]
  · rw [← asked]
    exact pre
  · intro ended isEnded completed
    obtain ⟨rfl, rfl⟩ := whole ended isEnded completed
    rw [List.append_nil] at stored
    exact ⟨asked.symm.trans stored, rfl⟩

namespace TeamPlanAgain

open TeamPlan (job)

/-- A researcher's submission, for its own task. -/
def submission (task : ResearchTask) : EvidenceSubmission where
  records := [{ TeamPlan.command with producingTaskId := task.id }]
  recordsInRange := TeamPlan.submission.recordsInRange
  unmetBounded := noTexts_bounded
  hashesDistinct := List.nodup_singleton _

def lost : PyException where
  className := "ActivityError"
  rendered := "Activity task failed"

/-- The agents and the reviewer. -/
def others : Handler PipelineCall PipelineCall.Answer PyException (DeliveryWorld Unit)
  | world, .plan _ => (.ok TeamPlan.plan, world)
  | world, .research _ tasks =>
      (.ok ⟨tasks.map fun task => .ok (submission task), List.length_map _⟩, world)
  | world, .analyze .. => (.ok TeamPlan.analysis, world)
  | world, .critique .. => (.ok TeamPlan.review, world)
  | world, .report .. => (.ok TeamPlan.report, world)
  | world, _ => (.error lost, world)

def delivery (id : UUID) : Delivery := ⟨id, 4, none, fun _ => (id, 4)⟩

/-- Every activity is carried out three times. -/
def deliveries : Deliveries := fun _ _ => (delivery 5, [delivery 6, delivery 7])

def world : DeliveryWorld Unit where
  stores := { jobs := ({} : InMemoryJobRepository).add job }
  others := ()

def stamps (index : Nat) : UUID × Timestamp := (⟨Fin.ofNat (2 ^ 128) (index + 2)⟩, 0)

def run : Run PipelineCall PipelineCall.Answer PyException (DeliveryWorld Unit)
    ResearchOutcome :=
  interpret (DeliveryWorld.handler deliveries others)
    (Pipeline.runResearchJob false stamps job) world

theorem freshTasks : FreshTasks stamps := by
  intro first second _ _ same
  have values : (first + 2) % 2 ^ 128 = (second + 2) % 2 ^ 128 :=
    congrArg (·.int.val) same
  omega

theorem undisturbed : KeepsEvidence job.key others := by
  intro world call
  cases call <;> rfl

theorem fresh : FreshSubmissions run.trace where
  named := by
    intro job tasks results member task submitted paired command isSubmitted
    obtain ⟨before, given⟩ := answer_of_mem_trace _ member
    have same : results.val = tasks.map fun task => .ok (submission task) :=
      congrArg Subtype.val (Except.ok.inj given)
    rw [same, List.zip_map_right] at paired
    obtain ⟨⟨first, second⟩, twice, isPair⟩ := List.mem_map.mp paired
    obtain ⟨rfl, isSecond⟩ := Prod.mk.inj isPair
    obtain rfl := Except.ok.inj isSecond
    obtain ⟨index, inRange, isBoth⟩ := List.mem_iff_getElem.mp twice
    rw [List.getElem_zip] at isBoth
    obtain ⟨rfl, rfl⟩ := Prod.mk.inj isBoth
    rw [List.mem_singleton.mp isSubmitted]
    rfl
  calls := by decide +kernel

theorem completes : run.outcome.toOption.any fun ended => ended.failure = none := by
  decide +kernel

theorem submits : (submittedOf run.trace).map (·.toolInvocationId) = [3] := by
  decide +kernel

end TeamPlanAgain

open TeamPlanAgain in
theorem submissions_stored_once_for_teamPlan :
    ∃ stored : List EvidenceRecord,
      run.world.stores.jobs.evidenceOf TeamPlan.job.key = stored ∧
        stored.map (·.toolInvocationId) = [3] := by
  obtain ⟨stored, appended, -, whole⟩ :=
    submissions_stored_once (rfl : _ = run) freshTasks undisturbed fresh
      (by intro command _ record member; cases member)
  have completed := completes
  cases outcome : run.outcome with
  | error fault =>
      rw [outcome] at completed
      cases completed
  | ok ended =>
      rw [outcome] at completed
      obtain ⟨all, -⟩ := whole ended outcome (of_decide_eq_true completed)
      refine ⟨stored, appended, ?_⟩
      rw [← submits, ← all, List.map_map]
      rfl

end ResearchPlatform
