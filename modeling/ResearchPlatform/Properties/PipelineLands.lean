import ResearchPlatform.Workflow.Orchestration

/-!
# Every job lands

Whatever the activities and the reviewer answer, and whichever port writes fail,
`runResearchJob` ends with the job in a terminal status, as long as the port
accepts exactly the moves of `allowedTransitions`.
-/

namespace ResearchPlatform

open Foundation Program Pipeline

/-! ## The journal of a run -/

/-- What a run has asked for so far, and the status the port has stored. -/
structure Journal where
  key : JobKey
  status : JobStatus := .created
  refused : List JobStatus := []
  lateRequests : Nat := 0
  passes : Nat := 0
  analyses : Nat := 0
  critiques : Nat := 0
  reviews : Nat := 0

namespace Journal

/-- A request of the port counts as late once the stored status is terminal. -/
def portRequested (journal : Journal) : Journal :=
  if journal.status.IsTerminal then
    { journal with lateRequests := journal.lateRequests + 1 }
  else
    journal

def observe (journal : Journal) : PipelineEvent → Journal
  | ⟨.transition _ _ target _, .ok _⟩ =>
      { journal.portRequested with status := target }
  | ⟨.transition _ _ target _, .error _⟩ =>
      { journal.portRequested with refused := journal.refused ++ [target] }
  | ⟨.addEvidence .., _⟩ => journal.portRequested
  | ⟨.recordFindings .., _⟩ => journal.portRequested
  | ⟨.research .., _⟩ => { journal with passes := journal.passes + 1 }
  | ⟨.analyze .., _⟩ => { journal with analyses := journal.analyses + 1 }
  | ⟨.critique .., _⟩ => { journal with critiques := journal.critiques + 1 }
  | ⟨.awaitReviewerDecision .., _⟩ => { journal with reviews := journal.reviews + 1 }
  | ⟨.plan .., _⟩ => journal
  | ⟨.report .., _⟩ => journal
  | ⟨.publish .., _⟩ => journal

/-- A move of the job the port holds, from the status it has stored. -/
def Accepts (journal : Journal) (tenantId : String) (jobId : UUID)
    (target : JobStatus) : Prop :=
  (tenantId, jobId) = journal.key ∧ target ∈ journal.status.allowedTransitions

/-- The port accepts exactly the allowed moves and returns the moved job.
Everything else may return any value or raise. -/
def admits (journal : Journal) : PipelineEvent → Prop
  | ⟨.transition tenantId jobId target _, .ok moved⟩ =>
      journal.Accepts tenantId jobId target ∧ moved.key = journal.key ∧
        moved.status = target
  | ⟨.transition tenantId jobId target _, .error _⟩ =>
      ¬ journal.Accepts tenantId jobId target
  | _ => True

def monitor : Monitor PipelineCall PipelineCall.Answer PyException Journal where
  observe := observe
  admits := admits

theorem portRequested_of_live {journal : Journal}
    (live : ¬ journal.status.IsTerminal) : journal.portRequested = journal :=
  if_neg live

end Journal

/-! ## The rules of the calls -/

section Rules

variable {job : ResearchJob} {journal : Journal}

theorem JobStatus.live_of_mem {status target : JobStatus}
    (allowed : target ∈ status.allowedTransitions) : ¬ status.IsTerminal := by
  intro terminal
  rw [terminal] at allowed
  cases allowed

/-- The port accepts an allowed move and refuses any other. -/
theorem ensures_transition_of_live {target : JobStatus} {detail : Option String}
    {post : Except PyException ResearchJob → Journal → Prop}
    (sameKey : job.key = journal.key) (live : ¬ journal.status.IsTerminal)
    (accepted : target ∈ journal.status.allowedTransitions →
      ∀ moved : ResearchJob, moved.key = journal.key → moved.status = target →
        post (.ok moved) { journal with status := target })
    (refused : target ∉ journal.status.allowedTransitions → ∀ fault,
      post (.error fault) { journal with refused := journal.refused ++ [target] }) :
    Ensures Journal.monitor (transition job target detail) journal post := by
  have unmarked := Journal.portRequested_of_live live
  intro answer admitted
  cases answer with
  | ok moved =>
      obtain ⟨⟨-, allowed⟩, movedKey, movedStatus⟩ := admitted
      change post (.ok moved) { journal.portRequested with status := target }
      rw [unmarked]
      exact accepted allowed moved movedKey movedStatus
  | error fault =>
      change post (.error fault)
        { journal.portRequested with refused := journal.refused ++ [target] }
      rw [unmarked]
      exact refused (fun allowed => admitted ⟨sameKey, allowed⟩) fault

/-- An allowed move is accepted. -/
theorem ensures_transition {target : JobStatus} {detail : Option String}
    {post : Except PyException ResearchJob → Journal → Prop}
    (sameKey : job.key = journal.key)
    (allowed : target ∈ journal.status.allowedTransitions)
    (next : ∀ moved : ResearchJob, moved.key = journal.key → moved.status = target →
      post (.ok moved) { journal with status := target }) :
    Ensures Journal.monitor (transition job target detail) journal post :=
  ensures_transition_of_live sameKey (JobStatus.live_of_mem allowed)
    (fun _ => next) (fun notAllowed => absurd allowed notAllowed)

/-- Findings are stored or the port raises; the journal stays as it is. -/
theorem ensures_recordFindings {analysis : AnalysisResult} {critique : CriticReview}
    {reviewerStatus : ReviewerStatus} {post : Except PyException Unit → Journal → Prop}
    (live : ¬ journal.status.IsTerminal)
    (next : ∀ outcome, post outcome journal) :
    Ensures Journal.monitor (recordFindings job analysis critique reviewerStatus)
      journal post := by
  unfold recordFindings
  rw [deriveFindings_eq_ok]
  intro answer _
  change Ensures Journal.monitor _ journal.portRequested post
  rw [Journal.portRequested_of_live live]
  cases answer with
  | ok records => exact next (.ok ())
  | error fault => exact next (.error fault)

theorem ensures_storeRecords {commands : List EvidenceRecordCreate}
    {post : Except PyException (List EvidenceRecord) → Journal → Prop}
    (live : ¬ journal.status.IsTerminal)
    (next : ∀ outcome, post outcome journal) :
    Ensures Journal.monitor (storeRecords job commands) journal post := by
  induction commands generalizing post with
  | nil => exact next (.ok [])
  | cons command rest inductionHypothesis =>
      intro answer _
      change Ensures Journal.monitor _ journal.portRequested post
      rw [Journal.portRequested_of_live live]
      cases answer with
      | ok record =>
          change Ensures _ ((storeRecords job rest).bind _) _ _
          refine ensures_bind.mpr (inductionHypothesis ?_)
          rintro (fault | records)
          · exact next (.error fault)
          · exact next (.ok (record :: records))
      | error fault => exact next (.error fault)

theorem ensures_storeResults
    {results : List (ResearchTask × Except PyException EvidenceSubmission)}
    {post : Except PyException (List EvidenceRecord × List NonEmptyText) →
      Journal → Prop}
    (live : ¬ journal.status.IsTerminal)
    (next : ∀ outcome, post outcome journal) :
    Ensures Journal.monitor (storeResults job results) journal post := by
  induction results generalizing post with
  | nil => exact next _
  | cons head rest inductionHypothesis =>
      obtain ⟨task, result⟩ := head
      cases result with
      | error failure =>
          refine ensures_bind.mpr (inductionHypothesis ?_)
          rintro (fault | collected)
          · exact next (.error fault)
          · exact next _
      | ok submission =>
          refine ensures_bind.mpr (ensures_storeRecords live ?_)
          rintro (fault | stored)
          · exact next (.error fault)
          · refine ensures_bind.mpr (inductionHypothesis ?_)
            rintro (fault | collected)
            · exact next (.error fault)
            · exact next _

/-- One research pass, at most. -/
theorem ensures_collectEvidence {tasks : List ResearchTask}
    {post : Except PyException (List EvidenceRecord × List NonEmptyText) →
      Journal → Prop}
    (live : ¬ journal.status.IsTerminal)
    (next : ∀ outcome passes, passes ≤ journal.passes + 1 →
      post outcome { journal with passes := passes }) :
    Ensures Journal.monitor (collectEvidence job tasks) journal post := by
  unfold collectEvidence
  split
  · exact next _ journal.passes (Nat.le_succ _)
  · refine ensures_perform_bind.mpr ?_
    rintro (fault | results) -
    · exact next (.error fault) _ le_rfl
    · exact ensures_storeResults live fun outcome => next outcome _ le_rfl

theorem ensures_publishReport {publishes : Bool} {report : ResearchReport}
    {shortfalls : List String}
    {post : Except PyException (Option ReportPublication) → Journal → Prop}
    (next : ∀ outcome, post outcome journal) :
    Ensures Journal.monitor (publishReport publishes job report shortfalls) journal
      post := by
  cases publishes with
  | false => exact next (.ok none)
  | true =>
      refine ensures_perform_bind.mpr ?_
      rintro (fault | publication) -
      · exact next (.error fault)
      · exact next (.ok (some publication))

end Rules

/-! ## The run -/

namespace Journal

/-- Nothing was refused, nothing was asked of the port after the end, and no kind
of work was done more often than the review cycles allow. -/
structure Orderly (journal : Journal) (key : JobKey) : Prop where
  sameKey : journal.key = key
  nothingRefused : journal.refused = []
  nothingLate : journal.lateRequests = 0
  passesBounded : journal.passes ≤ maxReviewCycles + 1
  analysesBounded : journal.analyses ≤ maxReviewCycles + 1
  critiquesBounded : journal.critiques ≤ maxReviewCycles + 1
  reviewsBounded : journal.reviews ≤ maxReviewCycles + 1

theorem Orderly.withStatus {journal : Journal} {key : JobKey}
    (orderly : journal.Orderly key) (status : JobStatus) :
    Orderly { journal with status := status } key :=
  ⟨orderly.sameKey, orderly.nothingRefused, orderly.nothingLate,
    orderly.passesBounded, orderly.analysesBounded, orderly.critiquesBounded,
    orderly.reviewsBounded⟩

/-- An orderly run at the head of the review loop, with cycles left to spend. -/
structure AtReview (journal : Journal) (key : JobKey) (remaining : Nat) : Prop where
  sameKey : journal.key = key
  nothingRefused : journal.refused = []
  nothingLate : journal.lateRequests = 0
  researching : journal.status = .researching
  passesLeft : journal.passes + remaining ≤ maxReviewCycles + 1
  analysesLeft : journal.analyses + remaining ≤ maxReviewCycles
  critiquesLeft : journal.critiques + remaining ≤ maxReviewCycles
  reviewsLeft : journal.reviews + remaining ≤ maxReviewCycles

theorem AtReview.orderly {journal : Journal} {key : JobKey} {remaining : Nat}
    (ready : journal.AtReview key remaining) : journal.Orderly key where
  sameKey := ready.sameKey
  nothingRefused := ready.nothingRefused
  nothingLate := ready.nothingLate
  passesBounded := (Nat.le_add_right ..).trans ready.passesLeft
  analysesBounded :=
    ((Nat.le_add_right ..).trans ready.analysesLeft).trans (Nat.le_succ _)
  critiquesBounded :=
    ((Nat.le_add_right ..).trans ready.critiquesLeft).trans (Nat.le_succ _)
  reviewsBounded :=
    ((Nat.le_add_right ..).trans ready.reviewsLeft).trans (Nat.le_succ _)

/-- What one round adds to the journal, its status apart. -/
structure RoundOf (before after : Journal) : Prop where
  sameKey : after.key = before.key
  sameRefused : after.refused = before.refused
  sameLate : after.lateRequests = before.lateRequests
  samePasses : after.passes = before.passes
  oneAnalysis : after.analyses ≤ before.analyses + 1
  oneCritique : after.critiques ≤ before.critiques + 1
  oneReview : after.reviews ≤ before.reviews + 1

theorem AtReview.orderly_of_round {before after : Journal} {key : JobKey}
    {remaining : Nat} (ready : before.AtReview key remaining)
    (round : RoundOf before after) : after.Orderly key where
  sameKey := round.sameKey.trans ready.sameKey
  nothingRefused := round.sameRefused.trans ready.nothingRefused
  nothingLate := round.sameLate.trans ready.nothingLate
  passesBounded := by
    have left := ready.passesLeft
    rw [round.samePasses]
    omega
  analysesBounded := by
    have left := ready.analysesLeft
    have one := round.oneAnalysis
    omega
  critiquesBounded := by
    have left := ready.critiquesLeft
    have one := round.oneCritique
    omega
  reviewsBounded := by
    have left := ready.reviewsLeft
    have one := round.oneReview
    omega

/-- After a round that asks for more research and one more pass, there is one
cycle less to spend. -/
theorem AtReview.next {before after : Journal} {key : JobKey} {remaining : Nat}
    (ready : before.AtReview key (remaining + 1)) (round : RoundOf before after)
    (researching : after.status = .researching) {passes : Nat}
    (onePass : passes ≤ after.passes + 1) :
    AtReview { after with passes := passes } key remaining where
  sameKey := round.sameKey.trans ready.sameKey
  nothingRefused := round.sameRefused.trans ready.nothingRefused
  nothingLate := round.sameLate.trans ready.nothingLate
  researching := researching
  passesLeft := by
    have left := ready.passesLeft
    rw [round.samePasses] at onePass
    change passes + remaining ≤ _
    omega
  analysesLeft := by
    have left := ready.analysesLeft
    have one := round.oneAnalysis
    change after.analyses + remaining ≤ _
    omega
  critiquesLeft := by
    have left := ready.critiquesLeft
    have one := round.oneCritique
    change after.critiques + remaining ≤ _
    omega
  reviewsLeft := by
    have left := ready.reviewsLeft
    have one := round.oneReview
    change after.reviews + remaining ≤ _
    omega

/-- The job of the outcome is in the terminal status the port has stored. -/
structure Landed (journal : Journal) (key : JobKey) (outcome : ResearchOutcome) :
    Prop where
  orderly : journal.Orderly key
  stored : outcome.job.status = journal.status
  terminal : journal.status.IsTerminal

/-- A run that raised can still be moved. -/
structure Stopped (journal : Journal) (key : JobKey) : Prop where
  orderly : journal.Orderly key
  live : ¬ journal.status.IsTerminal

/-- What one round leaves behind. -/
def AfterRound (before : Journal) : Except PyException Round → Journal → Prop
  | .ok (.settled job _), after =>
      RoundOf before after ∧ job.key = before.key ∧
        JobStatus.reporting ∈ after.status.allowedTransitions
  | .ok (.ended outcome), after =>
      RoundOf before after ∧ outcome.job.status = after.status ∧
        after.status = .failed
  | .ok (.moreResearch job), after =>
      RoundOf before after ∧ job.key = before.key ∧ after.status = .researching
  | .error _, after => RoundOf before after ∧ ¬ after.status.IsTerminal

/-- What the review loop leaves behind. -/
def AfterReview (key : JobKey) : Except PyException Reviewed → Journal → Prop
  | .ok (.ended outcome), journal => journal.Landed key outcome
  | .ok (.settled job _ _ _), journal =>
      journal.Orderly key ∧ job.key = key ∧
        JobStatus.reporting ∈ journal.status.allowedTransitions
  | .error _, journal => journal.Stopped key

/-- What `_run_research_job` leaves behind. -/
def AfterSteps (key : JobKey) : Except PyException ResearchOutcome → Journal → Prop
  | .ok outcome, journal => journal.Landed key outcome
  | .error _, journal => journal.Stopped key

end Journal

open Journal

theorem ensures_reviewRound {job : ResearchJob} {evidence : List EvidenceRecord}
    {journal : Journal} (jobKey : job.key = journal.key)
    (researching : journal.status = .researching) :
    Ensures Journal.monitor (reviewRound job evidence) journal
      (AfterRound journal) := by
  have analyzingLive : ¬ JobStatus.analyzing.IsTerminal := by decide
  have waitingLive : ¬ JobStatus.reviewRequired.IsTerminal := by decide
  have fromAnalyzing : JobStatus.reporting ∈ JobStatus.analyzing.allowedTransitions :=
    by decide
  have toReview :
      JobStatus.reviewRequired ∈ JobStatus.analyzing.allowedTransitions := by decide
  have fromReview {target : JobStatus}
      (allowed : target ∈ [JobStatus.researching, .reporting, .failed]) :
      target ∈ JobStatus.reviewRequired.allowedTransitions := allowed
  unfold reviewRound
  refine ensures_bind.mpr (ensures_transition jobKey ?_ ?_)
  · rw [researching]
    decide
  intro analyzed analyzedKey analyzedStatus
  refine ensures_perform_bind.mpr ?_
  rintro (fault | analysis) -
  · exact ⟨⟨rfl, rfl, rfl, rfl, le_rfl, Nat.le_succ _, Nat.le_succ _⟩,
      analyzingLive⟩
  refine ensures_perform_bind.mpr ?_
  rintro (fault | critique) -
  · exact ⟨⟨rfl, rfl, rfl, rfl, le_rfl, le_rfl, Nat.le_succ _⟩, analyzingLive⟩
  dsimp only
  split
  · -- No reviewer is needed.
    refine ensures_bind.mpr (ensures_recordFindings analyzingLive ?_)
    rintro (fault | recorded)
    · exact ⟨⟨rfl, rfl, rfl, rfl, le_rfl, le_rfl, Nat.le_succ _⟩, analyzingLive⟩
    · exact ⟨⟨rfl, rfl, rfl, rfl, le_rfl, le_rfl, Nat.le_succ _⟩, analyzedKey,
        fromAnalyzing⟩
  refine ensures_bind.mpr (ensures_recordFindings analyzingLive ?_)
  rintro (fault | recorded)
  · exact ⟨⟨rfl, rfl, rfl, rfl, le_rfl, le_rfl, Nat.le_succ _⟩, analyzingLive⟩
  refine ensures_bind.mpr (ensures_transition analyzedKey toReview ?_)
  intro waiting waitingKey waitingStatus
  refine ensures_perform_bind.mpr ?_
  rintro (fault | decision) -
  · exact ⟨⟨rfl, rfl, rfl, rfl, le_rfl, le_rfl, le_rfl⟩, waitingLive⟩
  cases decision with
  | approve =>
      refine ensures_bind.mpr (ensures_recordFindings waitingLive ?_)
      rintro (fault | settled)
      · exact ⟨⟨rfl, rfl, rfl, rfl, le_rfl, le_rfl, le_rfl⟩, waitingLive⟩
      · exact ⟨⟨rfl, rfl, rfl, rfl, le_rfl, le_rfl, le_rfl⟩, waitingKey,
          fromReview (by decide)⟩
  | requestMoreResearch =>
      refine ensures_bind.mpr
        (ensures_transition waitingKey (fromReview (by decide)) ?_)
      intro again againKey againStatus
      exact ⟨⟨rfl, rfl, rfl, rfl, le_rfl, le_rfl, le_rfl⟩, againKey, rfl⟩
  | reject =>
      refine ensures_bind.mpr (ensures_recordFindings waitingLive ?_)
      rintro (fault | rejected)
      · exact ⟨⟨rfl, rfl, rfl, rfl, le_rfl, le_rfl, le_rfl⟩, waitingLive⟩
      refine ensures_bind.mpr
        (ensures_transition waitingKey (fromReview (by decide)) ?_)
      intro failed failedKey failedStatus
      exact ⟨⟨rfl, rfl, rfl, rfl, le_rfl, le_rfl, le_rfl⟩, failedStatus, rfl⟩

theorem ensures_reviewLoop {tasks : List ResearchTask} {remaining : Nat}
    {job : ResearchJob} {evidence : List EvidenceRecord}
    {unmet : List NonEmptyText} {journal : Journal} {key : JobKey}
    (jobKey : job.key = key) (ready : journal.AtReview key remaining) :
    Ensures Journal.monitor (reviewLoop tasks remaining job evidence unmet) journal
      (AfterReview key) := by
  induction remaining using Nat.strong_induction_on
    generalizing job evidence unmet journal with
  | _ remaining inductionHypothesis =>
      unfold reviewLoop
      refine ensures_bind.mpr (Ensures.mono (ensures_reviewRound
        (jobKey.trans ready.sameKey.symm) ready.researching) ?_)
      rintro (fault | settled | ended | again) after
      · rintro ⟨round, live⟩
        exact ⟨ready.orderly_of_round round, live⟩
      · rintro ⟨round, settledKey, allowed⟩
        exact ⟨ready.orderly_of_round round, settledKey.trans ready.sameKey, allowed⟩
      · rintro ⟨round, stored, failed⟩
        exact ⟨ready.orderly_of_round round, stored, by rw [failed]; decide⟩
      · rintro ⟨round, againKey, researching⟩
        have orderly := ready.orderly_of_round round
        cases remaining with
        | zero =>
            have allowed :
                JobStatus.partialResult ∈ after.status.allowedTransitions := by
              rw [researching]
              decide
            refine ensures_bind.mpr
              (ensures_transition (againKey.trans round.sameKey.symm) allowed ?_)
            intro ended endedKey endedStatus
            exact ⟨orderly.withStatus .partialResult, endedStatus, rfl⟩
        | succ remaining =>
            have live : ¬ after.status.IsTerminal := by
              rw [researching]
              decide
            refine ensures_bind.mpr (ensures_collectEvidence live ?_)
            rintro (fault | collected) passes onePass
            · exact ⟨(ready.next round researching onePass).orderly, live⟩
            · exact inductionHypothesis remaining (Nat.lt_succ_self remaining)
                (againKey.trans ready.sameKey) (ready.next round researching onePass)

/-- The report, its publication and the final status. -/
theorem ensures_finishReport {publishes : Bool} {job : ResearchJob}
    {critique : CriticReview} {evidence : List EvidenceRecord}
    {unmet : List NonEmptyText} {journal : Journal} {key : JobKey}
    (orderly : journal.Orderly key) (jobKey : job.key = key)
    (allowed : JobStatus.reporting ∈ journal.status.allowedTransitions) :
    Ensures Journal.monitor (finishReport publishes job critique evidence unmet)
      journal (AfterSteps key) := by
  have reportingLive : ¬ JobStatus.reporting.IsTerminal := by decide
  have stopped : Journal.Stopped { journal with status := .reporting } key :=
    ⟨orderly.withStatus .reporting, reportingLive⟩
  have toFinal {target : JobStatus}
      (final : target ∈ [JobStatus.completed, .partialResult, .failed]) :
      target ∈ JobStatus.reporting.allowedTransitions := final
  unfold finishReport
  refine ensures_bind.mpr
    (ensures_transition (jobKey.trans orderly.sameKey.symm) allowed ?_)
  intro reporting reportingKey reportingStatus
  refine ensures_perform_bind.mpr ?_
  rintro (fault | report) -
  · exact stopped
  refine ensures_bind.mpr ?_
  cases unsupportedCitations report (evidence.map (·.id)) with
  | error malformed => exact stopped
  | ok missing =>
      refine ensures_bind.mpr (ensures_publishReport ?_)
      rintro (fault | publication)
      · exact stopped
      dsimp only
      split
      · refine ensures_bind.mpr
          (ensures_transition reportingKey (toFinal (by decide)) ?_)
        intro ended endedKey endedStatus
        exact ⟨orderly.withStatus .completed, endedStatus, rfl⟩
      · refine ensures_bind.mpr
          (ensures_transition reportingKey (toFinal (by decide)) ?_)
        intro ended endedKey endedStatus
        exact ⟨orderly.withStatus .partialResult, endedStatus, rfl⟩

/-- Every transition requested inside `_run_research_job` is accepted; the run
ends with the job in a terminal status, or raises with the job still movable. -/
theorem ensures_runSteps (publishes : Bool) (stamps : Nat → UUID × Timestamp)
    (job : ResearchJob) :
    Ensures Journal.monitor (runSteps publishes stamps job) { key := job.key }
      (AfterSteps job.key) := by
  have started {status : JobStatus} {passes : Nat} (onePass : passes ≤ 1) :
      Journal.Orderly { key := job.key, status := status, passes := passes }
        job.key :=
    ⟨rfl, rfl, rfl, onePass.trans (by decide), Nat.zero_le _, Nat.zero_le _,
      Nat.zero_le _⟩
  have planningLive : ¬ JobStatus.planning.IsTerminal := by decide
  have researchingLive : ¬ JobStatus.researching.IsTerminal := by decide
  have toPlanning : JobStatus.planning ∈ JobStatus.created.allowedTransitions := by
    decide
  have toResearching :
      JobStatus.researching ∈ JobStatus.planning.allowedTransitions := by decide
  have toPartial :
      JobStatus.partialResult ∈ JobStatus.researching.allowedTransitions := by decide
  unfold runSteps
  refine ensures_bind.mpr (ensures_transition rfl toPlanning ?_)
  intro planning planningKey planningStatus
  refine ensures_perform_bind.mpr ?_
  rintro (fault | plan) -
  · exact ⟨started (Nat.zero_le 1), planningLive⟩
  refine ensures_bind.mpr (ensures_transition planningKey toResearching ?_)
  intro researching researchingKey researchingStatus
  refine ensures_bind.mpr (ensures_collectEvidence researchingLive ?_)
  rintro (fault | ⟨evidence, unmet⟩) passes onePass
  · exact ⟨started onePass, researchingLive⟩
  dsimp only
  split
  · -- No task found anything.
    refine ensures_bind.mpr (ensures_transition researchingKey toPartial ?_)
    intro ended endedKey endedStatus
    exact ⟨started onePass, endedStatus, rfl⟩
  · have ready : Journal.AtReview
        { key := job.key, status := .researching, passes := passes } job.key
        maxReviewCycles :=
      ⟨rfl, rfl, rfl, rfl, Nat.add_le_add_right onePass 2, (Nat.zero_add _).le,
        (Nat.zero_add _).le, (Nat.zero_add _).le⟩
    refine ensures_bind.mpr (Ensures.mono (ensures_reviewLoop researchingKey ready) ?_)
    rintro (fault | ended | settled) after left
    · exact left
    · exact left
    · obtain ⟨orderly, settledKey, allowed⟩ := left
      exact ensures_finishReport orderly settledKey allowed

/-! ## The failure path -/

/-- What a finished run leaves behind.  The one refusal there can be is that of
`partial` for a spent budget, and then the job is failed. -/
structure Journal.Finished (journal : Journal) (outcome : ResearchOutcome) : Prop where
  terminal :
    outcome.job.status = .completed ∨ outcome.job.status = .failed ∨
      outcome.job.status = .partialResult
  stored : outcome.job.status = journal.status
  refusals :
    journal.refused = [] ∨
      journal.refused = [.partialResult] ∧ outcome.job.status = .failed ∧
        ∃ reason, outcome.failure = some reason ∧
          budgetExhausted.toList <+: reason.toList
  nothingLate : journal.lateRequests = 0
  passesBounded : journal.passes ≤ maxReviewCycles + 1
  analysesBounded : journal.analyses ≤ maxReviewCycles + 1
  critiquesBounded : journal.critiques ≤ maxReviewCycles + 1
  reviewsBounded : journal.reviews ≤ maxReviewCycles + 1

theorem Journal.Landed.finished {journal : Journal} {key : JobKey}
    {outcome : ResearchOutcome} (landed : journal.Landed key outcome) :
    journal.Finished outcome where
  terminal := by
    rw [landed.stored]
    exact JobStatus.isTerminal_iff.mp landed.terminal
  stored := landed.stored
  refusals := Or.inl landed.orderly.nothingRefused
  nothingLate := landed.orderly.nothingLate
  passesBounded := landed.orderly.passesBounded
  analysesBounded := landed.orderly.analysesBounded
  critiquesBounded := landed.orderly.critiquesBounded
  reviewsBounded := landed.orderly.reviewsBounded

/-- What `run_research_job` leaves behind. -/
def AfterRun (outcome : Except PyException ResearchOutcome) (journal : Journal) :
    Prop :=
  ∃ ended, outcome = .ok ended ∧ journal.Finished ended

theorem ensures_fail {job : ResearchJob} {error : PyException} {journal : Journal}
    (stopped : journal.Stopped job.key) :
    Ensures Journal.monitor (fail job error) journal AfterRun := by
  have jobKey : job.key = journal.key := stopped.orderly.sameKey.symm
  have canFail := JobStatus.failed_mem_allowedTransitions stopped.live
  -- `failed` is accepted, whether or not `partial` was refused before.
  have asFailed {refused : List JobStatus}
      (refusals : refused = [] ∨ refused = [.partialResult] ∧
        budgetExhausted.toList <+: (describe error).toList) :
      Ensures Journal.monitor
        ((endWith job .failed (describe error)).rescue fun _ => raise error)
        { journal with refused := refused } AfterRun := by
    refine ensures_rescue.mpr (ensures_bind.mpr (ensures_transition jobKey canFail ?_))
    intro failed failedKey failedStatus
    refine ⟨_, rfl, Or.inr (Or.inl failedStatus), failedStatus, ?_,
      stopped.orderly.nothingLate, stopped.orderly.passesBounded,
      stopped.orderly.analysesBounded, stopped.orderly.critiquesBounded,
      stopped.orderly.reviewsBounded⟩
    rcases refusals with none | ⟨one, spent⟩
    · exact Or.inl none
    · exact Or.inr ⟨one, failedStatus, _, rfl, spent⟩
  have failedAtOnce := asFailed (Or.inl stopped.orderly.nothingRefused)
  unfold fail
  dsimp only
  split
  · rename_i spent
    refine ensures_rescue.mpr
      (ensures_bind.mpr (ensures_transition_of_live jobKey stopped.live ?_ ?_))
    · intro allowed ended endedKey endedStatus
      have landed : Journal.Landed { journal with status := .partialResult } job.key
          { job := ended, report := none, evidence := [],
            failure := some (describe error) } :=
        ⟨stopped.orderly.withStatus .partialResult, endedStatus, rfl⟩
      exact ⟨_, rfl, landed.finished⟩
    · intro notAllowed fault
      rw [stopped.orderly.nothingRefused]
      exact asFailed (Or.inr ⟨rfl, spent⟩)
  · exact failedAtOnce

theorem ensures_runResearchJob (publishes : Bool) (stamps : Nat → UUID × Timestamp)
    (job : ResearchJob) :
    Ensures Journal.monitor (runResearchJob publishes stamps job) { key := job.key }
      AfterRun := by
  refine ensures_rescue.mpr (Ensures.mono (ensures_runSteps publishes stamps job) ?_)
  rintro (error | outcome) journal left
  · exact ensures_fail left
  · exact ⟨outcome, rfl, Journal.Landed.finished left⟩

/-- For every job, every port that accepts exactly the allowed moves from
`created`, and every behaviour of the activities and the reviewer:
`_run_research_job` asks only for moves that are accepted, and `run_research_job`
returns with the job in a terminal status, having asked nothing of the port after
it and done each kind of work at most `MAX_REVIEW_CYCLES + 1` times. -/
theorem runResearchJob_lands {World : Type}
    (handler : Handler PipelineCall PipelineCall.Answer PyException World)
    (world : World) (publishes : Bool) (stamps : Nat → UUID × Timestamp)
    (job : ResearchJob)
    (admitted :
      Journal.monitor.Admits { key := job.key }
        (interpret handler (runResearchJob publishes stamps job) world).trace) :
    (Journal.monitor.after { key := job.key }
        (interpret handler (runSteps publishes stamps job) world).trace).refused =
        [] ∧
      ∃ outcome,
        (interpret handler (runResearchJob publishes stamps job) world).outcome =
            .ok outcome ∧
          (Journal.monitor.after { key := job.key }
            (interpret handler (runResearchJob publishes stamps job)
              world).trace).Finished outcome := by
  have admittedSteps :
      Journal.monitor.Admits { key := job.key }
        (interpret handler (runSteps publishes stamps job) world).trace := by
    rw [runResearchJob, interpret_rescue] at admitted
    split at admitted
    · exact admitted
    · exact ((Monitor.admits_append ..).mp admitted).1
  constructor
  · have left := (ensures_runSteps publishes stamps job).sound admittedSteps
    revert left
    cases (interpret handler (runSteps publishes stamps job) world).outcome with
    | error error => exact fun stopped => stopped.orderly.nothingRefused
    | ok outcome => exact fun landed => landed.orderly.nothingRefused
  · exact (ensures_runResearchJob publishes stamps job).sound admitted

/-! ## A run whose planner fails -/

namespace PlannerDown

def job : ResearchJob where
  id := 1
  tenantId := "acme"
  requesterId := "ana"
  question := exampleQuestion
  createdAt := 0
  updatedAt := 0

def outage : PyException where
  className := "ActivityError"
  rendered := "Activity task failed"
  cause := some
    { className := "ApplicationError"
      typeAttribute := some "APIError"
      messageAttribute := some "the model is gone"
      rendered := "APIError: the model is gone" }

/-- The port keeps the job; every other call raises. -/
def handler : Handler PipelineCall PipelineCall.Answer PyException ResearchJob :=
  fun stored call =>
    match call with
    | .transition _ _ target detail =>
        match stored.transitionTo target detail none 1 with
        | .ok moved => (.ok moved, moved)
        | .error _ => (.error outage, stored)
    | _ => (.error outage, stored)

def run : Run PipelineCall PipelineCall.Answer PyException ResearchJob
    ResearchOutcome :=
  interpret handler (runResearchJob true (fun _ => (2, 0)) job) job

theorem admitted : Journal.monitor.Admits { key := job.key } run.trace :=
  ⟨⟨⟨rfl, by decide⟩, rfl, rfl⟩, trivial, ⟨⟨rfl, by decide⟩, rfl, rfl⟩, trivial⟩

example : run.world.statusDetail = some "APIError: the model is gone" := by decide

end PlannerDown

/-- The job of a planner that is down lands. -/
theorem runResearchJob_lands_without_planner :
    (Journal.monitor.after { key := PlannerDown.job.key }
        (interpret PlannerDown.handler
          (runSteps true (fun _ => (2, 0)) PlannerDown.job)
          PlannerDown.job).trace).refused = [] ∧
      ∃ outcome, PlannerDown.run.outcome = .ok outcome ∧
        (Journal.monitor.after { key := PlannerDown.job.key }
          PlannerDown.run.trace).Finished outcome :=
  runResearchJob_lands PlannerDown.handler PlannerDown.job true (fun _ => (2, 0))
    PlannerDown.job PlannerDown.admitted

end ResearchPlatform
