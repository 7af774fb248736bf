import ResearchPlatform.Workflow.Publishing

/-!
# No false success

What a run that ends `completed` has behind it, and that the publication is
labelled partial exactly when the job ends `partial`.
-/

namespace ResearchPlatform

open Foundation Program Pipeline

/-! ## The account of a run -/

/-- One research pass: its tasks and what each of them returned. -/
structure Pass where
  tasks : List ResearchTask
  results : List (Except PyException EvidenceSubmission)
  answered : results.length = tasks.length

/-- What the tasks of a pass left unmet, task by task. -/
def unmetOf (results : List (ResearchTask × Except PyException EvidenceSubmission)) :
    List NonEmptyText :=
  results.flatMap fun (task, result) =>
    match result with
    | .error _ => failedRequirements task
    | .ok submission => submission.unmetRequirements

def Pass.unmet (pass : Pass) : List NonEmptyText :=
  unmetOf (pass.tasks.zip pass.results)

/-- A task that failed always leaves something unmet. -/
theorem failedRequirements_ne_nil (task : ResearchTask) :
    failedRequirements task ≠ [] := by
  unfold failedRequirements
  split
  · simp
  · assumption

/-- A pass left nothing unmet only if every task returned a submission that left
nothing unmet. -/
theorem Pass.submitted_of_unmet_eq_nil {pass : Pass} (complete : pass.unmet = []) :
    ∀ result ∈ pass.results,
      ∃ submission, result = .ok submission ∧ submission.unmetRequirements = [] := by
  intro result member
  have paired : result ∈ (pass.tasks.zip pass.results).map Prod.snd := by
    rwa [List.map_snd_zip pass.answered.le]
  obtain ⟨⟨task, answered⟩, inPass, rfl⟩ := List.mem_map.mp paired
  have nothing := List.flatMap_eq_nil_iff.mp complete _ inPass
  cases answered with
  | error failure => exact absurd nothing (failedRequirements_ne_nil task)
  | ok submission => exact ⟨submission, rfl, nothing⟩

/-- A publication that returned, with what was handed to it. -/
structure Published where
  report : ResearchReport
  shortfalls : List String
  publication : ReportPublication

/-- What has happened so far, as far as success depends on it. -/
structure Account where
  stored : List UUID := []
  lastPass : Option Pass := none
  lastCritique : Option CriticReview := none
  /-- The decision that answered the last critique. -/
  decision : Option ReviewerDecision := none
  lastFindings : Option (List Finding) := none
  published : Option Published := none
  /-- `completed` was asked for while nothing had been published. -/
  completedUnpublished : Bool := false
  /-- The first move asked for after the publication, and whether it was
  accepted. -/
  final : Option (JobStatus × Bool) := none

namespace Account

/-- A move asked for after the publication is the final one. -/
def moveAsked (account : Account) (target : JobStatus) (accepted : Bool) : Account :=
  match account.published with
  | none =>
      { account with
        completedUnpublished :=
          account.completedUnpublished || target = .completed }
  | some _ =>
      { account with final := account.final.or (some (target, accepted)) }

def observe (account : Account) : PipelineEvent → Account
  | ⟨.transition _ _ target _, .ok _⟩ => account.moveAsked target true
  | ⟨.transition _ _ target _, .error _⟩ => account.moveAsked target false
  | ⟨.addEvidence .., .ok record⟩ =>
      { account with stored := account.stored ++ [record.id] }
  | ⟨.recordFindings _ _ findings, .ok _⟩ =>
      { account with lastFindings := some findings }
  | ⟨.research _ tasks, .ok results⟩ =>
      { account with lastPass := some ⟨tasks, results.val, results.property⟩ }
  | ⟨.critique .., .ok review⟩ =>
      { account with lastCritique := some review, decision := none }
  | ⟨.awaitReviewerDecision .., .ok decision⟩ =>
      { account with decision := some decision }
  | ⟨.publish _ report shortfalls, .ok publication⟩ =>
      { account with published := some ⟨report, shortfalls, publication⟩ }
  | _ => account

/-- The port may refuse any move; one it accepts returns the job in the status
asked for.  Everything else may return any value or raise. -/
def admits (_ : Account) : PipelineEvent → Prop
  | ⟨.transition _ _ target _, .ok moved⟩ => moved.status = target
  | _ => True

def monitor : Monitor PipelineCall PipelineCall.Answer PyException Account where
  observe := observe
  admits := admits

/-- Nothing has been published yet, and `completed` has not been asked for. -/
structure Open (account : Account) : Prop where
  unpublished : account.published = none
  notAsked : account.completedUnpublished = false
  noFinal : account.final = none

theorem Open.moveAsked {account : Account} (isOpen : account.Open)
    {target : JobStatus} (notCompleted : target ≠ .completed) (accepted : Bool) :
    account.moveAsked target accepted = account := by
  obtain ⟨unpublished, -, -⟩ := isOpen
  cases account
  subst unpublished
  simp [Account.moveAsked, notCompleted]

end Account

/-! ## The rules of the calls -/

section Rules

variable {job : ResearchJob} {account : Account}

/-- Any move, accepted or not. -/
theorem account_move {target : JobStatus} {detail : Option String}
    {post : Except PyException ResearchJob → Account → Prop}
    (accepted : ∀ moved : ResearchJob, moved.status = target →
      post (.ok moved) (account.moveAsked target true))
    (refused : ∀ fault, post (.error fault) (account.moveAsked target false)) :
    Ensures Account.monitor (transition job target detail) account post := by
  intro answer admitted
  cases answer with
  | ok moved => exact accepted moved admitted
  | error fault => exact refused fault

/-- Before the publication a move other than to `completed` leaves the account
as it is. -/
theorem account_transition {target : JobStatus} {detail : Option String}
    {post : Except PyException ResearchJob → Account → Prop}
    (isOpen : account.Open) (notCompleted : target ≠ .completed)
    (accepted : ∀ moved : ResearchJob, moved.status = target →
      post (.ok moved) account)
    (refused : ∀ fault, post (.error fault) account) :
    Ensures Account.monitor (transition job target detail) account post := by
  apply account_move
  · rw [isOpen.moveAsked notCompleted]
    exact accepted
  · rw [isOpen.moveAsked notCompleted]
    exact refused

theorem account_recordFindings {analysis : AnalysisResult} {critique : CriticReview}
    {reviewerStatus : ReviewerStatus}
    {post : Except PyException Unit → Account → Prop}
    (recorded : post (.ok ()) { account with
      lastFindings :=
        some (analysis.findings.map (derivedFinding critique reviewerStatus)) })
    (refused : ∀ fault, post (.error fault) account) :
    Ensures Account.monitor (recordFindings job analysis critique reviewerStatus)
      account post := by
  unfold recordFindings
  rw [deriveFindings_eq_ok]
  intro answer _
  cases answer with
  | ok records => exact recorded
  | error fault => exact refused fault

/-- Storing records only adds their identifiers to those stored. -/
theorem account_storeRecords {commands : List EvidenceRecordCreate}
    {post : Except PyException (List EvidenceRecord) → Account → Prop}
    (stored : ∀ records identifiers,
      (∀ identifier ∈ account.stored, identifier ∈ identifiers) →
      (∀ record ∈ records, record.id ∈ identifiers) →
      post (.ok records) { account with stored := identifiers })
    (refused : ∀ fault identifiers,
      post (.error fault) { account with stored := identifiers }) :
    Ensures Account.monitor (storeRecords job commands) account post := by
  induction commands generalizing account post with
  | nil => exact stored [] account.stored (fun _ kept => kept) (by simp)
  | cons command rest inductionHypothesis =>
      intro answer _
      cases answer with
      | error fault => exact refused fault account.stored
      | ok record =>
          change Ensures _ ((storeRecords job rest).bind _) _ _
          refine ensures_bind.mpr (inductionHypothesis ?_ ?_)
          · intro records identifiers grown covered
            refine stored (record :: records) identifiers ?_ ?_
            · intro identifier kept
              exact grown identifier (List.mem_append_left _ kept)
            · intro member isRecord
              rcases List.mem_cons.mp isRecord with rfl | later
              · exact grown member.id (List.mem_append_right _ (List.mem_singleton_self _))
              · exact covered member later
          · intro fault identifiers
            exact refused fault identifiers

/-- Storing what a pass found: the records are stored, and what is unmet is read
off the results. -/
theorem account_storeResults
    {results : List (ResearchTask × Except PyException EvidenceSubmission)}
    {post : Except PyException (List EvidenceRecord × List NonEmptyText) →
      Account → Prop}
    (stored : ∀ records identifiers,
      (∀ identifier ∈ account.stored, identifier ∈ identifiers) →
      (∀ record ∈ records, record.id ∈ identifiers) →
      post (.ok (records, unmetOf results)) { account with stored := identifiers })
    (refused : ∀ fault identifiers,
      post (.error fault) { account with stored := identifiers }) :
    Ensures Account.monitor (storeResults job results) account post := by
  induction results generalizing account post with
  | nil => exact stored [] account.stored (fun _ kept => kept) (by simp)
  | cons head rest inductionHypothesis =>
      obtain ⟨task, result⟩ := head
      cases result with
      | error failure =>
          refine ensures_bind.mpr (inductionHypothesis ?_ refused)
          intro records identifiers grown covered
          exact stored records identifiers grown covered
      | ok submission =>
          refine ensures_bind.mpr (account_storeRecords ?_ refused)
          intro first identifiers grown covered
          refine ensures_bind.mpr (inductionHypothesis ?_ ?_)
          · intro later widened grownAgain coveredLater
            refine stored (first ++ later) widened ?_ ?_
            · intro identifier kept
              exact grownAgain identifier (grown identifier kept)
            · intro record member
              rcases List.mem_append.mp member with early | late
              · exact grownAgain record.id (covered record early)
              · exact coveredLater record late
          · intro fault widened
            exact refused fault widened

/-- One research pass over at least one task. -/
theorem account_collectEvidence {tasks : List ResearchTask}
    {post : Except PyException (List EvidenceRecord × List NonEmptyText) →
      Account → Prop}
    (someTask : tasks ≠ [])
    (collected : ∀ (pass : Pass) records identifiers, pass.tasks = tasks →
      (∀ identifier ∈ account.stored, identifier ∈ identifiers) →
      (∀ record ∈ records, record.id ∈ identifiers) →
      post (.ok (records, pass.unmet))
        { account with stored := identifiers, lastPass := some pass })
    (refused : ∀ fault identifiers lastPass,
      post (.error fault)
        { account with stored := identifiers, lastPass := lastPass }) :
    Ensures Account.monitor (collectEvidence job tasks) account post := by
  unfold collectEvidence
  rw [if_neg someTask]
  refine ensures_perform_bind.mpr ?_
  rintro (fault | results) -
  · exact refused fault account.stored account.lastPass
  · refine account_storeResults ?_ ?_
    · intro records identifiers grown covered
      exact collected ⟨tasks, results.val, results.property⟩ records identifiers rfl
        grown covered
    · intro fault identifiers
      exact refused fault identifiers _

end Rules

/-! ## The review -/

namespace Account

/-- Evidence has been gathered: all of it is stored, and what is unmet is what
the last pass left unmet. -/
structure Gathered (account : Account) (evidence : List EvidenceRecord)
    (unmet : List NonEmptyText) : Prop where
  isOpen : account.Open
  stored : ∀ record ∈ evidence, record.id ∈ account.stored
  lastPass : ∃ pass, account.lastPass = some pass ∧ unmet = pass.unmet

theorem Open.reviewed {account : Account} (isOpen : account.Open)
    (lastCritique : Option CriticReview) (decision : Option ReviewerDecision)
    (lastFindings : Option (List Finding)) :
    Open { account with
      lastCritique := lastCritique
      decision := decision
      lastFindings := lastFindings } :=
  ⟨isOpen.unpublished, isOpen.notAsked, isOpen.noFinal⟩

theorem Gathered.reviewed {account : Account} {evidence : List EvidenceRecord}
    {unmet : List NonEmptyText} (gathered : account.Gathered evidence unmet)
    (lastCritique : Option CriticReview) (decision : Option ReviewerDecision)
    (lastFindings : Option (List Finding)) :
    Gathered { account with
      lastCritique := lastCritique
      decision := decision
      lastFindings := lastFindings } evidence unmet :=
  ⟨gathered.isOpen.reviewed .., gathered.stored, gathered.lastPass⟩

/-- The last critique needed no reviewer or was approved, and the last findings
say which. -/
def ReviewSettled (account : Account) : Prop :=
  ∃ critique findings, account.lastCritique = some critique ∧
    account.lastFindings = some findings ∧
    (critique.requiresReviewer = false ∧
        (∀ finding ∈ findings, finding.reviewerStatus = .notRequired) ∨
      account.decision = some .approve ∧
        ∀ finding ∈ findings, finding.reviewerStatus = .approved)

/-- What one round of the review loop leaves behind. -/
def AfterRound (evidence : List EvidenceRecord) (unmet : List NonEmptyText) :
    Except PyException Round → Account → Prop
  | .ok (.settled _ _), account =>
      account.Gathered evidence unmet ∧ account.ReviewSettled
  | .ok (.ended outcome), account =>
      account.Open ∧ outcome.job.status = .failed
  | .ok (.moreResearch _), account => account.Gathered evidence unmet
  | .error _, account => account.Open

/-- What the review loop leaves behind. -/
def AfterReview : Except PyException Reviewed → Account → Prop
  | .ok (.settled _ _ evidence unmet), account =>
      account.Gathered evidence unmet ∧ account.ReviewSettled
  | .ok (.ended outcome), account =>
      account.Open ∧ outcome.job.status ≠ .completed
  | .error _, account => account.Open

end Account

/-- The findings recorded for one review all carry its status. -/
theorem derivedFindings_reviewerStatus (analysis : AnalysisResult)
    (critique : CriticReview) (reviewerStatus : ReviewerStatus) :
    ∀ finding ∈ analysis.findings.map (derivedFinding critique reviewerStatus),
      finding.reviewerStatus = reviewerStatus := by
  intro finding member
  obtain ⟨proposed, -, rfl⟩ := List.mem_map.mp member
  rfl

theorem account_reviewRound {job : ResearchJob} {evidence : List EvidenceRecord}
    {unmet : List NonEmptyText} {account : Account}
    (gathered : account.Gathered evidence unmet) :
    Ensures Account.monitor (reviewRound job evidence) account
      (Account.AfterRound evidence unmet) := by
  have isOpen := gathered.isOpen
  unfold reviewRound
  refine ensures_bind.mpr (account_transition isOpen (by decide) ?_ fun _ => isOpen)
  intro analyzed analyzedStatus
  refine ensures_perform_bind.mpr ?_
  rintro (fault | analysis) -
  · exact isOpen
  refine ensures_perform_bind.mpr ?_
  rintro (fault | critique) -
  · exact isOpen
  dsimp only
  split
  · rename_i notRequired
    refine ensures_bind.mpr (account_recordFindings ?_ ?_)
    · refine ⟨gathered.reviewed _ _ _, critique, _, rfl, rfl, Or.inl ⟨?_, ?_⟩⟩
      · simpa using notRequired
      · exact derivedFindings_reviewerStatus analysis critique .notRequired
    · exact fun _ => isOpen.reviewed _ _ _
  refine ensures_bind.mpr (account_recordFindings ?_ fun _ => isOpen.reviewed _ _ _)
  refine ensures_bind.mpr (account_transition (isOpen.reviewed _ _ _) (by decide) ?_
    fun _ => isOpen.reviewed _ _ _)
  intro waiting waitingStatus
  refine ensures_perform_bind.mpr ?_
  rintro (fault | decision) -
  · exact isOpen.reviewed _ _ _
  cases decision with
  | approve =>
      refine ensures_bind.mpr
        (account_recordFindings ?_ fun _ => isOpen.reviewed _ _ _)
      exact ⟨gathered.reviewed _ _ _, critique, _, rfl, rfl,
        Or.inr ⟨rfl, derivedFindings_reviewerStatus analysis critique .approved⟩⟩
  | requestMoreResearch =>
      refine ensures_bind.mpr (account_transition (isOpen.reviewed _ _ _) (by decide)
        ?_ fun _ => isOpen.reviewed _ _ _)
      intro again againStatus
      exact gathered.reviewed _ _ _
  | reject =>
      refine ensures_bind.mpr
        (account_recordFindings ?_ fun _ => isOpen.reviewed _ _ _)
      refine ensures_bind.mpr (account_transition (isOpen.reviewed _ _ _) (by decide)
        ?_ fun _ => isOpen.reviewed _ _ _)
      intro failed failedStatus
      exact ⟨isOpen.reviewed _ _ _, failedStatus⟩

theorem account_reviewLoop {tasks : List ResearchTask} {remaining : Nat}
    {job : ResearchJob} {evidence : List EvidenceRecord}
    {unmet : List NonEmptyText} {account : Account} (someTask : tasks ≠ [])
    (gathered : account.Gathered evidence unmet) :
    Ensures Account.monitor (reviewLoop tasks remaining job evidence unmet) account
      Account.AfterReview := by
  induction remaining using Nat.strong_induction_on
    generalizing job evidence unmet account with
  | _ remaining inductionHypothesis =>
      unfold reviewLoop
      refine ensures_bind.mpr (Ensures.mono (account_reviewRound gathered) ?_)
      rintro (fault | settled | ended | again) after
      · exact fun isOpen => isOpen
      · exact fun settled => settled
      · rintro ⟨isOpen, failed⟩
        exact ⟨isOpen, by rw [failed]; decide⟩
      · intro gatheredAfter
        have isOpen := gatheredAfter.isOpen
        cases remaining with
        | zero =>
            refine ensures_bind.mpr
              (account_transition isOpen (by decide) ?_ fun _ => isOpen)
            intro ended endedStatus
            exact ⟨isOpen, by rw [endedStatus]; decide⟩
        | succ remaining =>
            refine ensures_bind.mpr (account_collectEvidence someTask ?_ ?_)
            · intro pass records identifiers sameTasks grown covered
              refine inductionHypothesis remaining (Nat.lt_succ_self remaining) ?_
              refine ⟨⟨isOpen.unpublished, isOpen.notAsked, isOpen.noFinal⟩, ?_,
                pass, rfl, rfl⟩
              intro record member
              rcases List.mem_append.mp member with earlier | later
              · exact grown record.id (gatheredAfter.stored record earlier)
              · exact covered record later
            · intro fault identifiers lastPass
              exact ⟨isOpen.unpublished, isOpen.notAsked, isOpen.noFinal⟩

/-! ## The report -/

theorem shortfallsOf_eq_nil_iff {unmet : List NonEmptyText} {report : ResearchReport}
    {missing : List UUID} :
    shortfallsOf unmet report missing = [] ↔
      unmet = [] ∧ report.omittedBecause = [] ∧ missing = [] := by
  unfold shortfallsOf
  have sorted (texts : List String) :
      texts.insertionSort (· ≤ ·) = [] ↔ texts = [] := by
    rw [← List.length_eq_zero_iff, List.length_insertionSort, List.length_eq_zero_iff]
  simp only [List.append_eq_nil_iff, List.map_eq_nil_iff, and_assoc, sorted]

namespace Account

/-- What stands behind a job that ends `completed`. -/
structure Success (account : Account) (publishes : Bool) (outcome : ResearchOutcome) :
    Prop where
  report :
    ∃ report, outcome.report = some report ∧ report.isPartial = false ∧
      report.omittedBecause = [] ∧
      ∃ cited, report.citedEvidenceIds = .ok cited ∧
        ∀ identifier ∈ cited, identifier ∈ account.stored
  lastPass :
    ∃ pass, account.lastPass = some pass ∧
      ∀ result ∈ pass.results,
        ∃ submission, result = .ok submission ∧ submission.unmetRequirements = []
  review : account.ReviewSettled
  published :
    publishes = true →
      outcome.publication.isSome = true ∧ account.completedUnpublished = false

/-- When the publication returned and the final move was accepted, the outcome
carries the publication, and the job is partial exactly when the report is or
shortfalls were handed to `publish`. -/
def Labelled (account : Account) (outcome : ResearchOutcome) : Prop :=
  ∀ published target, account.published = some published →
    account.final = some (target, true) →
      outcome.publication = some published.publication ∧
        outcome.job.status = target ∧
        (target = .partialResult ↔
          published.report.isPartial = true ∨ published.shortfalls ≠ [])

/-- Nothing was published, or the final move was refused. -/
def Undecided (account : Account) : Prop :=
  account.published = none ∨ ∃ target, account.final = some (target, false)

theorem Undecided.moveAsked {account : Account} (undecided : account.Undecided)
    (target : JobStatus) (accepted : Bool) :
    (account.moveAsked target accepted).Undecided := by
  unfold Account.moveAsked
  rcases undecided with unpublished | ⟨refused, final⟩
  · rw [unpublished]
    exact Or.inl rfl
  · split
    · exact Or.inr ⟨refused, final⟩
    · exact Or.inr ⟨refused, by rw [final]; rfl⟩

theorem Undecided.labelled {account : Account} (undecided : account.Undecided)
    (outcome : ResearchOutcome) : account.Labelled outcome := by
  intro published target isPublished isFinal
  rcases undecided with unpublished | ⟨refused, final⟩
  · rw [unpublished] at isPublished
    cases isPublished
  · rw [final] at isFinal
    cases isFinal

/-- What a run that returned leaves behind. -/
structure Honest (account : Account) (publishes : Bool) (outcome : ResearchOutcome) :
    Prop where
  success : outcome.job.status = .completed → account.Success publishes outcome
  labelled : account.Labelled outcome

theorem Undecided.honest {account : Account} {publishes : Bool}
    {outcome : ResearchOutcome} (undecided : account.Undecided)
    (notCompleted : outcome.job.status ≠ .completed) :
    account.Honest publishes outcome :=
  ⟨fun completed => absurd completed notCompleted, undecided.labelled outcome⟩

/-- What `_run_research_job` leaves behind. -/
def AfterSteps (publishes : Bool) :
    Except PyException ResearchOutcome → Account → Prop
  | .ok outcome, account => account.Honest publishes outcome
  | .error _, account => account.Undecided

end Account

/-- Without shortfalls everything a success needs has been found. -/
theorem Account.Gathered.success {account : Account} {publishes : Bool}
    {evidence : List EvidenceRecord} {unmet : List NonEmptyText}
    {report : ResearchReport} {missing : List UUID} {outcome : ResearchOutcome}
    (gathered : account.Gathered evidence unmet) (settled : account.ReviewSettled)
    (citations : unsupportedCitations report (evidence.map (·.id)) = .ok missing)
    (complete : shortfallsOf unmet report missing = [])
    (reported : outcome.report = some report) (published : Option Published)
    (asked : Bool) (final : Option (JobStatus × Bool))
    (publishedFirst :
      publishes = true → outcome.publication.isSome = true ∧ asked = false) :
    Account.Success { account with
      published := published
      completedUnpublished := asked
      final := final } publishes outcome := by
  obtain ⟨nothingUnmet, nothingOmitted, nothingMissing⟩ :=
    shortfallsOf_eq_nil_iff.mp complete
  obtain ⟨cited, isCited, unsupported⟩ := map_eq_ok.mp citations
  refine ⟨⟨report, reported, ?_, nothingOmitted, cited, isCited, ?_⟩, ?_, settled,
    publishedFirst⟩
  · by_contra labelled
    exact report.partialSaysWhy (by simpa using labelled) nothingOmitted
  · intro identifier isCitedId
    rw [nothingMissing, List.dedup_eq_nil, List.filter_eq_nil_iff] at unsupported
    have available : identifier ∈ evidence.map (·.id) := by
      simpa using unsupported identifier isCitedId
    obtain ⟨record, member, rfl⟩ := List.mem_map.mp available
    exact gathered.stored record member
  · obtain ⟨pass, isLast, sameUnmet⟩ := gathered.lastPass
    exact ⟨pass, isLast, pass.submitted_of_unmet_eq_nil (sameUnmet ▸ nothingUnmet)⟩

/-- Shortfalls are found exactly when the report is partial or something else is
missing; in both cases the job is to end `partial`. -/
theorem partial_or_shortfalls_iff {unmet : List NonEmptyText}
    {report : ResearchReport} {missing : List UUID} :
    (report.isPartial = true ∨ shortfallsOf unmet report missing ≠ []) ↔
      shortfallsOf unmet report missing ≠ [] := by
  constructor
  · rintro (labelled | found)
    · intro complete
      exact report.partialSaysWhy labelled (shortfallsOf_eq_nil_iff.mp complete).2.1
    · exact found
  · exact Or.inr

theorem account_finishReport {publishes : Bool} {job : ResearchJob}
    {critique : CriticReview} {evidence : List EvidenceRecord}
    {unmet : List NonEmptyText} {account : Account}
    (gathered : account.Gathered evidence unmet) (settled : account.ReviewSettled) :
    Ensures Account.monitor (finishReport publishes job critique evidence unmet)
      account (Account.AfterSteps publishes) := by
  have isOpen := gathered.isOpen
  have undecided : account.Undecided := Or.inl isOpen.unpublished
  unfold finishReport
  refine ensures_bind.mpr
    (account_transition isOpen (by decide) ?_ fun _ => undecided)
  intro reporting reportingStatus
  refine ensures_perform_bind.mpr ?_
  rintro (fault | report) -
  · exact undecided
  refine ensures_bind.mpr ?_
  cases citations : unsupportedCitations report (evidence.map (·.id)) with
  | error malformed => exact undecided
  | ok missing =>
      refine ensures_bind.mpr ?_
      cases publishes with
      | false =>
          change Ensures Account.monitor _ account _
          dsimp only
          split
          · rename_i complete
            refine ensures_bind.mpr (account_move ?_ fun _ => undecided.moveAsked _ _)
            intro ended endedStatus
            refine ⟨fun _ => ?_, (undecided.moveAsked _ _).labelled _⟩
            unfold Account.moveAsked
            rw [isOpen.unpublished]
            exact gathered.success settled citations complete rfl _ _ _ (by simp)
          · refine ensures_bind.mpr (account_transition isOpen (by decide) ?_
              fun _ => undecided)
            intro ended endedStatus
            exact undecided.honest (by rw [endedStatus]; decide)
      | true =>
          refine ensures_perform_bind.mpr ?_
          rintro (fault | publication) -
          · exact undecided
          let published : Published :=
            ⟨report, shortfallsOf unmet report missing, publication⟩
          change Ensures Account.monitor _
            { account with published := some published } _
          have moved (target : JobStatus) (accepted : Bool) :
              Account.moveAsked { account with published := some published } target
                  accepted =
                { account with
                  published := some published
                  final := some (target, accepted) } := by
            simp [Account.moveAsked, isOpen.noFinal]
          have refused (target : JobStatus) :
              (Account.moveAsked { account with published := some published } target
                false).Undecided :=
            Or.inr ⟨target, by rw [moved]⟩
          dsimp only
          split
          · rename_i complete
            refine ensures_bind.mpr (account_move ?_ fun _ => refused _)
            intro ended endedStatus
            rw [moved]
            constructor
            · intro _
              exact gathered.success settled citations complete rfl _ _ _
                fun _ => ⟨rfl, isOpen.notAsked⟩
            · rintro _ _ ⟨⟩ ⟨⟩
              refine ⟨rfl, endedStatus, Iff.trans ?_ partial_or_shortfalls_iff.symm⟩
              exact iff_of_false (by decide) fun found => found complete
          · rename_i incomplete
            refine ensures_bind.mpr (account_move ?_ fun _ => refused _)
            intro ended endedStatus
            rw [moved]
            constructor
            · intro completed
              rw [endedStatus] at completed
              cases completed
            · rintro _ _ ⟨⟩ ⟨⟩
              refine ⟨rfl, endedStatus, Iff.trans ?_ partial_or_shortfalls_iff.symm⟩
              exact iff_of_true rfl incomplete

theorem account_runSteps (publishes : Bool) (stamps : Nat → UUID × Timestamp)
    (job : ResearchJob) :
    Ensures Account.monitor (runSteps publishes stamps job) {}
      (Account.AfterSteps publishes) := by
  have isOpen : Account.Open {} := ⟨rfl, rfl, rfl⟩
  have undecided : Account.Undecided {} := Or.inl rfl
  unfold runSteps
  refine ensures_bind.mpr
    (account_transition isOpen (by decide) ?_ fun _ => undecided)
  intro planning planningStatus
  refine ensures_perform_bind.mpr ?_
  rintro (fault | plan) -
  · exact undecided
  refine ensures_bind.mpr
    (account_transition isOpen (by decide) ?_ fun _ => undecided)
  intro researching researchingStatus
  refine ensures_bind.mpr ?_
  by_cases someTask : researcherTasks plan researching stamps = []
  · -- Without a researcher task nothing can be found.
    simp only [collectEvidence, if_pos someTask]
    refine ensures_bind.mpr
      (account_transition isOpen (by decide) ?_ fun _ => undecided)
    intro ended endedStatus
    exact undecided.honest (by rw [endedStatus]; decide)
  refine account_collectEvidence someTask ?_ fun _ _ _ => Or.inl rfl
  intro pass evidence identifiers sameTasks _ covered
  have gathered : Account.Gathered
      { stored := identifiers, lastPass := some pass } evidence pass.unmet :=
    ⟨⟨rfl, rfl, rfl⟩, covered, pass, rfl, rfl⟩
  dsimp only
  split
  · refine ensures_bind.mpr (account_transition gathered.isOpen (by decide) ?_
      fun _ => Or.inl rfl)
    intro ended endedStatus
    exact Account.Undecided.honest (Or.inl rfl) (by rw [endedStatus]; decide)
  · refine ensures_bind.mpr
      (Ensures.mono (account_reviewLoop someTask gathered) ?_)
    rintro (fault | ended | settled) after left
    · exact Or.inl left.unpublished
    · obtain ⟨stillOpen, notCompleted⟩ := left
      exact Account.Undecided.honest (Or.inl stillOpen.unpublished) notCompleted
    · exact account_finishReport left.1 left.2

/-! ## The whole run -/

theorem account_fail {publishes : Bool} {job : ResearchJob} {error : PyException}
    {account : Account} (undecided : account.Undecided) :
    Ensures Account.monitor (fail job error) account
      (Account.AfterSteps publishes) := by
  have asFailed {current : Account} (still : current.Undecided) :
      Ensures Account.monitor
        ((endWith job .failed (describe error)).rescue fun _ => raise error) current
        (Account.AfterSteps publishes) := by
    refine ensures_rescue.mpr
      (ensures_bind.mpr (account_move ?_ fun _ => still.moveAsked _ _))
    intro failed failedStatus
    exact (still.moveAsked _ _).honest (by rw [failedStatus]; decide)
  unfold fail
  dsimp only
  split
  · refine ensures_rescue.mpr (ensures_bind.mpr (account_move ?_ ?_))
    · intro ended endedStatus
      exact (undecided.moveAsked _ _).honest (by rw [endedStatus]; decide)
    · intro fault
      exact asFailed (undecided.moveAsked _ _)
  · exact asFailed undecided

theorem account_runResearchJob (publishes : Bool) (stamps : Nat → UUID × Timestamp)
    (job : ResearchJob) :
    Ensures Account.monitor (runResearchJob publishes stamps job) {}
      (Account.AfterSteps publishes) := by
  refine ensures_rescue.mpr (Ensures.mono (account_runSteps publishes stamps job) ?_)
  rintro (error | outcome) account left
  · exact account_fail left
  · exact left

/-! ## The label of the publication -/

/-- A publication that `publish` returns is labelled partial exactly when the
report is, or shortfalls were given. -/
theorem publish_isPartial {World : Type} {reportJson : ResearchReport → String}
    {hasChecker : Bool} {job : ResearchJob} {report : ResearchReport}
    {shortfalls : List String} {publication : ReportPublication}
    {handler : Handler PublishingCall PublishingCall.Answer PyException World}
    {world : World}
    (returned :
      (interpret handler
        (Publishing.publish reportJson hasChecker job report shortfalls)
        world).outcome = .ok publication) :
    publication.isPartial = true ↔ report.isPartial = true ∨ shortfalls ≠ [] := by
  have holds :
      Returns (Publishing.publish reportJson hasChecker job report shortfalls)
        fun publication =>
          publication.isPartial = true ↔ report.isPartial = true ∨ shortfalls ≠ [] := by
    unfold Publishing.publish
    refine returns_bind_of_forall fun evidence => ?_
    refine returns_bind_of_forall fun findings => ?_
    refine returns_bind_of_forall fun invocations => ?_
    refine returns_bind_of_forall fun checks => ?_
    refine returns_bind_of_forall fun generatedAt => ?_
    refine returns_bind.mpr ?_
    cases built : buildManifest reportJson job report shortfalls findings evidence
        invocations checks generatedAt with
    | error malformed => trivial
    | ok manifest =>
        -- The publication takes its label from the manifest.
        have labelled := buildManifest_isPartial built
        refine returns_bind_of_forall fun _ => ?_
        refine returns_bind_of_forall fun _ => ?_
        refine returns_bind_of_forall fun _ => ?_
        refine returns_bind_of_forall fun _ => ?_
        refine returns_bind_of_forall fun citedIds => ?_
        refine returns_bind_of_forall fun publishedAt => ?_
        exact returns_bind_of_forall fun _ => labelled
  exact holds.sound returned

/-- Only a `publish` call that returned changes what is published. -/
theorem published_observe {account : Account} {event : PipelineEvent}
    {published : Published}
    (isPublished : (account.observe event).published = some published) :
    account.published = some published ∨
      ∃ job, event =
        ⟨.publish job published.report published.shortfalls,
          .ok published.publication⟩ := by
  have moved (target : JobStatus) (accepted : Bool) :
      (account.moveAsked target accepted).published = account.published := by
    unfold Account.moveAsked
    split <;> simp_all
  obtain ⟨call, answer⟩ := event
  cases call with
  | transition tenantId jobId target detail =>
      cases answer <;> exact Or.inl ((moved target _).symm.trans isPublished)
  | publish job report shortfalls =>
      cases answer with
      | error fault => exact Or.inl isPublished
      | ok publication =>
          cases isPublished
          exact Or.inr ⟨job, rfl⟩
  | addEvidence | recordFindings | plan | research | analyze | critique | report
  | awaitReviewerDecision =>
      cases answer <;> exact Or.inl isPublished

/-- What was published is what a `publish` call on the trace returned. -/
theorem publish_mem_of_published {trace : List PipelineEvent} {account : Account}
    {published : Published}
    (isPublished : (Account.monitor.after account trace).published = some published) :
    account.published = some published ∨
      ∃ job, (⟨.publish job published.report published.shortfalls,
        .ok published.publication⟩ : PipelineEvent) ∈ trace := by
  induction trace generalizing account with
  | nil => exact Or.inl isPublished
  | cons event rest inductionHypothesis =>
      rcases inductionHypothesis isPublished with already | ⟨job, later⟩
      · rcases published_observe already with before | ⟨job, here⟩
        · exact Or.inl before
        · exact Or.inr ⟨job, here ▸ List.mem_cons_self⟩
      · exact Or.inr ⟨job, List.mem_cons_of_mem _ later⟩

/-- Every publication on the trace was returned by `PublicationActivities`. -/
def PublishedByActivities (trace : List PipelineEvent) : Prop :=
  ∀ job report shortfalls publication,
    (⟨.publish job report shortfalls, .ok publication⟩ : PipelineEvent) ∈ trace →
      ∃ (World : Type)
        (handler : Handler PublishingCall PublishingCall.Answer PyException World)
        (world : World) (reportJson : ResearchReport → String) (hasChecker : Bool),
        (interpret handler
          (Publishing.publish reportJson hasChecker job report shortfalls)
          world).outcome = .ok publication

/-- For every run, whatever the activities, the reviewer and the port answer: a
job that ends `completed` has everything behind it that a success needs; and when
`publish` returned and the final move was accepted, the run returns the
publication, labelled partial exactly when the job ends `partial`. -/
theorem runResearchJob_no_false_success {World : Type}
    (handler : Handler PipelineCall PipelineCall.Answer PyException World)
    (world : World) (publishes : Bool) (stamps : Nat → UUID × Timestamp)
    (job : ResearchJob) (trace : List PipelineEvent)
    (outcome : Except PyException ResearchOutcome)
    (isTrace :
      (interpret handler (runResearchJob publishes stamps job) world).trace = trace)
    (isOutcome :
      (interpret handler (runResearchJob publishes stamps job) world).outcome =
        outcome)
    (admitted : Account.monitor.Admits {} trace) :
    (∀ ended, outcome = .ok ended → ended.job.status = .completed →
        (Account.monitor.after {} trace).Success publishes ended) ∧
      (PublishedByActivities trace →
        ∀ published target,
          (Account.monitor.after {} trace).published = some published →
          (Account.monitor.after {} trace).final = some (target, true) →
          ∃ ended publication, outcome = .ok ended ∧
            ended.publication = some publication ∧
            (publication.isPartial = true ↔ ended.job.status = .partialResult)) := by
  subst isTrace isOutcome
  have left := (account_runResearchJob publishes stamps job).sound admitted
  constructor
  · intro ended isEnded completed
    rw [isEnded] at left
    exact left.success completed
  · intro byActivities published target isPublished isFinal
    revert left
    cases (interpret handler (runResearchJob publishes stamps job) world).outcome with
    | error fault =>
        rintro (unpublished | ⟨refused, notAccepted⟩)
        · rw [unpublished] at isPublished
          cases isPublished
        · rw [notAccepted] at isFinal
          cases isFinal
    | ok ended =>
        intro honest
        obtain ⟨carried, ends, labelled⟩ :=
          honest.labelled published target isPublished isFinal
        refine ⟨ended, published.publication, rfl, carried, ?_⟩
        obtain impossible | ⟨publishedJob, member⟩ :=
          publish_mem_of_published isPublished
        · cases impossible
        obtain ⟨_, _, _, _, _, returned⟩ := byActivities _ _ _ _ member
        rw [publish_isPartial returned, ends, labelled]

/-! ## A run that completes -/

namespace TeamPlan

def claim : NonEmptyText := exampleClaim

def job : ResearchJob where
  id := 1
  tenantId := "acme"
  requesterId := "ana"
  question := exampleQuestion
  createdAt := 0
  updatedAt := 0

def plan : ResearchPlan where
  tasks := [{
    objective := ⟨"find the price", by decide⟩
    assignedAgent := .researcher
    evidenceRequirements := [⟨"the price page", by decide⟩]
    requirementsInRange := by decide
    restrictionsBounded := noTexts_bounded
    dependenciesBounded := noDependencies_bounded
    notThePlanner := researcher_notThePlanner }]
  rationale := ⟨"one page says it", by decide⟩
  tasksInRange := by decide

def command : EvidenceRecordCreate where
  excerpt := claim
  sourceUri := exampleUri
  trustLevel := .primary
  contentHash := sha256Text "the team plan costs 20 USD"
  producingTaskId := 2
  toolInvocationId := 3

def submission : EvidenceSubmission where
  records := [command]
  recordsInRange := by decide
  unmetBounded := noTexts_bounded
  hashesDistinct := List.nodup_singleton _

/-- Every researcher submits the same. -/
def submissions (tasks : List ResearchTask) :
    { results : List (Except PyException EvidenceSubmission) //
      results.length = tasks.length } :=
  ⟨tasks.map fun _ => .ok submission, List.length_map _⟩

def record : EvidenceRecord where
  toEvidenceRecordCreate := command
  id := 5
  jobId := 1
  tenantId := "acme"
  retrievedAt := 4

def analysis : AnalysisResult := exampleAnalysis 5

def review : CriticReview where
  verdicts := [exampleSupport ⟨"the page says so", by decide⟩ none]
  verdictsInRange := by decide
  gapsBounded := noTexts_bounded

def report : ResearchReport :=
  exampleReport ⟨"It costs 20 USD [00000000-0000-0000-0000-000000000005].", by decide⟩

/-- The service and the store behind `publish`. -/
def publishingHandler : Handler PublishingCall PublishingCall.Answer PyException Unit :=
  fun _ call =>
    match call with
    | .listEvidence .. => (.ok [record], ())
    | .listFindings .. => (.ok [], ())
    | .listInvocations .. => (.ok [], ())
    | .checkSource _ record _ =>
        (.ok { evidenceId := record.id, status := .notChecked, checkedAt := 9 }, ())
    | .utcNow => (.ok 9, ())
    | .put .. => (.ok (), ())
    | .recordPublication .. => (.ok (), ())

def publish (job : ResearchJob) (report : ResearchReport) (shortfalls : List String) :
    Except PyException ReportPublication :=
  (interpret publishingHandler
    (Publishing.publish (fun _ => "\x7b\x7d") true job report shortfalls) ()).outcome

/-- The port keeps the job, and every activity succeeds. -/
def handler : Handler PipelineCall PipelineCall.Answer PyException ResearchJob :=
  fun stored call =>
    match call with
    | .transition _ _ target detail =>
        match stored.transitionTo target detail none 1 with
        | .ok moved => (.ok moved, moved)
        | .error _ =>
            (.error { className := "InvalidStateTransition", rendered := "" }, stored)
    | .addEvidence .. => (.ok record, stored)
    | .recordFindings .. => (.ok [], stored)
    | .plan .. => (.ok plan, stored)
    | .research _ tasks =>
        (.ok (submissions tasks), stored)
    | .analyze .. => (.ok analysis, stored)
    | .critique .. => (.ok review, stored)
    | .report .. => (.ok report, stored)
    | .awaitReviewerDecision .. => (.ok .approve, stored)
    | .publish job report shortfalls => (publish job report shortfalls, stored)

def run : Run PipelineCall PipelineCall.Answer PyException ResearchJob
    ResearchOutcome :=
  interpret handler (runResearchJob true (fun _ => (2, 0)) job) job

theorem admitted : Account.monitor.Admits {} run.trace := by
  refine Monitor.admits_interpret (fun _ _ => True) ?_ (fun _ _ _ _ => trivial) _
    trivial
  intro account stored call _
  cases call with
  | transition tenantId jobId target detail =>
      cases moved : stored.transitionTo target detail none 1 with
      | error refusal => simp [handler, moved, Account.monitor, Account.admits]
      | ok movedJob =>
          obtain ⟨-, rfl⟩ := ResearchJob.transitionTo_eq_ok_iff.mp moved
          simp [handler, moved, Account.monitor, Account.admits]
  | addEvidence | recordFindings | plan | research | analyze | critique | report
  | awaitReviewerDecision | publish => trivial

theorem publishedByActivities : PublishedByActivities run.trace := by
  intro job report shortfalls publication member
  obtain ⟨stored, answered⟩ := answer_of_mem_trace handler member
  exact ⟨Unit, publishingHandler, (), _, true, answered.symm⟩

theorem final_eq :
    (Account.monitor.after {} run.trace).final = some (.completed, true) := by
  decide +kernel

theorem published_isSome :
    (Account.monitor.after {} run.trace).published.isSome = true := by
  decide +kernel

theorem status_eq :
    run.outcome.toOption.map (·.job.status) = some .completed := by
  decide +kernel

end TeamPlan

/-- The run above completes, has everything behind it, and its publication is not
partial. -/
theorem runResearchJob_no_false_success_for_teamPlan :
    ∃ ended publication, TeamPlan.run.outcome = .ok ended ∧
      ended.job.status = .completed ∧
      (Account.monitor.after {} TeamPlan.run.trace).Success true ended ∧
      ended.publication = some publication ∧
      (publication.isPartial = true ↔ ended.job.status = .partialResult) := by
  obtain ⟨success, labelled⟩ :=
    runResearchJob_no_false_success TeamPlan.handler TeamPlan.job true
      (fun _ => (2, 0)) TeamPlan.job TeamPlan.run.trace TeamPlan.run.outcome rfl rfl
      TeamPlan.admitted
  obtain ⟨published, isPublished⟩ := Option.isSome_iff_exists.mp
    TeamPlan.published_isSome
  obtain ⟨ended, publication, isEnded, carried, label⟩ :=
    labelled TeamPlan.publishedByActivities published .completed isPublished
      TeamPlan.final_eq
  have completed : ended.job.status = .completed := by
    have status := TeamPlan.status_eq
    rw [isEnded] at status
    exact Option.some.inj status
  exact ⟨ended, publication, isEnded, completed, success ended isEnded completed,
    carried, label⟩

end ResearchPlatform
