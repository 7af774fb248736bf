import ResearchPlatform.Properties.ResearchRuns

/-!
# Evidence within the requester's clearance

An agent works under the clearance of its job, which is its requester's, so research
returns no record above it.  No update of the job changes the clearance.
-/

namespace ResearchPlatform

open Foundation Program

/-! ## One piece of research -/

namespace ResearchActivities

variable {activities : ResearchActivities} {job : ResearchJob} {task : ResearchTask}
  {submission : EvidenceSubmission}

/-- A verified record is as sensitive as a capability that the job's agents may use. -/
theorem Verified.accessClass_le (verified : activities.Verified job task submission) :
    ∀ record ∈ submission.records, record.accessClass ≤ job.clearance := by
  intro record member
  obtain ⟨principal, tools, claims, ledger, now, made, built, ofTools, verified⟩ := verified
  obtain ⟨claim, -, observed, found, rests⟩ :=
    restsOn_of_verifyClaims verified record member
  obtain ⟨tool, offered, sameCapability⟩ := ofTools _ observed found
  have cleared := (mem_buildAgentTools built offered).2.2.2
  calc
    record.accessClass = observed.accessClass := rests.sameClass
    _ = tool.capability.maxAccessClass := by rw [ObservedContent.accessClass, sameCapability]
    _ ≤ principal.clearance := cleared
    _ = job.clearance := (principalFor_eq_ok made).2

end ResearchActivities

/-! ## The clearance of a job -/

theorem SameAssignment.clearance_eq {row job : ResearchJob}
    (same : SameAssignment row job) : job.clearance = row.clearance := by
  rw [← same]
  rfl

namespace ResearchRecord

variable {python : PythonText} {direct : EvidenceRecordCreate → Prop}
  {state next : ResearchRecord} {job : ResearchJob}

/-- The job has the clearance that its requester held when it was created. -/
def AsRequested (state : ResearchRecord) (job : ResearchJob) : Prop :=
  ∃ identity created, (identity, created) ∈ state.requested ∧ created.key = job.key ∧
    job.clearance = identity.clearance

/-- Every job that is stored, was read or was researched has the clearance of its
requester, and no returned record is above it. -/
structure WithinClearance (state : ResearchRecord) : Prop where
  stored : ∀ {key job}, state.repository.jobs.rows.get? key = some job →
    state.AsRequested job
  seen : ∀ job ∈ state.seen, state.AsRequested job
  returned : ∀ job submission, (job, submission) ∈ state.returned →
    state.AsRequested job ∧ ∀ record ∈ submission.records, record.accessClass ≤ job.clearance

theorem withinClearance_empty : WithinClearance {} where
  stored := by simp
  seen := by simp
  returned := by simp

theorem AsRequested.sameAssignment {moved : ResearchJob} (requested : state.AsRequested job)
    (same : SameAssignment job moved) : state.AsRequested moved := by
  obtain ⟨identity, created, member, sameKey, sameClearance⟩ := requested
  exact ⟨identity, created, member, sameKey.trans same.key_eq.symm,
    same.clearance_eq.trans sameClearance⟩

theorem AsRequested.later (requested : state.AsRequested job)
    (kept : state.requested ⊆ next.requested) : next.AsRequested job := by
  obtain ⟨identity, created, member, rest⟩ := requested
  exact ⟨identity, created, kept member, rest⟩

/-- A job that is stored, with what else comes to be known of it. -/
theorem WithinClearance.store
    (within : state.WithinClearance) (kept : state.requested ⊆ next.requested)
    (sameReturned : next.returned = state.returned)
    (jobs : next.repository.jobs = state.repository.jobs.add job)
    (seen : next.seen = state.seen ++ [job]) (requested : next.AsRequested job) :
    next.WithinClearance where
  stored := by
    intro key other found
    rw [jobs, JobTable.add, Dict.get?_set] at found
    split at found
    · rw [← Option.some.inj found]
      exact requested
    · exact (within.stored found).later kept
  seen := by
    intro other member
    rw [seen] at member
    rcases List.mem_append.mp member with earlier | last
    · exact (within.seen other earlier).later kept
    · rw [List.mem_singleton.mp last]
      exact requested
  returned := by
    intro other submission member
    rw [sameReturned] at member
    obtain ⟨asRequested, cleared⟩ := within.returned other submission member
    exact ⟨asRequested.later kept, cleared⟩

/-- A write that leaves the jobs as they are. -/
theorem WithinClearance.sameJobs {repository : InMemoryJobRepository}
    (within : state.WithinClearance) (same : repository.jobs = state.repository.jobs) :
    WithinClearance { state with repository := repository } where
  stored := by
    intro key job found
    rw [same] at found
    exact within.stored found
  seen := within.seen
  returned := within.returned

/-- Every step keeps the clearances. -/
theorem WithinClearance.step (within : state.WithinClearance)
    (step : Step python direct state next) : next.WithinClearance := by
  cases step with
  | @create identity command id now job repository created =>
      obtain ⟨rfl, rfl⟩ := Prod.mk.inj created
      refine within.store (List.subset_append_left ..) rfl rfl rfl ?_
      exact ⟨identity, _, List.mem_append_right _ (List.mem_singleton_self _), rfl, rfl⟩
  | @read tenantId jobId job found =>
      have requested := within.stored (JobTable.get_eq_ok_iff.mp found)
      refine ⟨within.stored, ?_, within.returned⟩
      intro other member
      rcases List.mem_append.mp member with earlier | last
      · exact within.seen other earlier
      · rw [List.mem_singleton.mp last]
        exact requested
  | update member call revised updates =>
      have same := JobCall.sameAssignment_revise revised
      rw [InMemoryJobRepository.update_eq_ok updates]
      refine within.store (List.Subset.refl _) rfl rfl rfl ?_
      exact (within.seen _ member).sameAssignment same
  | recordInvocation invocation =>
      exact within.sameJobs (InMemoryJobRepository.jobs_recordInvocation ..)
  | recordFindings recorded =>
      apply within.sameJobs
      rw [JobActivities.eq_of_recordFindings recorded]
  | recordPublication recorded =>
      obtain ⟨_, -, rfl⟩ := map_eq_ok.mp recorded
      exact within.sameJobs rfl
  | addEvidence allowed added =>
      obtain ⟨-, rfl⟩ := ResearchJobService.eq_of_addEvidence added
      exact within.sameJobs rfl
  | attach attached =>
      obtain ⟨_, rfl⟩ := Routes.eq_of_addEvidence attached
      exact within.sameJobs rfl
  | research samePython member submits =>
      refine ⟨within.stored, within.seen, ?_⟩
      intro other submission returned
      rcases List.mem_append.mp returned with earlier | last
      · exact within.returned other submission earlier
      · obtain ⟨rfl, rfl⟩ := Prod.mk.inj (List.mem_singleton.mp last)
        exact ⟨within.seen _ member, submits.verified.accessClass_le⟩
  | collect returned submitted added =>
      rcases JobActivities.added_of_addEvidence added with ⟨-, rfl⟩ | added
      · exact within.sameJobs rfl
      · obtain ⟨-, rfl⟩ := ResearchJobService.eq_of_addEvidence added
        exact within.sameJobs rfl

end ResearchRecord

/-- Every record that research returns, for any job and over any registry, is within the
clearance of the job.  In every state of the system of record, every stored job has the
clearance that its requester held when it was created, and so has every job that was
researched. -/
theorem evidence_withinClearance {python : PythonText}
    {direct : EvidenceRecordCreate → Prop} {state : ResearchRecord}
    (reached : ResearchRecord.Reached python direct state) :
    (∀ (activities : ResearchActivities) job task submission,
        activities.MaySubmit job task submission →
          ∀ record ∈ submission.records, record.accessClass ≤ job.clearance) ∧
      (∀ key job, state.repository.jobs.rows.get? key = some job →
        state.AsRequested job) ∧
      ∀ job submission, (job, submission) ∈ state.returned →
        state.AsRequested job ∧
          ∀ record ∈ submission.records, record.accessClass ≤ job.clearance := by
  have within := reached.invariant ResearchRecord.withinClearance_empty fun within step =>
    within.step step
  refine ⟨?_, fun _ _ found => within.stored found, within.returned⟩
  intro activities job task submission submits
  exact submits.verified.accessClass_le

namespace SumResearch

def capability : Capability where
  server := calculatorName
  name := addName
  allowedAgents := {.researcher}
  maxAccessClass := .internal

def invocation : ToolInvocation where
  id := 7
  jobId := 1
  taskId := 2
  tenantId := "acme"
  mcpServer := "calculator"
  capability := "add"
  sanitizedArguments := ∅
  argumentDigest := argumentDigest ∅
  policyVersion := "v1"
  authorizationDecision := .allow
  outcome := .succeeded
  errorClass := .none
  startedAt := 0
  durationMs := none
  valid := by decide +kernel

def excerpt : NonEmptyText := ⟨"the sum is 42", by decide⟩

def claims : EvidenceClaims where
  claims := [{ excerpt := excerpt, toolInvocationId := 7 }]
  claimsInRange := by decide
  unmetBounded := noTexts_bounded

def activities : ResearchActivities where
  registry := (CapabilityRegistry.ofList [capability]).toOption.getD {}
  python := ⟨id, fun _ => ""⟩
  claims := ⟨"EvidenceClaims", "{}", fun _ => .ok .null, fun _ => .ok claims⟩

def identity : RequestIdentity where
  tenantId := "acme"
  requesterId := "ada"
  clearance := .internal

def command : ResearchJobCreate where
  question := sumQuestion

def job : ResearchJob := (Routes.createJob {} identity command 1 0).1

/-- The job has been created. -/
def created : ResearchRecord where
  repository := (Routes.createJob {} identity command 1 0).2
  requested := [(identity, job)]
  seen := [job]

def task : ResearchTask := sumTask

/-- The agent calls its tool, which returns the sum, and answers. -/
def turn : (tools : List CapabilityTool) → AgentTurn tools
  | [] => { raw := "no tools" }
  | tool :: _ =>
      { uses := [⟨tool, List.mem_cons_self, ∅,
          .ok (.returned ⟨invocation, sanitizeResult "[[the sum is 42]]" 100⟩)⟩]
        raw := "the claims" }

def handler : Handler AgentCall AgentCall.Answer AgentFault Unit
  | _, .ensureWithin .. => (.ok (), ())
  | _, .monotonic => (.ok 0, ())
  | _, .kickoff tools _ => (.ok (turn tools), ())
  | _, .utcNow => (.ok fun _ => 0, ())
  | _, .recordAgentCall .. => (.ok {}, ())

theorem submits : ∃ submission, activities.MaySubmit job task submission := by
  have returns :
      (interpret handler (activities.research job task) ()).outcome.toOption.isSome := by
    decide +kernel
  obtain ⟨submission, last, returned, -⟩ := exists_runsTo returns
  exact ⟨submission, Unit, handler, (), returned⟩

/-- The job is created and researched. -/
theorem reached (direct : EvidenceRecordCreate → Prop) :
    ∃ state submission, ResearchRecord.Reached activities.python direct state ∧
      (job, submission) ∈ state.returned := by
  obtain ⟨submission, submits⟩ := submits
  have start : ResearchRecord.Reached activities.python direct created :=
    Relation.ReflTransGen.single (.create rfl)
  have member : job ∈ created.seen := List.mem_singleton_self job
  exact ⟨_, submission, start.tail (.research rfl member submits), List.mem_singleton_self _⟩

end SumResearch

open SumResearch

theorem evidence_withinClearance_at_sum :
    ∃ (state : ResearchRecord) (submission : EvidenceSubmission),
      (job, submission) ∈ state.returned ∧
        ∀ record ∈ submission.records, record.accessClass ≤ AccessClass.internal := by
  obtain ⟨state, submission, reached, returned⟩ := SumResearch.reached fun _ => True
  obtain ⟨-, -, each⟩ := evidence_withinClearance reached
  exact ⟨state, submission, returned, (each job submission returned).2⟩

end ResearchPlatform
