import ResearchPlatform.Api.Workflows

/-!
# Who reviews

The routes and the workers run side by side, with the workflow service.  In every state
that is reached, what an execution was signalled was decided by a reviewer of the job's own
tenant who may review it, and an execution acts for the requester of its job.
-/

namespace ResearchPlatform

open Foundation Program

/-! ## The jobs on record -/

namespace JobTable

/-- Every job stays on record, with its requester. -/
def Keeps (before after : JobTable) : Prop :=
  ∀ key job, before.rows.get? key = some job →
    ∃ later, after.rows.get? key = some later ∧ later.requesterId = job.requesterId

/-- A job that names a workflow names its own, and an identifier is of one tenant. -/
structure Owned (table : JobTable) : Prop where
  marked : ∀ key job, table.rows.get? key = some job →
    ∀ workflowId ∈ job.workflowId, workflowId = workflowIdFor job.id
  distinct : ∀ tenant other jobId job also, table.rows.get? (tenant, jobId) = some job →
    table.rows.get? (other, jobId) = some also → tenant = other

variable {table before after : JobTable} {job old : ResearchJob} {key : JobKey}

theorem Keeps.refl : table.Keeps table :=
  fun _ job found => ⟨job, found, rfl⟩

theorem Keeps.of_found (keeps : before.Keeps after)
    (found : before.rows.get? key = some job) :
    ∃ later, after.rows.get? key = some later ∧ later.requesterId = job.requesterId :=
  keeps key job found

theorem rows_add : (table.add job).rows.get? key =
    if key = job.key then some job else table.rows.get? key :=
  Dict.get?_set table.rows job.key key job

theorem keeps_add (same : ∀ old, table.rows.get? job.key = some old →
    job.requesterId = old.requesterId) : table.Keeps (table.add job) := by
  intro key stored found
  rw [rows_add]
  by_cases isKey : key = job.key
  · subst isKey
    exact ⟨job, if_pos rfl, same stored found⟩
  · exact ⟨stored, by rw [if_neg isKey, found], rfl⟩

theorem Owned.add (owned : table.Owned)
    (marked : ∀ workflowId ∈ job.workflowId, workflowId = workflowIdFor job.id)
    (alone : ∀ tenant stored, table.rows.get? (tenant, job.id) = some stored →
      tenant = job.tenantId) : (table.add job).Owned where
  marked := by
    intro key stored found
    rw [rows_add] at found
    split at found
    · obtain rfl := Option.some.inj found
      exact marked
    · exact owned.marked key stored found
  distinct := by
    intro tenant other jobId first second hasFirst hasSecond
    have ofTenant : ∀ tenant stored, (table.add job).rows.get? (tenant, job.id) = some stored →
        tenant = job.tenantId := by
      intro tenant stored found
      rw [rows_add] at found
      split at found
      · rename_i isKey
        exact congrArg Prod.fst isKey
      · exact alone tenant stored found
    by_cases isId : jobId = job.id
    · subst isId
      rw [ofTenant tenant first hasFirst, ofTenant other second hasSecond]
    · have elsewhere : ∀ tenant, (tenant, jobId) ≠ job.key :=
        fun tenant same => isId (congrArg Prod.snd same)
      rw [rows_add, if_neg (elsewhere _)] at hasFirst hasSecond
      exact owned.distinct tenant other jobId first second hasFirst hasSecond

/-- A new job has an identifier of its own, and no workflow yet. -/
theorem Owned.create (owned : table.Owned)
    (fresh : ∀ tenant, table.rows.get? (tenant, job.id) = none)
    (unmarked : job.workflowId = none) :
    (table.add job).Owned ∧ table.Keeps (table.add job) := by
  constructor
  · apply owned.add
    · intro workflowId marked
      rw [unmarked] at marked
      cases marked
    · intro tenant stored there
      rw [fresh tenant] at there
      cases there
  · apply keeps_add
    intro stored there
    rw [show job.key = (job.tenantId, job.id) from rfl, fresh job.tenantId] at there
    cases there

/-- A job in the place of a stored one, with its requester. -/
theorem Owned.replace (owned : table.Owned) (found : table.rows.get? job.key = some old)
    (sameRequester : job.requesterId = old.requesterId)
    (marked : ∀ workflowId ∈ job.workflowId, workflowId = workflowIdFor job.id) :
    (table.add job).Owned ∧ table.Keeps (table.add job) := by
  constructor
  · refine owned.add marked ?_
    intro tenant stored there
    exact owned.distinct tenant job.tenantId job.id stored old there found
  · apply keeps_add
    intro stored there
    obtain rfl := Option.some.inj (found.symm.trans there)
    exact sameRequester

/-- What an update of either repository writes, where the requester is the stored one. -/
theorem Owned.update {backend : Backend} (owned : before.Owned)
    (found : before.rows.get? job.key = some old)
    (sameRequester : old.requesterId = job.requesterId)
    (marked : ∀ workflowId ∈ job.workflowId, workflowId = workflowIdFor job.id)
    (updates : backend.update before job = .ok after) : after.Owned ∧ before.Keeps after := by
  have sameKey : old.key = job.key := before.keyed found
  cases backend with
  | inMemory =>
      simp only [Backend.update, JobTable.update, found, Except.ok.injEq] at updates
      subst updates
      exact owned.replace found sameRequester.symm marked
  | postgres =>
      simp only [Backend.update, JobTable.updateProgress, found, Except.ok.injEq] at updates
      subst updates
      have writtenKey : (old.withProgressOf job).key = job.key := sameKey
      have stored : before.rows.get? (old.withProgressOf job).key = some old := by
        rw [writtenKey, found]
      refine owned.replace stored rfl ?_
      intro workflowId isMarked
      have sameId : (old.withProgressOf job).id = job.id := congrArg Prod.snd writtenKey
      rw [sameId]
      exact marked workflowId isMarked

end JobTable

/-! ## What the routes ask -/

/-- Who may review a job of this requester. -/
structure MayReview (identity : RequestIdentity) (requesterId : String) : Prop where
  reviews : identity.roles ∩ Routes.reviewers ≠ ∅
  another : requesterId = identity.requesterId → .administrator ∈ identity.roles

/-- The requests that reach the routes. -/
structure RouteRequests where
  jobs : RequestIdentity → ResearchJobCreate → Prop
  reviews : RequestIdentity → UUID → ReviewerDecision → Prop

abbrev RouteEvent : Type := Event RouteCall RouteCall.Answer RouteFault

namespace RouteRequests

variable (requests : RouteRequests) (backend : Backend)

/-- The routes of one deployment, with or without workflows, and the transitions of its
workers. -/
def routes : Setting RouteCall RouteCall.Answer RouteFault PlatformState ResearchJob where
  starts program :=
    (∃ identity command workflows, requests.jobs identity command ∧
      program = Routes.createAndStart identity command workflows) ∨
    (∃ identity jobId decision workflows, requests.reviews identity jobId decision ∧
      program = Routes.reviewJob identity jobId decision workflows) ∨
    (∃ identity jobId target, program = Routes.transitionJob identity jobId target) ∨
    ∃ tenantId jobId target detail usage,
      program = JobSteps.transition tenantId jobId target detail usage
  effect := PlatformState.Served backend
  outside := PlatformState.Closes

/-- What a program may ask after what it was answered: to start a job it created, to write
back a job it read, marked at most with its own workflow, and to deliver the decision of one
who may review a job that was read as waiting for it. -/
def Permits (own : List RouteEvent) : RouteCall → Prop
  | .startWorkflow workflowId job =>
      workflowId = workflowIdFor job.id ∧
        ∃ identity command, requests.jobs identity command ∧
          ⟨.create identity.tenantId identity.requesterId command identity.clearance,
            .ok job⟩ ∈ own
  | .update job =>
      ∃ tenantId jobId read, ⟨.get tenantId jobId, .ok read⟩ ∈ own ∧
        SameAssignment read job ∧
        (job.workflowId = read.workflowId ∨ job.workflowId = some (workflowIdFor jobId))
  | .signal workflowId decision =>
      ∃ identity jobId job, requests.reviews identity jobId decision ∧
        ⟨.get identity.tenantId jobId, .ok job⟩ ∈ own ∧
        workflowId = TemporalWorkflowStarter.signalled job ∧
        job.status = .reviewRequired ∧ MayReview identity job.requesterId
  | _ => True

variable {requests backend} {own : List RouteEvent}

/-- The monitor that keeps what a program was answered. -/
abbrev recorder : Monitor RouteCall RouteCall.Answer RouteFault (List RouteEvent) :=
  Monitor.recorder fun _ _ => True

theorem mem_snoc_of_last {event : RouteEvent} : event ∈ own ++ [event] :=
  List.mem_append_right own List.mem_cons_self

/-- A job that is moved is written back with the workflow it has. -/
theorem guarded_transition {tenantId : String} {jobId : UUID} {target : JobStatus}
    {detail : Option String} {usage : Option JobUsage} :
    Guarded recorder requests.Permits (JobSteps.transition tenantId jobId target detail usage)
      own fun _ _ => True := by
  refine guarded_perform_bind (by trivial) ?_ fun _ => trivial
  intro job _
  refine guarded_perform_bind (by trivial) ?_ fun _ => trivial
  intro now _
  cases moves : job.transitionTo target detail usage now with
  | error refusal => trivial
  | ok moved =>
      have kept : moved.workflowId = job.workflowId := by
        obtain ⟨-, rfl⟩ := ResearchJob.transitionTo_eq_ok_iff.mp moves
        rfl
      refine guarded_perform_bind ?_ (fun _ _ => trivial) fun _ => trivial
      exact ⟨tenantId, jobId, job, List.mem_append_left _ mem_snoc_of_last,
        ResearchJob.sameAssignment_transitionTo moves, Or.inl kept⟩

/-- A checkpoint of its own workflow is all that a job is marked with. -/
theorem guarded_recordCheckpoint {tenantId : String} {jobId : UUID}
    {workflowId workflowRunId : String} (named : workflowId = workflowIdFor jobId) :
    Guarded recorder requests.Permits
      (JobSteps.recordCheckpoint tenantId jobId workflowId workflowRunId) own
      fun _ _ => True := by
  refine guarded_perform_bind (by trivial) ?_ fun _ => trivial
  intro job _
  refine guarded_perform_bind (by trivial) ?_ fun _ => trivial
  intro now _
  refine guarded_perform_bind ?_ (fun _ _ => trivial) fun _ => trivial
  exact ⟨tenantId, jobId, job, List.mem_append_left _ mem_snoc_of_last,
    job.sameAssignment_withCheckpoint workflowId workflowRunId now,
    Or.inr (congrArg some named)⟩

theorem guarded_connected :
    Guarded recorder requests.Permits TemporalWorkflowStarter.connected own
      fun _ last => own ⊆ last := by
  apply guarded_rescue.mpr
  refine ⟨trivial, ?_⟩
  intro answer _
  cases answer with
  | ok _ => exact List.subset_append_left _ _
  | error fault => cases fault <;> exact List.subset_append_left _ _

/-- A started workflow is the job's own. -/
theorem guarded_start {job : ResearchJob} {identity : RequestIdentity}
    {command : ResearchJobCreate} (requested : requests.jobs identity command)
    (created : ⟨.create identity.tenantId identity.requesterId command identity.clearance,
      .ok job⟩ ∈ own) :
    Guarded recorder requests.Permits (TemporalWorkflowStarter.start job) own
      (Returning fun checkpoint _ => checkpoint.workflowId = workflowIdFor job.id) := by
  apply guarded_bind.mpr
  apply guarded_connected.mono
  intro outcome middle later
  cases outcome with
  | error fault => trivial
  | ok _ =>
      apply guarded_rescue.mpr
      refine ⟨⟨rfl, identity, command, requested, later created⟩, ?_⟩
      intro answer _
      cases answer with
      | ok runId => exact rfl
      | error fault =>
          cases fault with
          | alreadyStarted =>
              refine ⟨trivial, ?_⟩
              intro described _
              cases described with
              | ok runId => exact rfl
              | error fault => trivial
          | _ => trivial

theorem guarded_createAndStart {identity : RequestIdentity} {command : ResearchJobCreate}
    {workflows : Bool} (requested : requests.jobs identity command) :
    Guarded recorder requests.Permits (Routes.createAndStart identity command workflows) []
      fun _ _ => True := by
  refine guarded_perform_bind (by trivial) ?_ fun _ => trivial
  intro job _
  cases workflows with
  | false => trivial
  | true =>
      apply guarded_bind.mpr
      apply guarded_rescue.mpr
      apply (guarded_start requested (List.mem_singleton.mpr rfl)).mono
      intro outcome last started
      cases outcome with
      | ok checkpoint => exact guarded_recordCheckpoint started
      | error fault =>
          cases fault with
          | workflowUnavailable text =>
              apply guarded_bind.mpr
              apply guarded_transition.mono
              intro moved last _
              cases moved <;> trivial
          | _ => trivial

/-- A decision is delivered to the workflow of the job that was read. -/
theorem guarded_submit {job : ResearchJob} {decision : ReviewerDecision}
    (permitted : ∀ last : List RouteEvent, own ⊆ last →
      requests.Permits last (.signal (TemporalWorkflowStarter.signalled job) decision)) :
    Guarded recorder requests.Permits
      (TemporalWorkflowStarter.submitReviewerDecision job decision) own fun _ _ => True := by
  apply guarded_bind.mpr
  apply guarded_connected.mono
  intro outcome middle later
  cases outcome with
  | error fault => trivial
  | ok _ =>
      apply guarded_rescue.mpr
      refine ⟨permitted middle later, ?_⟩
      intro answer _
      cases answer with
      | ok _ => trivial
      | error fault =>
          cases fault with
          | rpc notFound text => cases notFound <;> trivial
          | _ => trivial

theorem guarded_reviewJob {identity : RequestIdentity} {jobId : UUID}
    {decision : ReviewerDecision} {workflows : Bool}
    (submitted : requests.reviews identity jobId decision) :
    Guarded recorder requests.Permits (Routes.reviewJob identity jobId decision workflows) []
      fun _ _ => True := by
  unfold Routes.reviewJob
  split
  · trivial
  rename_i reviews
  apply guarded_bind.mpr
  apply guarded_rescue.mpr
  refine ⟨trivial, ?_⟩
  intro answer _
  cases answer with
  | error fault => trivial
  | ok job =>
      apply guarded_finish.mpr
      dsimp only
      split
      · trivial
      rename_i another
      split
      · trivial
      rename_i awaiting
      split
      · trivial
      apply guarded_bind.mpr
      apply guarded_rescue.mpr
      have permitted : ∀ last : List RouteEvent,
          [⟨.get identity.tenantId jobId, .ok job⟩] ⊆ last →
            requests.Permits last
              (.signal (TemporalWorkflowStarter.signalled job) decision) := by
        intro last later
        refine ⟨identity, jobId, job, submitted, later (List.mem_singleton.mpr rfl), rfl,
          not_not.mp awaiting, reviews, ?_⟩
        intro same
        by_contra notAdministrator
        exact another ⟨same, notAdministrator⟩
      apply (guarded_submit permitted).mono
      intro outcome last _
      cases outcome with
      | ok _ => trivial
      | error fault => cases fault <;> trivial

theorem routes_obey : (requests.routes backend).Obeys requests.Permits fun _ _ => True := by
  intro program starts
  rcases starts with ⟨identity, command, workflows, requested, rfl⟩ |
    ⟨identity, jobId, decision, workflows, submitted, rfl⟩ | ⟨identity, jobId, target, rfl⟩ |
    ⟨tenantId, jobId, target, detail, usage, rfl⟩
  · exact guarded_createAndStart requested
  · exact guarded_reviewJob submitted
  · apply guarded_rescue.mpr
    refine guarded_perform_bind (by trivial) ?_ fun _ => trivial
    intro job _
    split
    · trivial
    · apply guarded_transition.mono
      intro outcome last _
      cases outcome <;> trivial
  · exact guarded_transition

/-! ## What is reached -/

variable (requests)

/-- What an event says of the jobs on record: a job that was created is the requester's,
and a job that was read names no workflow but its own. -/
def Recalls (table : JobTable) : RouteEvent → Prop
  | ⟨.create tenantId requesterId _ clearance, .ok job⟩ =>
      (job.tenantId = tenantId ∧ job.requesterId = requesterId ∧ job.clearance = clearance) ∧
        ∃ stored, table.rows.get? job.key = some stored ∧ stored.requesterId = job.requesterId
  | ⟨.get tenantId jobId, .ok job⟩ =>
      (job.key = (tenantId, jobId) ∧
          ∀ workflowId ∈ job.workflowId, workflowId = workflowIdFor jobId) ∧
        ∃ stored, table.rows.get? (tenantId, jobId) = some stored ∧
          stored.requesterId = job.requesterId
  | _ => True

/-- The execution's job was asked for by its requester, whose clearance it has. -/
def Requested (job : ResearchJob) : Prop :=
  ∃ identity command, requests.jobs identity command ∧ job.tenantId = identity.tenantId ∧
    job.requesterId = identity.requesterId ∧ job.clearance = identity.clearance

/-- The decision was submitted for this job by one of its tenant who may review it, when
the job was awaiting review. -/
def Authorised (log : List (Entry RouteCall RouteCall.Answer RouteFault))
    (job : ResearchJob) (decision : ReviewerDecision) : Prop :=
  ∃ place identity read, requests.reviews identity job.id decision ∧
    identity.tenantId = job.tenantId ∧ MayReview identity job.requesterId ∧
    (place, ⟨.get job.tenantId job.id, .ok read⟩) ∈ log ∧ read.status = .reviewRequired

/-- An execution under its own identifier, and what it was signalled. -/
structure Legitimate (log : List (Entry RouteCall RouteCall.Answer RouteFault))
    (workflowId : String) (execution : Execution) : Prop where
  named : workflowId = workflowIdFor execution.job.id
  requested : requests.Requested execution.job
  authorised : ∀ decision ∈ execution.signals, requests.Authorised log execution.job decision

/-- The invariant of the platform. -/
structure Consistent (log : List (Entry RouteCall RouteCall.Answer RouteFault))
    (state : PlatformState) : Prop where
  owned : state.jobs.Owned
  recalls : ∀ entry ∈ log, Recalls state.jobs entry.2
  stored : ∀ workflowId execution, state.executions.get? workflowId = some execution →
    ∃ job, state.jobs.rows.get? execution.job.key = some job ∧
      job.requesterId = execution.job.requesterId
  legitimate : ∀ workflowId execution, state.executions.get? workflowId = some execution →
    requests.Legitimate log workflowId execution

variable {requests} {log : List (Entry RouteCall RouteCall.Answer RouteFault)} {place : Nat}
  {state changed : PlatformState} {before after : JobTable} {event : RouteEvent}

theorem Recalls.keeps (recalls : Recalls before event) (keeps : before.Keeps after) :
    Recalls after event := by
  unfold Recalls at recalls ⊢
  split
  · obtain ⟨said, stored, found, requester⟩ := recalls
    obtain ⟨later, there, same⟩ := keeps.of_found found
    exact ⟨said, later, there, same.trans requester⟩
  · obtain ⟨said, stored, found, requester⟩ := recalls
    obtain ⟨later, there, same⟩ := keeps.of_found found
    exact ⟨said, later, there, same.trans requester⟩
  · trivial

theorem recalls_error {table : JobTable} {call : RouteCall} {fault : RouteFault} :
    Recalls table ⟨call, .error fault⟩ := by
  cases call <;> trivial

theorem mem_of_mem_eventsOf (member : event ∈ eventsOf place log) : (place, event) ∈ log := by
  obtain ⟨⟨other, same⟩, kept, rfl⟩ := List.mem_map.mp member
  obtain ⟨logged, isPlace⟩ := List.mem_filter.mp kept
  obtain rfl : other = place := of_decide_eq_true isPlace
  exact logged

/-- A job that names no workflow but its own is signalled by that name. -/
theorem signalled_eq {job : ResearchJob} {jobId : UUID} (sameId : job.id = jobId)
    (marked : ∀ workflowId ∈ job.workflowId, workflowId = workflowIdFor jobId) :
    TemporalWorkflowStarter.signalled job = workflowIdFor jobId := by
  subst sameId
  unfold TemporalWorkflowStarter.signalled
  split
  · rfl
  · rename_i workflowId isMarked
    split
    · rfl
    · exact marked workflowId isMarked

theorem Legitimate.snoc {entry : Entry RouteCall RouteCall.Answer RouteFault}
    {workflowId : String} {execution : Execution}
    (legitimate : requests.Legitimate log workflowId execution) :
    requests.Legitimate (log ++ [entry]) workflowId execution where
  named := legitimate.named
  requested := legitimate.requested
  authorised := by
    intro decision signalled
    obtain ⟨place, identity, read, submitted, tenant, may, logged, awaiting⟩ :=
      legitimate.authorised decision signalled
    exact ⟨place, identity, read, submitted, tenant, may, List.mem_append_left _ logged,
      awaiting⟩

namespace Consistent

theorem snoc {entry : Entry RouteCall RouteCall.Answer RouteFault}
    (consistent : requests.Consistent log state)
    (recalls : Recalls state.jobs entry.2) :
    requests.Consistent (log ++ [entry]) state where
  owned := consistent.owned
  recalls := by
    intro logged member
    rcases List.mem_append.mp member with earlier | last
    · exact consistent.recalls logged earlier
    · rw [List.mem_singleton.mp last]
      exact recalls
  stored := consistent.stored
  legitimate := fun workflowId execution found =>
    (consistent.legitimate workflowId execution found).snoc

/-- The jobs are written. -/
theorem write (consistent : requests.Consistent log state) {jobs : JobTable}
    (written : jobs.Owned ∧ state.jobs.Keeps jobs) :
    requests.Consistent log { state with jobs := jobs } := by
  obtain ⟨owned, keeps⟩ := written
  refine ⟨owned, fun entry logged => (consistent.recalls entry logged).keeps keeps, ?_,
    consistent.legitimate⟩
  intro workflowId execution found
  obtain ⟨job, there, requester⟩ := consistent.stored workflowId execution found
  obtain ⟨later, kept, same⟩ := keeps.of_found there
  exact ⟨later, kept, same.trans requester⟩

/-- An execution is put in its place. -/
theorem execute (consistent : requests.Consistent log state) {workflowId : String}
    {execution : Execution} {job : ResearchJob}
    (found : state.jobs.rows.get? execution.job.key = some job)
    (requester : job.requesterId = execution.job.requesterId)
    (legitimate : requests.Legitimate log workflowId execution) :
    requests.Consistent log
      { state with executions := state.executions.set workflowId execution } where
  owned := consistent.owned
  recalls := consistent.recalls
  stored := by
    intro other placed there
    rw [Dict.get?_set] at there
    split at there
    · obtain rfl := Option.some.inj there
      exact ⟨job, found, requester⟩
    · exact consistent.stored other placed there
  legitimate := by
    intro other placed there
    rw [Dict.get?_set] at there
    split at there
    · rename_i same
      obtain rfl := Option.some.inj there
      exact same ▸ legitimate
    · exact consistent.legitimate other placed there

/-- A call that is permitted keeps the platform consistent. -/
theorem served {call : RouteCall} {answer : Except RouteFault call.Answer}
    (consistent : requests.Consistent log state)
    (permitted : requests.Permits (eventsOf place log) call)
    (served : PlatformState.Served backend state call answer changed) :
    requests.Consistent log changed ∧ Recalls changed.jobs ⟨call, answer⟩ := by
  induction served with
  | @created tenantId requesterId command clearance stamps job fresh built =>
      obtain ⟨-, rfl⟩ := ResearchJob.validate_eq_ok_iff.mp built
      refine ⟨consistent.write (consistent.owned.create fresh rfl), ⟨rfl, rfl, rfl⟩, _, ?_, rfl⟩
      rw [JobTable.rows_add, if_pos rfl]
  | @got tenantId jobId job found =>
      have stored := JobTable.get_eq_ok_iff.mp found
      have sameKey : job.key = (tenantId, jobId) := JobTable.key_of_get found
      refine ⟨consistent, ⟨sameKey, ?_⟩, job, stored, rfl⟩
      obtain rfl : job.id = jobId := congrArg Prod.snd sameKey
      exact consistent.owned.marked _ job stored
  | @updated job jobs updates =>
      obtain ⟨tenantId, jobId, read, asked, same, marks⟩ := permitted
      have recalled := consistent.recalls _ (mem_of_mem_eventsOf asked)
      obtain ⟨⟨sameKey, marked⟩, stored, found, requester⟩ := recalled
      have jobKey : job.key = (tenantId, jobId) := same.key_eq.trans sameKey
      have readRequester : read.requesterId = job.requesterId := by
        rw [← same]
        rfl
      obtain rfl : job.id = jobId := congrArg Prod.snd jobKey
      refine ⟨consistent.write (consistent.owned.update (jobKey ▸ found)
        (requester.trans readRequester) ?_ updates), trivial⟩
      intro workflowId isMarked
      rcases marks with kept | named
      · exact marked workflowId (kept ▸ isMarked)
      · rw [named] at isMarked
        exact (Option.some.inj isMarked).symm
  | read => exact ⟨consistent, trivial⟩
  | connected => exact ⟨consistent, trivial⟩
  | @started workflowId job runId free =>
      obtain ⟨named, identity, command, requested, created⟩ := permitted
      have recalled := consistent.recalls _ (mem_of_mem_eventsOf created)
      obtain ⟨⟨tenant, requester, clearance⟩, stored, found, same⟩ := recalled
      refine ⟨consistent.execute found same ?_, trivial⟩
      exact ⟨named, ⟨identity, command, requested, tenant, requester, clearance⟩, by simp⟩
  | described => exact ⟨consistent, trivial⟩
  | @signalled workflowId decision execution found running =>
      obtain ⟨identity, jobId, read, submitted, asked, isSignalled, awaiting, may⟩ := permitted
      have logged := mem_of_mem_eventsOf asked
      obtain ⟨⟨sameKey, marked⟩, stored, here, reader⟩ := consistent.recalls _ logged
      have sameId : read.id = jobId := congrArg Prod.snd sameKey
      have legitimate := consistent.legitimate workflowId execution found
      obtain ⟨job, there, requester⟩ := consistent.stored workflowId execution found
      obtain rfl : execution.job.id = jobId := by
        apply workflowIdFor_inj
        rw [← legitimate.named, isSignalled, signalled_eq sameId marked]
      have tenant : identity.tenantId = execution.job.tenantId :=
        consistent.owned.distinct _ _ execution.job.id stored job here there
      rw [tenant] at here logged
      obtain rfl := Option.some.inj (here.symm.trans there)
      have reviewed : MayReview identity execution.job.requesterId := by
        rw [← requester, reader]
        exact may
      refine ⟨consistent.execute there requester ⟨legitimate.named, legitimate.requested, ?_⟩,
        trivial⟩
      intro signalled member
      rcases List.mem_append.mp member with earlier | last
      · exact legitimate.authorised signalled earlier
      · rw [List.mem_singleton.mp last]
        exact ⟨place, identity, read, submitted, tenant, reviewed, logged, awaiting⟩
  | refused fault => exact ⟨consistent, recalls_error⟩
  | lost fault served inductionHypothesis =>
      exact ⟨(inductionHypothesis permitted).1, recalls_error⟩

/-- So does the end of an execution. -/
theorem closes (consistent : requests.Consistent log state)
    (closes : state.Closes changed) : requests.Consistent log changed := by
  cases closes with
  | @closed workflowId execution found =>
      obtain ⟨job, there, requester⟩ := consistent.stored workflowId execution found
      have legitimate := consistent.legitimate workflowId execution found
      exact consistent.execute there requester
        ⟨legitimate.named, legitimate.requested, legitimate.authorised⟩

theorem initially : requests.Consistent [] {} where
  owned := ⟨by simp, by simp⟩
  recalls := by simp
  stored := by simp
  legitimate := by simp

end Consistent

/-- Every state that is reached is consistent. -/
theorem Consistent.of_reaches {pool : Pool RouteCall RouteCall.Answer RouteFault PlatformState
      ResearchJob}
    (reaches : (requests.routes backend).Reaches {} log pool) :
    requests.Consistent log pool.world := by
  apply Setting.Reaches.invariant routes_obey Consistent.initially _ _ reaches
    (fun _ _ _ _ => trivial : Throughout (fun _ _ => True) log)
  · intro log world changed place call answer consistent permitted served _
    obtain ⟨kept, recalls⟩ := consistent.served permitted served
    exact kept.snoc recalls
  · intro log world next consistent closes
    exact consistent.closes closes

/-- Whatever requests reach the routes, in whatever order they, the workers and the workflow
service take their steps, and wherever a call is lost: an execution under an identifier is of
the job that the identifier names, which its requester asked for under a clearance of their
own, and each decision it was signalled was submitted for that job, while it was read as
awaiting review, by a reviewer of its tenant who is not its requester or administers it. -/
theorem executions_legitimate {pool : Pool RouteCall RouteCall.Answer RouteFault PlatformState
      ResearchJob}
    (reaches : (requests.routes backend).Reaches {} log pool) :
    ∀ workflowId execution, pool.world.executions.get? workflowId = some execution →
      requests.Legitimate log workflowId execution :=
  (Consistent.of_reaches reaches).legitimate

/-! ## One review -/

namespace OneReview

def asker : RequestIdentity where
  tenantId := "acme"
  requesterId := "ada"

def second : RequestIdentity where
  tenantId := "acme"
  requesterId := "grace"
  roles := {.reviewer}

def question : ResearchJobCreate where
  question := ⟨"which plan is cheaper?", by decide⟩

/-- Ada asks for a job and Grace approves it. -/
def approval : RouteRequests where
  jobs identity command := identity = asker ∧ command = question
  reviews identity jobId decision := identity = second ∧ jobId = 1 ∧ decision = .approve

def stamps : Stamps := ⟨1, 0, fun _ => (1, 0)⟩

/-- A platform for one job that does what it is asked, if it can. -/
def platform : Handler RouteCall RouteCall.Answer RouteFault PlatformState := fun state call =>
  match call with
  | .create tenantId requesterId command clearance =>
      match (JobService.newJob tenantId requesterId command clearance stamps).validate with
      | .ok job =>
          if state.jobs.rows.entries = [] then
            (.ok job, { state with jobs := state.jobs.add job })
          else
            (.error (.other "one job"), state)
      | .error error => (.error (.job error), state)
  | .get tenantId jobId =>
      match state.jobs.get tenantId jobId with
      | .ok job => (.ok job, state)
      | .error error => (.error (.job (.service error)), state)
  | .update job =>
      match Backend.inMemory.update state.jobs job with
      | .ok jobs => (.ok (), { state with jobs := jobs })
      | .error error => (.error (.job (.service error)), state)
  | .utcNow => (.ok 1, state)
  | .connect => (.ok (), state)
  | .startWorkflow workflowId job =>
      match state.executions.get? workflowId with
      | none =>
          (.ok (some "run-1"),
            { state with executions := state.executions.set workflowId { job := job } })
      | some _ => (.error .alreadyStarted, state)
  | .describe _ => (.ok (some "run-1"), state)
  | .signal workflowId decision =>
      match state.executions.get? workflowId with
      | some execution =>
          if execution.running then
            (.ok (),
              { state with
                executions := state.executions.set workflowId
                  { execution with signals := execution.signals ++ [decision] } })
          else
            (.error (.rpc true "closed"), state)
      | none => (.error (.rpc true "unknown"), state)

theorem serves_platform (state : PlatformState) (call : RouteCall) :
    PlatformState.Served .inMemory state call (platform state call).1
      (platform state call).2 := by
  unfold platform
  cases call with
  | create tenantId requesterId command clearance =>
      dsimp only
      split
      · rename_i job built
        split
        · rename_i empty
          refine .created ?_ built
          intro tenant
          rw [Dict.get?, empty]
          rfl
        · exact .refused _
      · exact .refused _
  | get tenantId jobId =>
      dsimp only
      split
      · exact .got ‹_›
      · exact .refused _
  | update job =>
      dsimp only
      split
      · exact .updated ‹_›
      · exact .refused _
  | utcNow => exact .read
  | connect => exact .connected
  | startWorkflow workflowId job =>
      dsimp only
      split
      · rename_i free
        exact .started (by simp [free])
      · exact .refused _
  | describe workflowId => exact .described
  | signal workflowId decision =>
      dsimp only
      split
      · rename_i execution found
        split
        · exact .signalled found ‹_›
        · exact .refused _
      · exact .refused _

def submitted : RouteProgram ResearchJob := Routes.createAndStart asker question true

def moved (target : JobStatus) : RouteProgram ResearchJob :=
  JobSteps.transition "acme" 1 target none none

def approved : RouteProgram ResearchJob := Routes.reviewJob second 1 .approve true

/-- What a platform becomes when the programs run one after the other. -/
def runAll (programs : List (RouteProgram ResearchJob)) (state : PlatformState) :
    PlatformState :=
  programs.foldl (fun state program => (interpret platform program state).world) state

/-- The job is submitted, worked on up to its review, and approved. -/
def steps : List (RouteProgram ResearchJob) :=
  [submitted, moved .planning, moved .researching, moved .analyzing, moved .reviewRequired,
    approved]

theorem starts_steps (asked : requests.jobs asker question)
    (reviewed : requests.reviews second 1 .approve) :
    ∀ program ∈ steps, (requests.routes .inMemory).starts program := by
  have worker (target : JobStatus) : (requests.routes .inMemory).starts (moved target) :=
    Or.inr (Or.inr (Or.inr ⟨"acme", 1, target, none, none, rfl⟩))
  have first : (requests.routes .inMemory).starts submitted :=
    Or.inl ⟨asker, question, true, asked, rfl⟩
  have last : (requests.routes .inMemory).starts approved :=
    Or.inr (Or.inl ⟨second, 1, .approve, true, reviewed, rfl⟩)
  simp [steps, worker, first, last]

theorem reaches_runAll {programs running : List (RouteProgram ResearchJob)}
    (all : ∀ program ∈ programs, (requests.routes .inMemory).starts program)
    (reached : (requests.routes .inMemory).Reaches {} log ⟨state, running⟩) :
    ∃ longer ended, (requests.routes .inMemory).Reaches {} longer
      ⟨runAll programs state, ended⟩ := by
  induction programs generalizing log state running with
  | nil => exact ⟨log, running, reached⟩
  | cons program rest inductionHypothesis =>
      have started := reached.start (all program List.mem_cons_self)
      exact inductionHypothesis (fun other member => all other (List.mem_cons_of_mem _ member))
        (started.interpret serves_platform program)

/-- What the job's execution was signalled by then. -/
theorem signals_runAll : ((runAll steps {}).executions.get? (workflowIdFor 1)).map
    (·.signals) = some [.approve] := by decide +kernel

end OneReview

theorem executions_legitimate_when_approved : ∃ log execution,
    OneReview.approval.Legitimate log (workflowIdFor 1) execution ∧
      execution.signals = [.approve] := by
  have starts := @OneReview.starts_steps OneReview.approval ⟨rfl, rfl⟩ ⟨rfl, rfl, rfl⟩
  obtain ⟨log, ended, reaches⟩ := OneReview.reaches_runAll starts Setting.Reaches.nothing
  obtain ⟨execution, found, signalled⟩ := Option.map_eq_some_iff.mp OneReview.signals_runAll
  exact ⟨log, execution, executions_legitimate reaches _ _ found, signalled⟩

end RouteRequests

end ResearchPlatform
