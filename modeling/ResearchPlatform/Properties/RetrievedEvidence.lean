import ResearchPlatform.Mcp.EvidenceServer
import ResearchPlatform.Properties.EvidenceHashes
import ResearchPlatform.Properties.GatewayContract

/-!
# What agents retrieve

An agent retrieves what its own job has stored, and that is within the clearance of the
job as long as nothing above it is attached by hand: `add_evidence` asks for the
caller's clearance and not for the job's.
-/

namespace ResearchPlatform

open Foundation Program

/-- The system of record, with the jobs that someone has read, the submissions of
research, and the records that the agents of a job were returned. -/
structure RetrievalRecord where
  repository : InMemoryJobRepository := {}
  seen : List ResearchJob := []
  returned : List (ResearchJob × EvidenceSubmission) := []
  retrieved : List (ResearchJob × EvidenceRecord) := []

namespace RetrievalRecord

/-- What may happen next: jobs are requested, read and updated, given evidence by hand
as `attaches` allows, researched, given what research submitted, and read by their
agents through the tool for `evidence.retrieve`. -/
inductive Step (python : PythonText) (attaches : ResearchJob → EvidenceRecordCreate → Prop) :
    RetrievalRecord → RetrievalRecord → Prop
  | create {state : RetrievalRecord} {identity : RequestIdentity}
      {command : ResearchJobCreate} {id : UUID} {now : Timestamp} {job : ResearchJob}
      {repository : InMemoryJobRepository}
      (fresh : state.repository.jobs.rows.get? (identity.tenantId, id) = none)
      (created : Routes.createJob state.repository identity command id now =
        (job, repository)) :
      Step python attaches state
        { state with repository := repository, seen := state.seen ++ [job] }
  | read {state : RetrievalRecord} {tenantId : String} {jobId : UUID} {job : ResearchJob}
      (found : state.repository.get tenantId jobId = .ok job) :
      Step python attaches state { state with seen := state.seen ++ [job] }
  | update {state : RetrievalRecord} {job moved : ResearchJob}
      {repository : InMemoryJobRepository} (member : job ∈ state.seen) (call : JobCall)
      (revised : call.revise job = .ok moved)
      (updates : state.repository.update moved = .ok repository) :
      Step python attaches state
        { state with repository := repository, seen := state.seen ++ [moved] }
  | attach {state : RetrievalRecord} {identity : RequestIdentity} {jobId id : UUID}
      {command : EvidenceRecordCreate} {now : Timestamp} {job : ResearchJob}
      {record : EvidenceRecord} {repository : InMemoryJobRepository}
      (found : state.repository.get identity.tenantId jobId = .ok job)
      (allowed : attaches job command)
      (attached : Routes.addEvidence python state.repository identity jobId command id now =
        .ok (record, repository)) :
      Step python attaches state { state with repository := repository }
  | research {state : RetrievalRecord} {activities : ResearchActivities} {job : ResearchJob}
      {task : ResearchTask} {submission : EvidenceSubmission} (member : job ∈ state.seen)
      (submits : activities.MaySubmit job task submission) :
      Step python attaches state
        { state with returned := state.returned ++ [(job, submission)] }
  | collect {state : RetrievalRecord} {job : ResearchJob} {submission : EvidenceSubmission}
      {command : EvidenceRecordCreate} {id : UUID} {now : Timestamp}
      {record : EvidenceRecord} {repository : InMemoryJobRepository}
      (returned : (job, submission) ∈ state.returned)
      (submitted : command ∈ submission.records)
      (added : JobActivities.addEvidence state.repository job.tenantId job.id command id now =
        .ok (record, repository)) :
      Step python attaches state { state with repository := repository }
  | retrieve {state : RetrievalRecord} {job : ResearchJob} {role : AgentRole}
      {principal : Principal} {registry : CapabilityRegistry} {taskId : UUID}
      {tools : List CapabilityTool} {tool : CapabilityTool} {gateway : CapabilityGateway}
      {approvals : Capability → Arguments → Option ApprovalRequest} {given : Arguments}
      {World : Type} {handler : Handler GatewayCall GatewayCall.Answer GatewayFault World}
      {world : World} {asked : ExecutionRequest} {records : List EvidenceRecord}
      {dumps : List EvidenceView → String} {result : InvocationResult}
      (member : job ∈ state.seen) (made : principalFor job role = .ok principal)
      (built : buildAgentTools registry principal job.id taskId job.budget = .ok tools)
      (offered : tool ∈ tools) (retrieves : tool.capability.key = ("evidence", "retrieve"))
      (found : retrieveCall state.repository asked = .ok records)
      (executed : ⟨.execute asked, .ok (.ok (dumps (records.map (·.view))))⟩ ∈
        (interpret handler (gateway.invoke (tool.request approvals given)) world).trace)
      (answered : (interpret handler (gateway.invoke (tool.request approvals given))
        world).outcome = .ok result) :
      Step python attaches state
        { state with retrieved := state.retrieved ++ records.map (job, ·) }

/-- The states of the system of record, from an empty one. -/
def Reached (python : PythonText) (attaches : ResearchJob → EvidenceRecordCreate → Prop) :
    RetrievalRecord → Prop :=
  Relation.ReflTransGen (Step python attaches) {}

/-- Every record that an agent was returned is within the clearance of its job. -/
def Confined (state : RetrievalRecord) : Prop :=
  ∀ job record, (job, record) ∈ state.retrieved → record.accessClass ≤ job.clearance

variable {python : PythonText} {attaches : ResearchJob → EvidenceRecordCreate → Prop}
  {state next : RetrievalRecord} {job moved : ResearchJob} {record : EvidenceRecord}

/-! ## The clearance that is stored -/

/-- The table has a job under the key, with this clearance. -/
def Grants (table : JobTable) (key : JobKey) (clearance : AccessClass) : Prop :=
  ∃ row, table.rows.get? key = some row ∧ row.clearance = clearance

/-- Every job keeps its clearance. -/
def Keeps (before after : JobTable) : Prop :=
  ∀ {key clearance}, Grants before key clearance → Grants after key clearance

theorem grants_unique {table : JobTable} {key : JobKey} {first second : AccessClass}
    (one : Grants table key first) (other : Grants table key second) : first = second := by
  obtain ⟨row, found, rfl⟩ := one
  obtain ⟨again, foundAgain, rfl⟩ := other
  rw [found, Option.some.injEq] at foundAgain
  rw [foundAgain]

theorem grants_add {table : JobTable} :
    Grants (table.add job) job.key job.clearance :=
  ⟨job, Dict.get?_set_self table.rows job.key job, rfl⟩

/-- A write keeps the clearances when it keeps that of its own job. -/
theorem keeps_add {table : JobTable}
    (same : ∀ clearance, Grants table job.key clearance → clearance = job.clearance) :
    Keeps table (table.add job) := by
  intro key clearance granted
  by_cases isIts : key = job.key
  · subst isIts
    rw [same clearance granted]
    exact grants_add
  · obtain ⟨row, found, rfl⟩ := granted
    exact ⟨row, (Dict.get?_set_of_ne table.rows job isIts).trans found, rfl⟩

/-! ## The invariant -/

/-- Every job that someone holds has the clearance that is stored for it, and nothing that
is stored, was submitted or was retrieved for a job is above it. -/
structure WithinClearance (state : RetrievalRecord) : Prop where
  seen : ∀ job ∈ state.seen, Grants state.repository.jobs job.key job.clearance
  stored : ∀ key, ∀ record ∈ state.repository.evidenceOf key,
    ∃ clearance, Grants state.repository.jobs key clearance ∧ record.accessClass ≤ clearance
  returned : ∀ job submission, (job, submission) ∈ state.returned →
    Grants state.repository.jobs job.key job.clearance ∧
      ∀ command ∈ submission.records, command.accessClass ≤ job.clearance
  confined : state.Confined

theorem withinClearance_empty : WithinClearance {} where
  seen := by simp
  stored := by simp [InMemoryJobRepository.evidenceOf]
  returned := by simp
  confined := by simp [Confined]

/-- A write to the jobs, after which one more job is held. -/
theorem WithinClearance.keep {repository : InMemoryJobRepository}
    (within : state.WithinClearance)
    (kept : Keeps state.repository.jobs repository.jobs)
    (granted : Grants repository.jobs job.key job.clearance)
    (sameEvidence : ∀ key, repository.evidenceOf key = state.repository.evidenceOf key) :
    WithinClearance
      { state with repository := repository, seen := state.seen ++ [job] } where
  seen := by
    intro other member
    rcases List.mem_append.mp member with earlier | last
    · exact kept (within.seen other earlier)
    · rw [List.mem_singleton.mp last]
      exact granted
  stored := by
    intro key record member
    rw [sameEvidence key] at member
    obtain ⟨clearance, granted, below⟩ := within.stored key record member
    exact ⟨clearance, kept granted, below⟩
  returned := by
    intro other submission member
    obtain ⟨granted, below⟩ := within.returned other submission member
    exact ⟨kept granted, below⟩
  confined := within.confined

/-- A record that is within the clearance of its job is added. -/
theorem WithinClearance.append {clearance : AccessClass} (within : state.WithinClearance)
    (granted : Grants state.repository.jobs record.key clearance)
    (below : record.accessClass ≤ clearance) :
    WithinClearance
      { state with repository := state.repository.appendEvidence record } where
  seen := within.seen
  stored := by
    intro key other member
    rw [InMemoryJobRepository.evidenceOf_appendEvidence] at member
    rcases List.mem_append.mp member with earlier | last
    · exact within.stored key other earlier
    · split at last
      · rename_i isIts
        rw [List.mem_singleton.mp last, ← isIts]
        exact ⟨clearance, granted, below⟩
      · cases last
  returned := within.returned
  confined := within.confined

/-- A tool for `evidence.retrieve` reads what its job has stored. -/
theorem mem_evidenceOf_of_tool {role : AgentRole} {principal : Principal}
    {registry : CapabilityRegistry} {taskId : UUID} {tools : List CapabilityTool}
    {tool : CapabilityTool} {gateway : CapabilityGateway}
    {approvals : Capability → Arguments → Option ApprovalRequest} {given : Arguments}
    {World : Type} {handler : Handler GatewayCall GatewayCall.Answer GatewayFault World}
    {world : World} {asked : ExecutionRequest} {records : List EvidenceRecord}
    {repository : InMemoryJobRepository}
    {answer : Except GatewayFault (Except UpstreamError String)}
    (made : principalFor job role = .ok principal)
    (built : buildAgentTools registry principal job.id taskId job.budget = .ok tools)
    (offered : tool ∈ tools) (retrieves : tool.capability.key = ("evidence", "retrieve"))
    (found : retrieveCall repository asked = .ok records)
    (executed : ⟨.execute asked, answer⟩ ∈
      (interpret handler (gateway.invoke (tool.request approvals given)) world).trace) :
    ∀ record ∈ records, record ∈ repository.evidenceOf job.key := by
  obtain ⟨ofPrincipal, ofJob, -, -⟩ := mem_buildAgentTools built offered
  obtain ⟨before, after, split⟩ := List.append_of_mem executed
  obtain ⟨capability, -, rfl, -⟩ := clearance_before_execute split
  have named : (tool.arguments given).get? "job_id" = some (.text job.id.str) := by
    rw [← ofJob]
    exact CapabilityTool.job_of_retrieve retrieves
  have within := mem_evidenceOf_of_retrieveCall named found
  have tenant : tool.principal.tenantId = job.tenantId := by
    rw [ofPrincipal]
    exact (principalFor_eq_ok made).1
  intro record member
  have kept := within record member
  change record ∈ repository.evidenceOf (tool.principal.tenantId, job.id) at kept
  rw [tenant] at kept
  exact kept

/-- Every step keeps to the clearances, where nothing above that of its job is attached. -/
theorem WithinClearance.step (within : state.WithinClearance)
    (step : Step python (fun job command => command.accessClass ≤ job.clearance) state next) :
    next.WithinClearance := by
  cases step with
  | create fresh created =>
      obtain ⟨rfl, rfl⟩ := Prod.mk.inj created
      refine within.keep (keeps_add ?_) grants_add fun _ => rfl
      rintro clearance ⟨row, found, -⟩
      exact absurd (fresh.symm.trans found) (by simp)
  | @read tenantId jobId job found =>
      have isStored := JobTable.get_eq_ok_iff.mp found
      have granted : Grants state.repository.jobs job.key job.clearance := by
        rw [JobTable.key_of_get found]
        exact ⟨job, isStored, rfl⟩
      exact within.keep (fun granted => granted) granted fun _ => rfl
  | @update job moved _ member call revised updates =>
      have same := JobCall.sameAssignment_revise revised
      rw [InMemoryJobRepository.update_eq_ok updates]
      refine within.keep (keeps_add ?_) grants_add fun _ => rfl
      intro clearance granted
      rw [same.key_eq] at granted
      rw [same.clearance_eq]
      exact grants_unique granted (within.seen job member)
  | @attach identity jobId id command now job _ _ found allowed attached =>
      obtain ⟨-, rfl, rfl⟩ := Routes.stored_of_addEvidence attached
      have granted : Grants state.repository.jobs (identity.tenantId, jobId) job.clearance :=
        ⟨job, JobTable.get_eq_ok_iff.mp found, rfl⟩
      exact within.append granted allowed
  | @research activities job task submission member submits =>
      refine ⟨within.seen, within.stored, ?_, within.confined⟩
      intro other earlier returned
      rcases List.mem_append.mp returned with before | last
      · exact within.returned other earlier before
      · obtain ⟨rfl, rfl⟩ := Prod.mk.inj (List.mem_singleton.mp last)
        exact ⟨within.seen _ member, submits.verified.accessClass_le⟩
  | @collect job submission command _ _ _ _ returned submitted added =>
      obtain ⟨granted, below⟩ := within.returned job submission returned
      rcases JobActivities.added_of_addEvidence added with ⟨-, rfl⟩ | added
      · exact within
      · obtain ⟨rfl, rfl⟩ := ResearchJobService.eq_of_addEvidence added
        exact within.append granted (below command submitted)
  | @retrieve job _ _ _ _ _ _ _ _ _ _ _ _ _ records _ _ member made built offered retrieves
      found executed =>
      refine ⟨within.seen, within.stored, within.returned, ?_⟩
      intro other record retrieved
      rcases List.mem_append.mp retrieved with earlier | last
      · exact within.confined other record earlier
      · obtain ⟨read, isRead, same⟩ := List.mem_map.mp last
        obtain ⟨rfl, rfl⟩ := Prod.mk.inj same
        have kept := mem_evidenceOf_of_tool made built offered retrieves found executed
        obtain ⟨clearance, granted, below⟩ := within.stored _ _ (kept read isRead)
        rw [grants_unique granted (within.seen _ member)] at below
        exact below

end RetrievalRecord

/-- In every run in which each record that is attached by hand is classified within the
clearance of the job it is attached to, what the agents of a job retrieve is within the
clearance of the job. -/
theorem retrievals_withinClearance {python : PythonText} {state : RetrievalRecord}
    (reached : RetrievalRecord.Reached python
      (fun job command => command.accessClass ≤ job.clearance) state) :
    state.Confined := by
  have within : state.WithinClearance := by
    induction reached with
    | refl => exact RetrievalRecord.withinClearance_empty
    | tail _ step inductionHypothesis => exact inductionHypothesis.step step
  exact within.confined

namespace AttachedNote

open SumResearch (activities created job)

/-- A member of the requester's tenant who is cleared for everything. -/
def colleague : RequestIdentity where
  tenantId := "acme"
  requesterId := "grace"
  clearance := .restricted

def note (accessClass : AccessClass) : EvidenceRecordCreate :=
  { SumEvidence.submitted with accessClass := accessClass }

/-- The note as it is stored. -/
def stored (accessClass : AccessClass) : EvidenceRecord :=
  ⟨{ note accessClass with trustLevel := .unverified }, 9, 1, "acme", 0⟩

/-- The job of the requester, with the note. -/
def repository (accessClass : AccessClass) : InMemoryJobRepository :=
  created.repository.appendEvidence (stored accessClass)

theorem attached (accessClass : AccessClass) :
    Routes.addEvidence activities.python created.repository colleague 1 (note accessClass)
      9 0 = .ok (stored accessClass, repository accessClass) := by
  have adds : (Routes.addEvidence activities.python created.repository colleague 1
      (note accessClass) 9 0).toOption.isSome := by
    cases accessClass <;> decide +kernel
  cases outcome : Routes.addEvidence activities.python created.repository colleague 1
      (note accessClass) 9 0 with
  | error error =>
      rw [outcome] at adds
      cases adds
  | ok result =>
      obtain ⟨-, isStored, appended⟩ := Routes.stored_of_addEvidence outcome
      rw [← Prod.mk.eta (p := result), appended, isStored]
      rfl

def capability : Capability where
  server := ⟨"evidence", by decide⟩
  name := ⟨"retrieve", by decide⟩
  kind := .resource
  allowedAgents := {.analyst, .critic, .reporter}
  maxAccessClass := .internal

def gateway : CapabilityGateway where
  registry := (CapabilityRegistry.ofList [capability]).toOption.getD {}
  hasAudit := true

def principal : Principal where
  tenantId := "acme"
  subjectId := "job:" ++ job.id.str
  agentRole := some .critic
  clearance := .internal
  tenantGiven := exampleAnalyst.tenantGiven
  subjectGiven := by decide

def tool : CapabilityTool := ⟨capability, principal, 1, 2, job.budget⟩

/-- The excerpts of the records, one after the other. -/
def dumps (views : List EvidenceView) : String :=
  ", ".intercalate (views.map (·.excerpt.val))

/-- Collaborators that let the call through, over a server that answers from the
repository. -/
def handler (repository : InMemoryJobRepository) :
    Handler GatewayCall GatewayCall.Answer GatewayFault Unit
  | world, .execute asked =>
      (.ok ((retrieveCall repository asked).map fun records =>
        dumps (records.map (·.view))), world)
  | world, call => SalesQuery.handler .allow world call

def run (accessClass : AccessClass) :
    Run GatewayCall GatewayCall.Answer GatewayFault Unit InvocationResult :=
  interpret (handler (repository accessClass))
    (gateway.invoke (tool.request (fun _ _ => none) ∅)) ()

theorem answers (accessClass : AccessClass) :
    (run accessClass).outcome.toOption.isSome := by
  cases accessClass <;> decide +kernel

/-- What the executor is asked for. -/
def asked : ExecutionRequest := ⟨capability, principal, tool.arguments ∅⟩

theorem found (accessClass : AccessClass) :
    retrieveCall (repository accessClass) asked = .ok [stored accessClass] := by
  cases accessClass <;> decide +kernel

theorem executed (accessClass : AccessClass) :
    ⟨.execute asked, .ok (.ok (dumps ([stored accessClass].map (·.view))))⟩ ∈
      (run accessClass).trace := by
  have sixth : (run accessClass).trace[5]? =
      some ⟨.execute asked, .ok (.ok (dumps ([stored accessClass].map (·.view))))⟩ := by
    cases accessClass <;> rfl
  exact List.mem_of_getElem? sixth

theorem offered : ∃ tools,
    buildAgentTools gateway.registry principal job.id 2 job.budget = .ok tools ∧
      tool ∈ tools := by
  have executable : capability ∈
      (gateway.registry.discover principal).filter (·.isExecutableBy principal) := by
    decide +kernel
  exact ⟨_, rfl, List.mem_map.mpr ⟨capability, executable, rfl⟩⟩

/-- The requester's job is given the note, and its critic retrieves it. -/
theorem reaches (accessClass : AccessClass)
    {attaches : ResearchJob → EvidenceRecordCreate → Prop}
    (allowed : attaches job (note accessClass)) :
    ∃ state, RetrievalRecord.Reached activities.python attaches state ∧
      (job, stored accessClass) ∈ state.retrieved := by
  have requested : RetrievalRecord.Reached activities.python attaches
      { repository := created.repository, seen := [job] } :=
    Relation.ReflTransGen.single (.create rfl rfl)
  have given := requested.tail (.attach rfl allowed (attached accessClass))
  obtain ⟨tools, built, member⟩ := offered
  have answered := answers accessClass
  cases outcome : (run accessClass).outcome with
  | error fault =>
      rw [outcome] at answered
      cases answered
  | ok result =>
      have retrieved := given.tail (.retrieve (List.mem_singleton_self job) rfl built member rfl
        (found accessClass) (executed accessClass) outcome)
      exact ⟨_, retrieved, List.mem_singleton_self _⟩

end AttachedNote

open AttachedNote

theorem retrievals_withinClearance_of_internalNote :
    ∃ state : RetrievalRecord, (SumResearch.job, stored .internal) ∈ state.retrieved ∧
      (stored .internal).accessClass ≤ SumResearch.job.clearance := by
  obtain ⟨state, reached, member⟩ := @reaches .internal
    (fun job command => command.accessClass ≤ job.clearance) (by decide)
  exact ⟨state, member, retrievals_withinClearance reached _ _ member⟩

/-- A colleague attaches a restricted note to a job whose requester is cleared for internal
sources only, and the critic of the job retrieves it. -/
theorem critic_retrieves_restrictedNote :
    ∃ state, RetrievalRecord.Reached SumResearch.activities.python (fun _ _ => True) state ∧
      ¬ state.Confined := by
  obtain ⟨state, reached, member⟩ := @reaches .restricted (fun _ _ => True) trivial
  refine ⟨state, reached, ?_⟩
  intro confined
  exact absurd (confined _ _ member) (by decide)

end ResearchPlatform
