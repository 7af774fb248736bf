import ResearchPlatform.Properties.GatewayContract
import ResearchPlatform.Properties.RetrievedEvidence

/-!
# Where verified evidence comes from

A record that the platform vouches for was quoted from a call that the gateway made and
audited for its own job and task.  The call need not have succeeded: the agent is given
what is left of a result that was cut off, and may quote it.
-/

namespace ResearchPlatform

open Foundation Program

/-! ## What a call leaves in the audit trail -/

/-- The record names the call, and says that it succeeded unless its result was cut off. -/
structure InvocationResult.RecordedFor (request : InvokeRequest) (result : InvocationResult) :
    Prop where
  key : result.invocation.key = (request.principal.tenantId, request.jobId)
  task : result.invocation.taskId = request.taskId
  outcome : result.invocation.outcome = .succeeded ↔ result.content.truncated = false

section Invocations

variable {State World : Type} {monitor : Monitor GatewayCall GatewayCall.Answer GatewayFault State}
  {state : State} {gateway : CapabilityGateway} {request : InvokeRequest}
  {handler : Handler GatewayCall GatewayCall.Answer GatewayFault World} {world : World}
  {result : InvocationResult}

/-- A record is made from its context. -/
theorem AuditContext.promises_record_madeFrom {audit : AuditContext}
    {decision : AuthorizationDecision} {outcome : InvocationOutcome} {errorClass : ErrorClass}
    {durationMs : Nat} :
    Promises monitor (audit.record decision outcome errorClass durationMs) state
      fun invocation => ∃ id startedAt, invocation.toInvocationFields =
        audit.fields decision outcome errorClass durationMs id startedAt := by
  apply promises_perform_bind
  intro id _ _
  apply promises_perform_bind
  intro startedAt _ _ invocation validated
  rw [mapError_eq_ok, ToolInvocation.validate] at validated
  split at validated
  · cases validated
    exact ⟨id, startedAt, rfl⟩
  · cases validated

theorem CapabilityGateway.promises_execute_recorded {capability : Capability}
    {version : String} :
    Promises monitor (execute (auditContext request capability version) request.principal
      request.arguments) state (InvocationResult.RecordedFor request) := by
  apply promises_perform_bind
  intro started _ _
  apply promises_perform_bind
  intro answered _ _
  cases answered with
  | error error =>
      apply promises_bind_of_forall
      intro _ _
      apply promises_bind_of_forall
      intro finished _
      apply promises_bind_of_forall
      intro invocation _ value returned
      cases returned
  | ok raw =>
      apply promises_bind_of_forall
      intro _ _
      apply promises_bind_of_forall
      intro finished _
      apply promises_bind AuditContext.promises_record_madeFrom
      intro invocation madeFrom _ result returned
      obtain ⟨id, startedAt, same⟩ := madeFrom
      obtain rfl := Except.ok.inj returned
      refine ⟨?_, ?_, ?_⟩
      · unfold ToolInvocation.key
        rw [same]
        rfl
      · rw [same]
        rfl
      · rw [same]
        dsimp only [AuditContext.fields]
        cases (sanitizeResult raw capability.maxResultBytes).truncated <;> simp

/-- A call that returns is recorded as itself. -/
theorem CapabilityGateway.recordedFor_of_invoke
    (returned : (interpret handler (gateway.invoke request) world).outcome = .ok result) :
    result.RecordedFor request := by
  let always : Monitor GatewayCall GatewayCall.Answer GatewayFault Unit :=
    ⟨fun _ _ => (), fun _ _ => True⟩
  have promises : Promises always (gateway.invoke request) () fun result =>
      ∃ capability, gateway.registry.resolveFor request.principal request.server
          request.capabilityName = .ok capability ∧ result.RecordedFor request :=
    promises_invoke_of fun _ _ _ => promises_execute_recorded
  have admitted : always.Admits () (interpret handler (gateway.invoke request) world).trace :=
    always.admits_of_forall (fun _ _ _ => trivial) ()
  obtain ⟨_, -, recorded⟩ := promises.sound admitted result returned
  exact recorded

/-- Nothing is handed to the sink before the call is over. -/
theorem CapabilityGateway.requests_invokeUnobserved :
    Requests (fun call => ¬ call.IsAudit) (gateway.invokeUnobserved request) := by
  have recorded (audit : AuditContext) (decision : AuthorizationDecision)
      (outcome : InvocationOutcome) (errorClass : ErrorClass) (durationMs : Nat) :
      Requests (fun call => ¬ call.IsAudit)
        (audit.record decision outcome errorClass durationMs) :=
    audit.requests_record_of id id decision outcome errorClass durationMs
  have denied {α : Type} (audit : AuditContext) (reason : String) (errorClass : ErrorClass) :
      Requests (fun call => ¬ call.IsAudit) (audit.denied reason errorClass : Governed α) :=
    audit.requests_denied_of id id reason errorClass
  have asks (call : GatewayCall) (quiet : ¬ call.IsAudit) :
      Requests (fun call => ¬ call.IsAudit) (ask call) :=
    requests_perform.mpr quiet
  have executes (audit : AuditContext) :
      Requests (fun call => ¬ call.IsAudit)
        (execute audit request.principal request.arguments) := by
    apply requests_bind (asks _ id)
    intro started
    apply requests_bind (asks _ id)
    intro answered
    cases answered with
    | error error =>
        apply requests_bind (asks _ id)
        intro _
        apply requests_bind (asks _ id)
        intro finished
        exact requests_bind (recorded ..) fun _ => requests_finish
    | ok raw =>
        apply requests_bind (asks _ id)
        intro _
        apply requests_bind (asks _ id)
        intro finished
        exact requests_bind (recorded ..) fun _ => requests_finish
  have approved (audit : AuditContext) :
      Requests (fun call => ¬ call.IsAudit) (requireApproval audit request) := by
    unfold requireApproval
    split
    · cases request.approval with
      | none => exact denied ..
      | some approval =>
          apply requests_bind (asks _ id)
          intro moment
          split
          · exact requests_finish
          · exact denied ..
          · exact requests_finish
    · exact requests_finish
  apply requests_bind requests_finish
  intro capability
  apply requests_bind (asks _ id)
  intro version
  apply requests_bind (asks _ id)
  intro decision
  dsimp only
  split
  · apply requests_bind (approved _)
    intro _
    apply requests_bind (asks _ id)
    intro reserved
    cases reserved with
    | error refusal => cases refusal <;> exact denied ..
    | ok count =>
        apply requests_bind (asks _ id)
        intro closed
        cases closed with
        | error refusal => exact denied ..
        | ok _ => exact executes _
  · exact denied ..

/-- A sink that is there is handed the record of a call that returns, and no other. -/
theorem CapabilityGateway.auditedOf_invoke (audits : gateway.hasAudit = true)
    (returned : (interpret handler (gateway.invoke request) world).outcome = .ok result) :
    auditedOf (interpret handler (gateway.invoke request) world).trace =
      [result.invocation] := by
  have quiet : auditedOf (interpret handler (gateway.invokeUnobserved request) world).trace =
      [] := by
    apply auditedOf_of_quiet
    exact fun event member => requests_invokeUnobserved.allowed_of_mem member
  have observed (invocation : ToolInvocation) (world : World) :
      auditedOf (interpret handler (gateway.observe invocation) world).trace = [invocation] ∧
        (interpret handler (gateway.observe invocation) world).outcome = .ok () := by
    unfold observe
    rw [if_pos audits, interpret_rescue]
    cases (interpret handler (ask (.audit invocation)) world).outcome <;> exact ⟨rfl, rfl⟩
  unfold invoke at returned ⊢
  rw [bind_eq, interpret_bind, interpret_rescue] at returned ⊢
  cases unobserved : (interpret handler (gateway.invokeUnobserved request) world).outcome with
  | error fault =>
      -- What is raised is raised again.
      rw [unobserved] at returned
      have raises (world : World) :
          (interpret handler (gateway.observeFault fault) world).outcome = .error fault := by
        cases carried : fault.invocation? with
        | none =>
            unfold observeFault
            rw [carried]
            rfl
        | some invocation =>
            rw [observeFault_of_some carried, interpret_bind, (observed invocation world).2]
            rfl
      rw [raises] at returned
      cases returned
  | ok first =>
      rw [unobserved] at returned
      dsimp only at returned ⊢
      rw [bind_eq, interpret_bind, (observed ..).2] at returned ⊢
      obtain rfl := Except.ok.inj returned
      rw [auditedOf_append, auditedOf_append, quiet, (observed ..).1]
      rfl

end Invocations

/-! ## The system of record, the gateway and the agents -/

/-- The system of record, the calls that the gateway has returned from, and what research
has submitted. -/
structure ProvenanceRecord where
  repository : InMemoryJobRepository := {}
  calls : List (InvokeRequest × InvocationResult) := []
  returned : List (ResearchJob × EvidenceSubmission) := []

/-- What the calls of a sequence of tool uses returned, the gateway returned. -/
def AgentTurn.AnsweredFrom {tools : List CapabilityTool} (turn : AgentTurn tools)
    (calls : List (InvokeRequest × InvocationResult)) : Prop :=
  ∀ use ∈ turn.uses, ∀ result, use.answer = .ok (.returned result) →
    ∃ approvals, (use.tool.request approvals use.given, result) ∈ calls

/-- The sink stores what it is handed. -/
def InMemoryJobRepository.recordTrace (repository : InMemoryJobRepository)
    (trace : List GatewayEvent) : InMemoryJobRepository :=
  (auditedOf trace).foldl recordInvocation repository

section Trail

variable {repository : InMemoryJobRepository} {key : JobKey} {call invocation : ToolInvocation}
  {trace : List GatewayEvent}

/-- What one write of the sink keeps, a whole trace keeps. -/
theorem InMemoryJobRepository.recordTrace_invariant (holds : InMemoryJobRepository → Prop)
    (kept : ∀ repository invocation, holds repository →
      holds (repository.recordInvocation invocation))
    (initially : holds repository) : holds (repository.recordTrace trace) := by
  unfold recordTrace
  generalize auditedOf trace = invocations
  induction invocations generalizing repository with
  | nil => exact initially
  | cons first rest inductionHypothesis => exact inductionHypothesis (kept _ first initially)

theorem InMemoryJobRepository.evidence_recordTrace :
    (repository.recordTrace trace).evidence = repository.evidence := by
  apply recordTrace_invariant fun updated => updated.evidence = repository.evidence
  · intro updated invocation same
    rw [evidence_recordInvocation, same]
  · rfl

theorem InMemoryJobRepository.mem_recordTrace (member : call ∈ repository.invocationsOf key) :
    call ∈ (repository.recordTrace trace).invocationsOf key := by
  apply recordTrace_invariant fun updated => call ∈ updated.invocationsOf key
  · intro updated invocation kept
    rw [invocationsOf_recordInvocation]
    exact List.mem_append_left _ kept
  · exact member

/-- The sink keeps one record for each identifier of a job. -/
theorem InMemoryJobRepository.distinct_recordTrace
    (distinct : ((repository.invocationsOf key).map (·.id)).Nodup) :
    (((repository.recordTrace trace).invocationsOf key).map (·.id)).Nodup := by
  apply recordTrace_invariant fun updated => ((updated.invocationsOf key).map (·.id)).Nodup
  · intro updated invocation distinct
    rw [invocationsOf_recordInvocation]
    split
    · rename_i isNew
      rw [List.map_append, List.nodup_append]
      refine ⟨distinct, List.nodup_singleton _, ?_⟩
      intro first known second last same
      rw [List.mem_singleton.mp last] at same
      rw [same] at known
      exact isNew.2 known
    · rw [List.append_nil]
      exact distinct
  · exact distinct

/-- A record under a fresh identifier is stored. -/
theorem InMemoryJobRepository.mem_recordTrace_self (handed : auditedOf trace = [invocation])
    (fresh : invocation.id ∉ (repository.invocationsOf invocation.key).map (·.id)) :
    invocation ∈ (repository.recordTrace trace).invocationsOf invocation.key := by
  unfold recordTrace
  rw [handed, List.foldl_cons, List.foldl_nil, invocationsOf_recordInvocation,
    if_pos ⟨rfl, fresh⟩]
  exact List.mem_append_right _ (List.mem_singleton_self _)

end Trail

namespace ProvenanceRecord

/-- What may happen next: evidence is attached by hand, the gateway is called by anyone for
anything, a researcher's agent submits what it was told by the gateway, what was submitted
is stored, and whatever else is written. -/
inductive Step (python : PythonText) : ProvenanceRecord → ProvenanceRecord → Prop
  | write {state : ProvenanceRecord} {repository : InMemoryJobRepository}
      (sameEvidence : repository.evidence = state.repository.evidence)
      (sameInvocations : repository.invocations = state.repository.invocations) :
      Step python state { state with repository := repository }
  | attach {state : ProvenanceRecord} {identity : RequestIdentity} {jobId id : UUID}
      {command : EvidenceRecordCreate} {now : Timestamp} {record : EvidenceRecord}
      {repository : InMemoryJobRepository}
      (attached : Routes.addEvidence python state.repository identity jobId command id now =
        .ok (record, repository)) :
      Step python state { state with repository := repository }
  | invoke {state : ProvenanceRecord} {gateway : CapabilityGateway} {request : InvokeRequest}
      {World : Type} {handler : Handler GatewayCall GatewayCall.Answer GatewayFault World}
      {world : World} {run : Run GatewayCall GatewayCall.Answer GatewayFault World
        InvocationResult}
      (audits : gateway.hasAudit = true)
      (runs : interpret handler (gateway.invoke request) world = run)
      (fresh : ∀ invocation ∈ auditedOf run.trace,
        invocation.id ∉ (state.repository.invocationsOf invocation.key).map (·.id)) :
      Step python state
        { state with
          repository := state.repository.recordTrace run.trace
          calls := state.calls ++ (run.outcome.toOption.map (request, ·)).toList }
  | research {state : ProvenanceRecord} {activities : ResearchActivities} {job : ResearchJob}
      {task : ResearchTask} {World : Type}
      {handler : Handler AgentCall AgentCall.Answer AgentFault World} {world : World}
      {submission : EvidenceSubmission} (samePython : activities.python = python)
      (answered : ∀ tools message turn, ⟨.kickoff tools message, .ok turn⟩ ∈
        (interpret handler (activities.research job task) world).trace →
          turn.AnsweredFrom state.calls)
      (submits : (interpret handler (activities.research job task) world).outcome =
        .ok submission) :
      Step python state { state with returned := state.returned ++ [(job, submission)] }
  | collect {state : ProvenanceRecord} {job : ResearchJob} {submission : EvidenceSubmission}
      {command : EvidenceRecordCreate} {id : UUID} {now : Timestamp}
      {record : EvidenceRecord} {repository : InMemoryJobRepository}
      (returned : (job, submission) ∈ state.returned)
      (submitted : command ∈ submission.records)
      (added : JobActivities.addEvidence state.repository job.tenantId job.id command id now =
        .ok (record, repository)) :
      Step python state { state with repository := repository }

/-- The states that are reached from an empty one. -/
def Reached (python : PythonText) : ProvenanceRecord → Prop :=
  Relation.ReflTransGen (Step python) {}

/-- The call is the one that the evidence names, made for this job, and what it returned
has the excerpt. -/
structure Backs (python : PythonText) (key : JobKey) (command : EvidenceRecordCreate)
    (request : InvokeRequest) (result : InvocationResult) : Prop where
  key : (request.principal.tenantId, request.jobId) = key
  task : request.taskId = command.producingTaskId
  names : result.invocation.id = command.toolInvocationId
  occurs : command.excerpt.val.toList <:+:
    (python.normalizeText result.content.text).toList

/-- Every call is in the audit trail under an identifier of its own, and what is submitted
or stored as more than unverified is backed by one. -/
structure Sound (python : PythonText) (state : ProvenanceRecord) : Prop where
  distinct : ∀ key, ((state.repository.invocationsOf key).map (·.id)).Nodup
  audited : ∀ request result, (request, result) ∈ state.calls →
    result.RecordedFor request ∧
      result.invocation ∈ state.repository.invocationsOf result.invocation.key
  submitted : ∀ job submission, (job, submission) ∈ state.returned →
    ∀ command ∈ submission.records, ∃ request result, (request, result) ∈ state.calls ∧
      Backs python job.key command request result
  stored : ∀ key, ∀ record ∈ state.repository.evidenceOf key,
    record.trustLevel ≠ .unverified → ∃ request result, (request, result) ∈ state.calls ∧
      Backs python key record.toEvidenceRecordCreate request result

section Soundness

variable {python : PythonText} {state next : ProvenanceRecord}

theorem sound_empty : Sound python {} where
  distinct := by simp [InMemoryJobRepository.invocationsOf]
  audited := by simp
  submitted := by simp
  stored := by simp [InMemoryJobRepository.evidenceOf]

/-- A write that leaves the audit trail, after which what is stored is still backed. -/
theorem Sound.sameTrail {repository : InMemoryJobRepository} (sound : state.Sound python)
    (same : repository.invocations = state.repository.invocations)
    (stored : ∀ key, ∀ record ∈ repository.evidenceOf key,
      record.trustLevel ≠ .unverified → ∃ request result, (request, result) ∈ state.calls ∧
        Backs python key record.toEvidenceRecordCreate request result) :
    Sound python { state with repository := repository } := by
  have trail (key : JobKey) :
      repository.invocationsOf key = state.repository.invocationsOf key := by
    unfold InMemoryJobRepository.invocationsOf
    rw [same]
  refine ⟨?_, ?_, sound.submitted, stored⟩
  · intro key
    rw [trail]
    exact sound.distinct key
  · intro request result member
    rw [trail]
    exact sound.audited request result member

/-- One more record is stored, which is unverified or backed. -/
theorem Sound.append {record : EvidenceRecord} (sound : state.Sound python)
    (backed : record.trustLevel ≠ .unverified → ∃ request result,
      (request, result) ∈ state.calls ∧
        Backs python record.key record.toEvidenceRecordCreate request result) :
    Sound python { state with repository := state.repository.appendEvidence record } := by
  apply sound.sameTrail
  · rfl
  · intro key other member verified
    rw [InMemoryJobRepository.evidenceOf_appendEvidence] at member
    rcases List.mem_append.mp member with earlier | last
    · exact sound.stored key other earlier verified
    · split at last
      · rename_i isIts
        obtain rfl := List.mem_singleton.mp last
        rw [← isIts]
        exact backed verified
      · cases last

/-- What a researcher submits was quoted from calls that the gateway returned from. -/
theorem backs_of_research {activities : ResearchActivities} {job : ResearchJob}
    {task : ResearchTask} {World : Type}
    {handler : Handler AgentCall AgentCall.Answer AgentFault World} {world : World}
    {submission : EvidenceSubmission} {calls : List (InvokeRequest × InvocationResult)}
    (answered : ∀ tools message turn, ⟨.kickoff tools message, .ok turn⟩ ∈
      (interpret handler (activities.research job task) world).trace →
        turn.AnsweredFrom calls)
    (submits : (interpret handler (activities.research job task) world).outcome =
      .ok submission) :
    ∀ command ∈ submission.records, ∃ request result, (request, result) ∈ calls ∧
      Backs activities.python job.key command request result := by
  let kind (tools : List CapabilityTool) (observed : ObservedContent) : Prop :=
    ∃ tool ∈ tools, ∃ given approvals result,
      (tool.request approvals given, result) ∈ calls ∧ observed = tool.noted given result
  have admitted : (turnMonitor kind).Admits ()
      (interpret handler (activities.research job task) world).trace := by
    apply Monitor.admits_of_forall
    rintro _ ⟨call, answer⟩ member
    cases call with
    | kickoff tools message =>
        cases answer with
        | error fault => trivial
        | ok turn =>
            intro use used result returned
            obtain ⟨approvals, called⟩ :=
              answered tools message turn member use used result returned
            exact ⟨use.tool, use.offered, use.given, approvals, result, called, rfl⟩
    | _ => trivial
  obtain ⟨principal, tools, claims, ledger, now, made, built, notes, verified⟩ :=
    ResearchActivities.promises_research.sound admitted submission submits
  intro command member
  obtain ⟨claim, -, observed, found, rests⟩ :=
    restsOn_of_verifyClaims verified command member
  obtain ⟨named, tool, offered, given, approvals, result, called, rfl⟩ :=
    notes claim.toolInvocationId observed found
  obtain ⟨ofPrincipal, ofJob, ofTask, -⟩ := mem_buildAgentTools built offered
  refine ⟨_, result, called, ?_⟩
  exact
    { key := by
        change (tool.principal.tenantId, tool.jobId) = (job.tenantId, job.id)
        rw [ofPrincipal, ofJob, (principalFor_eq_ok made).1]
      task := by
        change tool.taskId = command.producingTaskId
        rw [ofTask, rests.sameTask]
      names := named.trans rests.sameInvocation.symm
      occurs := by
        rw [rests.normalized]
        exact rests.occurs }

/-- Every step keeps the evidence backed. -/
theorem Sound.step (sound : state.Sound python) (step : Step python state next) :
    next.Sound python := by
  cases step with
  | write sameEvidence sameInvocations =>
      apply sound.sameTrail sameInvocations
      intro key record member
      unfold InMemoryJobRepository.evidenceOf at member
      rw [sameEvidence] at member
      exact sound.stored key record member
  | attach attached =>
      obtain ⟨-, rfl, rfl⟩ := Routes.stored_of_addEvidence attached
      exact sound.append fun verified => absurd rfl verified
  | @invoke gateway request World handler world run audits runs fresh =>
      have called {asked : InvokeRequest} {result : InvocationResult}
          (member : (asked, result) ∈ state.calls ++
            (run.outcome.toOption.map (request, ·)).toList) :
          (asked, result) ∈ state.calls ∨ asked = request ∧ run.outcome = .ok result := by
        rcases List.mem_append.mp member with earlier | last
        · exact Or.inl earlier
        · cases outcome : run.outcome with
          | error fault =>
              rw [outcome] at last
              cases last
          | ok returned =>
              rw [outcome] at last
              obtain ⟨rfl, rfl⟩ := Prod.mk.inj (List.mem_singleton.mp last)
              exact Or.inr ⟨rfl, rfl⟩
      have still {asked : InvokeRequest} {result : InvocationResult}
          (member : (asked, result) ∈ state.calls) : (asked, result) ∈ state.calls ++
            (run.outcome.toOption.map (request, ·)).toList := List.mem_append_left _ member
      refine ⟨?_, ?_, ?_, ?_⟩
      · exact fun key => InMemoryJobRepository.distinct_recordTrace (sound.distinct key)
      · intro asked result member
        rcases called member with earlier | ⟨rfl, returned⟩
        · obtain ⟨recorded, isStored⟩ := sound.audited asked result earlier
          exact ⟨recorded, InMemoryJobRepository.mem_recordTrace isStored⟩
        · rw [← runs] at returned fresh ⊢
          have handed := CapabilityGateway.auditedOf_invoke audits returned
          refine ⟨CapabilityGateway.recordedFor_of_invoke returned, ?_⟩
          apply InMemoryJobRepository.mem_recordTrace_self handed
          apply fresh
          rw [handed]
          exact List.mem_singleton_self _
      · intro job submission member command submitted
        obtain ⟨asked, result, earlier, backs⟩ :=
          sound.submitted job submission member command submitted
        exact ⟨asked, result, still earlier, backs⟩
      · intro key record member verified
        unfold InMemoryJobRepository.evidenceOf at member
        rw [InMemoryJobRepository.evidence_recordTrace] at member
        obtain ⟨asked, result, earlier, backs⟩ := sound.stored key record member verified
        exact ⟨asked, result, still earlier, backs⟩
  | @research activities job task World handler world submission samePython answered
      submits =>
      refine ⟨sound.distinct, sound.audited, ?_, sound.stored⟩
      intro other earlier member
      rcases List.mem_append.mp member with before | last
      · exact sound.submitted other earlier before
      · obtain ⟨rfl, rfl⟩ := Prod.mk.inj (List.mem_singleton.mp last)
        rw [← samePython]
        exact backs_of_research answered submits
  | @collect job submission command _ _ _ _ returned submitted added =>
      rcases JobActivities.added_of_addEvidence added with ⟨-, rfl⟩ | added
      · exact sound
      · obtain ⟨rfl, rfl⟩ := ResearchJobService.eq_of_addEvidence added
        exact sound.append fun _ =>
          sound.submitted job submission returned command submitted

theorem Reached.sound (reached : Reached python state) : state.Sound python := by
  induction reached with
  | refl => exact sound_empty
  | tail _ step inductionHypothesis => exact inductionHypothesis.step step

end Soundness

/-- The call that a record names: made for the record's own job and task, audited under an
identifier that no other call of the job has, returning a text that has the excerpt, and
successful unless that text was cut off. -/
structure Traced (python : PythonText) (state : ProvenanceRecord) (record : EvidenceRecord)
    (request : InvokeRequest) (result : InvocationResult) : Prop where
  called : (request, result) ∈ state.calls
  audited : result.invocation ∈ state.repository.invocationsOf record.key
  names : result.invocation.id = record.toolInvocationId
  only : ∀ other ∈ state.repository.invocationsOf record.key,
    other.id = record.toolInvocationId → other = result.invocation
  task : result.invocation.taskId = record.producingTaskId
  occurs : record.excerpt.val.toList <:+:
    (python.normalizeText result.content.text).toList
  outcome : result.invocation.outcome = .succeeded ↔ result.content.truncated = false

end ProvenanceRecord

namespace SumProvenance

open SumResearch (activities created job task)

def gateway : CapabilityGateway where
  registry := activities.registry
  hasAudit := true

def principal : Principal := { AttachedNote.principal with agentRole := some .researcher }

def tool : CapabilityTool := ⟨SumResearch.capability, principal, 1, 2, job.budget⟩

/-- Collaborators that let the call through, over a calculator. -/
def handler : Handler GatewayCall GatewayCall.Answer GatewayFault Unit
  | world, .execute _ => (.ok (.ok "[[the sum is 42]]"), world)
  | world, call => SalesQuery.handler .allow world call

def request : InvokeRequest := tool.request (fun _ _ => none) ∅

def run : Run GatewayCall GatewayCall.Answer GatewayFault Unit InvocationResult :=
  interpret handler (gateway.invoke request) ()

/-- What the agent claims, of the call that it made. -/
def claims : EvidenceClaims where
  claims := [{ excerpt := SumResearch.excerpt, toolInvocationId := 4 }]
  claimsInRange := by decide
  unmetBounded := noTexts_bounded

def researcher : ResearchActivities :=
  { activities with claims := ⟨"EvidenceClaims", "{}", fun _ => .ok .null, fun _ => .ok claims⟩ }

instance decideSameTool : DecidableEq CapabilityTool := fun first second =>
  decidable_of_iff
    (first.capability = second.capability ∧ first.principal = second.principal ∧
      first.jobId = second.jobId ∧ first.taskId = second.taskId ∧
      first.budget = second.budget)
    (by cases first; cases second; simp)

/-- The agent calls its tool once. -/
def turn (result : InvocationResult) (tools : List CapabilityTool) : AgentTurn tools :=
  if offered : tool ∈ tools then
    { uses := [⟨tool, offered, ∅, .ok (.returned result)⟩]
      raw := "the claims" }
  else
    { raw := "no tools" }

def agent (result : InvocationResult) : Handler AgentCall AgentCall.Answer AgentFault Unit
  | _, .kickoff tools _ => (.ok (turn result tools), ())
  | world, call => SumResearch.handler world call

theorem answers : run.outcome.toOption.isSome := by decide +kernel

/-- The audit trail after the call. -/
def trail : InMemoryJobRepository := created.repository.recordTrace run.trace

theorem researches : (run.outcome.toOption.bind fun result =>
    (interpret (agent result) (researcher.research job task) ()).outcome.toOption.bind
      fun submission => submission.records.head?.bind fun command =>
        (JobActivities.addEvidence trail "acme" 1 command 9 0).toOption).any
          fun added => added.1.trustLevel ≠ .unverified ∧
            added.1 ∈ added.2.evidenceOf ("acme", 1) := by
  decide +kernel

/-- The job is created and the call is made. -/
theorem invoked {result : InvocationResult} (returned : run.outcome = .ok result) :
    ProvenanceRecord.Reached activities.python
      { repository := trail, calls := [(request, result)] } := by
  have requested : ProvenanceRecord.Reached activities.python
      { repository := created.repository } :=
    Relation.ReflTransGen.single (.write rfl rfl)
  have unaudited (key : JobKey) : created.repository.invocationsOf key = [] := rfl
  have called := requested.tail
    (@ProvenanceRecord.Step.invoke activities.python { repository := created.repository }
      gateway request Unit handler () run rfl rfl fun invocation _ => by
        rw [unaudited]
        exact List.not_mem_nil)
  rw [returned] at called
  exact called

/-- What the agent was told, the gateway returned. -/
theorem answered {result : InvocationResult} (tools : List CapabilityTool) (message : String)
    (told : AgentTurn tools)
    (member : ⟨.kickoff tools message, .ok told⟩ ∈
      (interpret (agent result) (researcher.research job task) ()).trace) :
    told.AnsweredFrom [(request, result)] := by
  obtain ⟨before, given⟩ := answer_of_mem_trace (agent result) member
  obtain rfl : told = turn result tools := Except.ok.inj given
  intro use used other returned
  unfold turn at used
  split at used
  · obtain rfl := List.mem_singleton.mp used
    obtain rfl := ToolAnswer.returned.inj (Except.ok.inj returned)
    exact ⟨fun _ _ => none, List.mem_singleton_self _⟩
  · cases used

/-- The agent calls its tool, quotes what it returned, and the quote is stored. -/
theorem reaches : ∃ state record, ProvenanceRecord.Reached activities.python state ∧
    record ∈ state.repository.evidenceOf ("acme", 1) ∧ record.trustLevel ≠ .unverified := by
  have found := researches
  cases returned : run.outcome with
  | error fault =>
      rw [returned] at found
      cases found
  | ok result =>
      have called := invoked returned
      rw [returned] at found
      simp only [Except.toOption, Option.bind_some] at found
      cases submits : (interpret (agent result) (researcher.research job task) ()).outcome with
      | error fault =>
          rw [submits] at found
          cases found
      | ok submission =>
          rw [submits] at found
          simp only [Option.bind_some] at found
          have submitted := called.tail
            (@ProvenanceRecord.Step.research activities.python _ researcher job task Unit
              (agent result) () submission rfl answered submits)
          cases records : submission.records with
          | nil =>
              rw [records] at found
              cases found
          | cons command rest =>
              rw [records, List.head?_cons, Option.bind_some] at found
              cases adds : JobActivities.addEvidence trail "acme" 1 command 9 0 with
              | error error =>
                  rw [adds] at found
                  cases found
              | ok added =>
                  rw [adds] at found
                  obtain ⟨verified, isStored⟩ := of_decide_eq_true found
                  have member : command ∈ submission.records := by
                    rw [records]
                    exact List.mem_cons_self
                  have collected := submitted.tail
                    (.collect (List.mem_singleton_self (job, submission)) member adds)
                  exact ⟨_, added.1, collected, isStored, verified⟩

end SumProvenance

end ResearchPlatform
