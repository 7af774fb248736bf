import ResearchPlatform.Application.Publication
import ResearchPlatform.Foundation.Url
import ResearchPlatform.Workflow.Activities

/-!
# Reading a source again

`refetch_arguments` and `GatewaySourceChecker.check`: a cited source is read again through
the gateway that fetched it.
-/

namespace ResearchPlatform

open Foundation Program

/-! ## What an invocation returns -/

/-- The executor returns no text but one that was `served` for the call. -/
def AnsweredBy (served : ExecutionRequest → String → Prop) : GatewayEvent → Prop
  | ⟨.execute execution, .ok (.ok raw)⟩ => served execution raw
  | _ => True

/-- The monitor of invocations that are answered so. -/
abbrev servedMonitor (served : ExecutionRequest → String → Prop) :
    Monitor GatewayCall GatewayCall.Answer GatewayFault (List GatewayEvent) :=
  Monitor.recorder fun _ event => AnsweredBy served event

/-- The result holds what was served for the call, and its record names that call. -/
structure InvocationResult.Served (served : ExecutionRequest → String → Prop)
    (request : InvokeRequest) (capability : Capability) (result : InvocationResult) :
    Prop where
  tenant : result.invocation.tenantId = request.principal.tenantId
  server : result.invocation.mcpServer = capability.server.val
  name : result.invocation.capability = capability.name.val
  content : ∃ raw, served ⟨capability, request.principal, request.arguments⟩ raw ∧
    result.content = sanitizeResult raw capability.maxResultBytes

section Invocations

variable {served : ExecutionRequest → String → Prop} {request : InvokeRequest}
  {capability : Capability} {gateway : CapabilityGateway} {audit : AuditContext}
  {log : List GatewayEvent}

/-- A record says what its call was. -/
theorem AuditContext.promises_record {decision : AuthorizationDecision}
    {outcome : InvocationOutcome} {errorClass : ErrorClass} {durationMs : Nat} :
    Promises (servedMonitor served) (audit.record decision outcome errorClass durationMs) log
      fun invocation => invocation.tenantId = audit.tenantId ∧
        invocation.mcpServer = audit.capability.server.val ∧
        invocation.capability = audit.capability.name.val := by
  apply promises_perform_bind
  intro id _ _
  apply promises_perform_bind
  intro startedAt _ _ invocation validated
  rw [mapError_eq_ok, ToolInvocation.validate] at validated
  split at validated
  · cases validated
    exact ⟨rfl, rfl, rfl⟩
  · cases validated

theorem CapabilityGateway.promises_execute
    (ofTenant : audit.tenantId = request.principal.tenantId) :
    Promises (servedMonitor served)
      (CapabilityGateway.execute audit request.principal request.arguments) log
      (InvocationResult.Served served request audit.capability) := by
  apply promises_perform_bind
  intro started _ _
  apply promises_perform_bind
  intro answered answeredBy _
  cases answered with
  | error error =>
      apply promises_bind_of_forall
      intro _ _
      apply promises_bind_of_forall
      intro finished _
      apply promises_bind_of_forall
      intro invocation _ value returned
      cases returned
  | ok raw =>
      apply promises_bind_of_forall
      intro _ _
      apply promises_bind_of_forall
      intro finished _
      apply promises_bind AuditContext.promises_record
      intro invocation named _ result returned
      obtain rfl := Except.ok.inj returned
      exact ⟨named.1.trans ofTenant, named.2.1, named.2.2, raw, answeredBy, rfl⟩

/-- What `invoke` returns was served for its call. -/
theorem CapabilityGateway.promises_invoke :
    Promises (servedMonitor served) (gateway.invoke request) log fun result =>
      ∃ capability, gateway.registry.resolveFor request.principal request.server
          request.capabilityName = .ok capability ∧
        result.Served served request capability :=
  promises_invoke_of fun _ _ _ => promises_execute rfl

end Invocations

/-! ## The source checker -/

/-- `str(error)`. -/
def CapabilityNotFound.message (missing : CapabilityNotFound) : String :=
  "capability " ++ missing.server ++ "." ++ missing.name ++ " is not registered"

/-- `text[:500]`. -/
def firstCharacters (text : String) : BoundedText 500 :=
  ⟨String.ofList (text.toList.take 500), by
    rw [String.length_ofList]
    exact List.length_take_le 500 text.toList⟩

/-- `refetch_arguments`, or `none` where `urlsplit` raises `ValueError`. -/
def refetchArguments (rules : Url.Rules) (record : EvidenceRecord) :
    Option ToolInvocation → Option (Option Arguments)
  | none => some none
  | some invocation =>
      let key := (invocation.mcpServer, invocation.capability)
      if key = ("web-research", "fetch") then
        some (some ((∅ : Arguments).set "url" (.text record.sourceUri.val)))
      else if key = ("filesystem", "read_document") then
        (rules.urlsplit record.sourceUri.val.toList).map fun parts =>
          some ((∅ : Arguments).set "path"
            (.text (String.ofList (parts.path.dropWhile (· = '/')))))
      else
        some none

/-- `GatewaySourceChecker`, with what it uses of Python. -/
structure GatewaySourceChecker where
  gateway : CapabilityGateway
  python : PythonText
  rules : Url.Rules

namespace GatewaySourceChecker

variable (checker : GatewaySourceChecker)

/-- The call that reads the source again. -/
def rereadRequest (job : ResearchJob) (record : EvidenceRecord) (invocation : ToolInvocation)
    (principal : Principal) (arguments : Arguments) : InvokeRequest where
  principal := principal
  jobId := job.id
  taskId := record.producingTaskId
  server := invocation.mcpServer
  capabilityName := invocation.capability
  arguments := arguments
  budget := job.budget

/-- Why the source is unavailable, for the exceptions that `check` catches. -/
def unavailable? : GatewayFault → Option String
  | .denied reason _ => some reason
  | .failed reason _ => some reason
  | .capabilityNotFound missing => some missing.message
  | _ => none

/-- The invocation, where `check` has caught what it catches. -/
def attempt (invocation : Governed InvocationResult) :
    Governed (Except String InvocationResult) :=
  (invocation.bind fun result => return .ok result).rescue fun fault =>
    match unavailable? fault with
    | some reason => return .error reason
    | none => raise fault

/-- What is said of the source. -/
def verdict (record : EvidenceRecord) (now : Timestamp) :
    Except String InvocationResult → SourceCheck
  | .error reason =>
      { evidenceId := record.id
        status := .unavailable
        checkedAt := now
        detail := some (firstCharacters reason) }
  | .ok result =>
      if checker.python.Occurs record.excerpt.val result.content.text then
        { evidenceId := record.id, status := .unchanged, checkedAt := now }
      else
        { evidenceId := record.id
          status := .drifted
          checkedAt := now
          detail := some ⟨"the captured excerpt is no longer present at the source",
            by decide⟩ }

/-- `check`. -/
def check (job : ResearchJob) (record : EvidenceRecord)
    (invocation : Option ToolInvocation) : Governed SourceCheck :=
  match refetchArguments checker.rules record invocation, invocation with
  | none, _ => raise (.raised "ValueError")
  | some (some arguments), some invocation => do
      let principal ← lift ((principalFor job .researcher).mapError (.raised ·.message))
      let reread ← attempt
        (checker.gateway.invoke (rereadRequest job record invocation principal arguments))
      let now ← ask .utcNow
      return checker.verdict record now reread
  | _, _ => do
      let now ← ask .utcNow
      return {
        evidenceId := record.id
        status := .notChecked
        checkedAt := now
        detail := some ⟨"this kind of source has no address to read again", by decide⟩ }

end GatewaySourceChecker

end ResearchPlatform
