import ResearchPlatform.Domain.Approvals
import ResearchPlatform.Foundation.Outcome
import ResearchPlatform.Foundation.Program
import ResearchPlatform.Mcp.Policy
import ResearchPlatform.Mcp.Sanitizer

/-!
# The capability gateway

`CapabilityGateway.invoke` as a program over its policy engine, budget ledger,
circuit breaker, executor, audit sink, clock and source of identifiers.  Metrics
and spans are left out.
-/

namespace ResearchPlatform

open Foundation Program

/-- Raised by an executor when the MCP server itself fails. -/
structure UpstreamError where
  message : String
  errorClass : ErrorClass
  deriving DecidableEq

structure ExecutionRequest where
  capability : Capability
  principal : Principal
  arguments : Arguments
  deriving DecidableEq

/-- Why a ledger or a breaker refuses. -/
inductive LimitRefusal where
  | budgetExhausted (message : String)
  | circuitOpen (message : String)
  | limitStoreUnavailable (message : String)
  deriving DecidableEq

/-- `str(error)`. -/
def LimitRefusal.message : LimitRefusal → String
  | budgetExhausted message => message
  | circuitOpen message => message
  | limitStoreUnavailable message => message

/-- The calls one invocation makes. -/
inductive GatewayCall where
  | policyVersion
  | evaluate (request : AuthorizationRequest)
  | utcNow
  | reserveCall (jobId : UUID) (budget : ResearchBudget)
  | ensureClosed (server : String)
  | execute (request : ExecutionRequest)
  | recordFailure (server : String)
  | recordSuccess (server : String)
  | uuid4
  | audit (invocation : ToolInvocation)

/-- What each call returns; the refusals that the gateway catches are part of the
answer. -/
abbrev GatewayCall.Answer : GatewayCall → Type
  | policyVersion => String
  | evaluate _ => PolicyDecision
  | utcNow => Timestamp
  | reserveCall .. => Except LimitRefusal Nat
  | ensureClosed _ => Except LimitRefusal Unit
  | execute _ => Except UpstreamError String
  | recordFailure _ => Unit
  | recordSuccess _ => Unit
  | uuid4 => UUID
  | audit _ => Unit

/-- What `invoke` raises.  `raised` is any exception of a collaborator that the
gateway does not catch. -/
inductive GatewayFault where
  | capabilityNotFound (missing : CapabilityNotFound)
  | denied (reason : String) (invocation : ToolInvocation)
  | failed (reason : String) (invocation : ToolInvocation)
  | invalidRecord (error : ValidationError)
  | typeError (message : String)
  | raised (message : String)
  deriving DecidableEq

/-- The audit record that `CapabilityDenied` and `CapabilityFailed` carry. -/
def GatewayFault.invocation? : GatewayFault → Option ToolInvocation
  | denied _ invocation => some invocation
  | failed _ invocation => some invocation
  | _ => none

abbrev Governed (α : Type) : Type :=
  Program GatewayCall GatewayCall.Answer GatewayFault α

/-- Make one call and return its answer. -/
def ask (call : GatewayCall) : Governed call.Answer := perform call

abbrev GatewayEvent : Type := Event GatewayCall GatewayCall.Answer GatewayFault

/-- The records handed to the audit sink, in order. -/
def auditedOf (trace : List GatewayEvent) : List ToolInvocation :=
  trace.filterMap fun event =>
    match event.1 with
    | .audit invocation => some invocation
    | _ => none

/-- A completed call: its audit record and the content it produced. -/
structure InvocationResult where
  invocation : ToolInvocation
  content : UntrustedContent
  deriving DecidableEq

/-- The arguments of `invoke`. -/
structure InvokeRequest where
  principal : Principal
  jobId : UUID
  taskId : UUID
  server : String
  capabilityName : String
  arguments : Arguments
  budget : ResearchBudget := {}
  approval : Option ApprovalRequest := none

/-! ## The audit context -/

/-- `_AuditContext`: what the audit records of one call have in common. -/
structure AuditContext where
  jobId : UUID
  taskId : UUID
  tenantId : String
  capability : Capability
  sanitizedArguments : Arguments
  argumentDigest : DigestText
  policyVersion : String

namespace AuditContext

/-- `with_policy_version`. -/
def withPolicyVersion (audit : AuditContext) (policyVersion : String) : AuditContext :=
  { audit with policyVersion := policyVersion }

/-- The fields of a record of this call. -/
def fields (audit : AuditContext) (decision : AuthorizationDecision)
    (outcome : InvocationOutcome) (errorClass : ErrorClass) (durationMs : Nat)
    (id : UUID) (startedAt : Timestamp) : InvocationFields where
  id := id
  jobId := audit.jobId
  taskId := audit.taskId
  tenantId := audit.tenantId
  mcpServer := audit.capability.server.val
  capability := audit.capability.name.val
  sanitizedArguments := audit.sanitizedArguments
  argumentDigest := audit.argumentDigest
  policyVersion := audit.policyVersion
  authorizationDecision := decision
  outcome := outcome
  errorClass := errorClass
  startedAt := startedAt
  durationMs := some durationMs

/-- `_AuditContext.record`. -/
def record (audit : AuditContext) (decision : AuthorizationDecision)
    (outcome : InvocationOutcome) (errorClass : ErrorClass) (durationMs : Nat) :
    Governed ToolInvocation := do
  let id ← ask .uuid4
  let startedAt ← ask .utcNow
  lift
    ((ToolInvocation.validate
      (audit.fields decision outcome errorClass durationMs id startedAt)).mapError
        .invalidRecord)

/-- The decision recorded for a refused call: only a verdict of the policy or of
the approval check counts as an authorization denial. -/
def refusalDecision (errorClass : ErrorClass) : AuthorizationDecision :=
  if errorClass = .policyDenied then .deny else .allow

/-- Raise what `_AuditContext.denied` builds. -/
def denied {α : Type} (audit : AuditContext) (reason : String)
    (errorClass : ErrorClass) : Governed α := do
  let invocation ← audit.record (refusalDecision errorClass) .denied errorClass 0
  raise (.denied reason invocation)

/-- A record takes an identifier and a reading of the clock. -/
theorem requests_record_of {allowed : GatewayCall → Prop} (ids : allowed .uuid4)
    (times : allowed .utcNow) (audit : AuditContext) (decision : AuthorizationDecision)
    (outcome : InvocationOutcome) (errorClass : ErrorClass) (durationMs : Nat) :
    Requests allowed (audit.record decision outcome errorClass durationMs) := by
  apply requests_bind
  · exact requests_perform.mpr ids
  · intro identifier
    apply requests_bind
    · exact requests_perform.mpr times
    · intro startedAt
      exact requests_finish

theorem requests_denied_of {α : Type} {allowed : GatewayCall → Prop}
    (ids : allowed .uuid4) (times : allowed .utcNow) (audit : AuditContext)
    (reason : String) (errorClass : ErrorClass) :
    Requests allowed (audit.denied reason errorClass : Governed α) :=
  requests_bind (audit.requests_record_of ids times ..) fun _ => requests_finish

end AuditContext

/-- `_elapsed_ms`, between two readings of the clock. -/
def elapsedMs (started finished : Timestamp) : Nat :=
  (finished - started).toNat / 1000

/-! ## The gateway -/

/-- The registry of a gateway and whether it was given an audit sink. -/
structure CapabilityGateway where
  registry : CapabilityRegistry
  hasAudit : Bool

namespace CapabilityGateway

/-- `_check_approval`.  The resource that is compared with the approval's is the
approval's own. -/
def checkApproval (audit : AuditContext) (arguments : Arguments) :
    Option ApprovalRequest → Governed Unit
  | none =>
      audit.denied (audit.capability.qualifiedName ++ " requires reviewer approval")
        .policyDenied
  | some approval => do
      let moment ← ask .utcNow
      match approval.authorize audit.capability.server.val audit.capability.name.val
          approval.resourceId.val arguments moment with
      | .ok () => return ()
      | .error (.mismatch message) => audit.denied message .policyDenied
      | .error (.typeError message) => raise (.typeError message)

/-- `_execute`. -/
def execute (audit : AuditContext) (principal : Principal) (arguments : Arguments) :
    Governed InvocationResult := do
  let capability := audit.capability
  let started ← ask .utcNow
  let answered ← ask (.execute ⟨capability, principal, arguments⟩)
  match answered with
  | .error error =>
      ask (.recordFailure capability.server.val)
      let finished ← ask .utcNow
      let invocation ←
        audit.record .allow .failed error.errorClass (elapsedMs started finished)
      raise (.failed error.message invocation)
  | .ok raw =>
      ask (.recordSuccess capability.server.val)
      let content := sanitizeResult raw capability.maxResultBytes
      let outcome := if content.truncated then .failed else .succeeded
      let errorClass := if content.truncated then .resultTooLarge else .none
      let finished ← ask .utcNow
      let invocation ←
        audit.record .allow outcome errorClass (elapsedMs started finished)
      return ⟨invocation, content⟩

/-- The approval check, where the capability asks for one. -/
def requireApproval (audit : AuditContext) (request : InvokeRequest) : Governed Unit :=
  if audit.capability.requiresApproval then
    checkApproval audit request.arguments request.approval
  else
    return ()

/-- What `_invoke` does once the policy has allowed the call. -/
def runAllowed (audit : AuditContext) (request : InvokeRequest) :
    Governed InvocationResult := do
  requireApproval audit request
  let reserved ← ask (.reserveCall request.jobId request.budget)
  match reserved with
  | .error (.budgetExhausted message) => audit.denied message .budgetExhausted
  | .error refusal =>
      -- A call that cannot be counted against its budget is not made.
      audit.denied refusal.message .upstreamUnavailable
  | .ok _ =>
      let closed ← ask (.ensureClosed audit.capability.server.val)
      match closed with
      | .error refusal => audit.denied refusal.message .upstreamUnavailable
      | .ok () => execute audit request.principal request.arguments

/-- The audit context of a resolved call. -/
def auditContext (request : InvokeRequest) (capability : Capability)
    (policyVersion : String) : AuditContext where
  jobId := request.jobId
  taskId := request.taskId
  tenantId := request.principal.tenantId
  capability := capability
  sanitizedArguments := sanitizeArguments request.arguments
  argumentDigest := argumentDigest request.arguments
  policyVersion := policyVersion

/-- The request put to the policy engine. -/
def authorizationRequest (request : InvokeRequest) (capability : Capability) :
    AuthorizationRequest where
  principal := request.principal
  capability := capability
  jobId := request.jobId
  taskId := request.taskId
  arguments := request.arguments

/-- What `_invoke` does with a resolved capability. -/
def runResolved (request : InvokeRequest) (capability : Capability) :
    Governed InvocationResult := do
  let policyVersion ← ask .policyVersion
  let decision ← ask (.evaluate (authorizationRequest request capability))
  let audit :=
    (auditContext request capability policyVersion).withPolicyVersion
      decision.policyVersion
  if decision.allowed then
    runAllowed audit request
  else
    audit.denied decision.reason .policyDenied

/-- `_invoke`. -/
def invokeUnobserved (gateway : CapabilityGateway) (request : InvokeRequest) :
    Governed InvocationResult := do
  let capability ←
    lift
      ((gateway.registry.resolveFor request.principal request.server
        request.capabilityName).mapError .capabilityNotFound)
  runResolved request capability

/-- `_record`, as `_observe` ends: hand the record to the sink, if there is one,
and go on whatever the sink raises. -/
def observe (gateway : CapabilityGateway) (invocation : ToolInvocation) :
    Governed Unit :=
  if gateway.hasAudit then
    (ask (.audit invocation)).rescue fun _ => return ()
  else
    return ()

/-- The `except` branch of `invoke`: observe the record that a refusal or a
failure carries and raise it again. -/
def observeFault (gateway : CapabilityGateway) (fault : GatewayFault) :
    Governed InvocationResult :=
  match fault.invocation? with
  | some invocation => do
      gateway.observe invocation
      raise fault
  | none => raise fault

theorem observeFault_of_some {gateway : CapabilityGateway} {fault : GatewayFault}
    {invocation : ToolInvocation} (carried : fault.invocation? = some invocation) :
    gateway.observeFault fault =
      (gateway.observe invocation).bind fun _ => raise fault := by
  unfold observeFault
  rw [carried]
  rfl

/-- `invoke`. -/
def invoke (gateway : CapabilityGateway) (request : InvokeRequest) :
    Governed InvocationResult := do
  let result ← (gateway.invokeUnobserved request).rescue gateway.observeFault
  gateway.observe result.invocation
  return result

/-! ## What an invocation returns -/

section Returned

variable {State : Type} {monitor : Monitor GatewayCall GatewayCall.Answer GatewayFault State}
  {state : State} {gateway : CapabilityGateway} {request : InvokeRequest}
  {post : Capability → InvocationResult → Prop}

theorem promises_denied {α : Type} {audit : AuditContext} {reason : String}
    {errorClass : ErrorClass} {post : α → Prop} :
    Promises monitor (audit.denied reason errorClass) state post := by
  apply promises_bind_of_forall
  intro invocation _ value returned
  cases returned

/-- Only a call that is carried out returns, and it returns what its execution does. -/
theorem promises_invoke_of
    (executes : ∀ capability version state,
      Promises monitor (execute (auditContext request capability version) request.principal
        request.arguments) state (post capability)) :
    Promises monitor (gateway.invoke request) state fun result =>
      ∃ capability, gateway.registry.resolveFor request.principal request.server
          request.capabilityName = .ok capability ∧
        post capability result := by
  have allowed (capability : Capability) (version : String) (state : State) :
      Promises monitor (runAllowed (auditContext request capability version) request) state
        (post capability) := by
    apply promises_bind_of_forall
    intro _ _
    apply promises_perform_bind
    intro reserved _ _
    cases reserved with
    | error refusal => cases refusal <;> exact promises_denied
    | ok count =>
        apply promises_perform_bind
        intro closed _ _
        cases closed with
        | error refusal => exact promises_denied
        | ok _ => exact executes capability version _
  have resolved (capability : Capability) (state : State) :
      Promises monitor (runResolved request capability) state (post capability) := by
    apply promises_perform_bind
    intro version _ _
    apply promises_perform_bind
    intro decision _ _
    split
    · exact allowed capability _ _
    · exact promises_denied
  have unobserved : Promises monitor (gateway.invokeUnobserved request) state
      fun result => ∃ capability, gateway.registry.resolveFor request.principal
          request.server request.capabilityName = .ok capability ∧
        post capability result := by
    apply promises_bind (promises_lift.mpr fun _ found => mapError_eq_ok.mp found)
    intro capability found state
    apply (resolved capability state).mono
    intro outcome _ each result returned
    exact ⟨capability, found, each result returned⟩
  apply promises_bind (promises_rescue unobserved ?_)
  · intro result kept _
    apply promises_bind_of_forall
    intro _ _ other returned
    obtain rfl := Except.ok.inj returned
    exact kept
  · intro fault _
    unfold observeFault
    split
    · apply promises_bind_of_forall
      intro _ _ result returned
      cases returned
    · intro result returned
      cases returned

end Returned

/-! ## Sequences of invocations -/

/-- One invocation of a sequence with its run. -/
structure Served (World : Type) where
  request : InvokeRequest
  run : Run GatewayCall GatewayCall.Answer GatewayFault World InvocationResult

/-- Serve the requests in order, over one world that keeps the ledger, the
circuits, the audit trail and whatever else the collaborators share. -/
def serve {World : Type} (gateway : CapabilityGateway)
    (handler : Handler GatewayCall GatewayCall.Answer GatewayFault World) :
    World → List InvokeRequest → List (Served World)
  | _, [] => []
  | world, first :: rest =>
      let run := interpret handler (gateway.invoke first) world
      ⟨first, run⟩ :: serve gateway handler run.world rest

/-- Every invocation of a sequence was run from some world. -/
theorem exists_world_of_mem_serve {World : Type} {gateway : CapabilityGateway}
    {handler : Handler GatewayCall GatewayCall.Answer GatewayFault World}
    {world : World} {requests : List InvokeRequest} {served : Served World}
    (member : served ∈ gateway.serve handler world requests) :
    served.request ∈ requests ∧ ∃ before,
      served.run = interpret handler (gateway.invoke served.request) before := by
  induction requests generalizing world with
  | nil => cases member
  | cons first rest inductionHypothesis =>
      rcases List.mem_cons.mp member with rfl | later
      · exact ⟨List.mem_cons_self, world, rfl⟩
      · obtain ⟨requested, before, run⟩ := inductionHypothesis later
        exact ⟨List.mem_cons_of_mem _ requested, before, run⟩

end CapabilityGateway

end ResearchPlatform
