import ResearchPlatform.Properties.GatewayContract

/-!
# What an approval is bound to

The gateway compares an approval's server, capability, status, expiry and digest
with the call, and its resource with itself.  So the executor calls it clears are
bound to one tenant, job and resource exactly where the approvals handed in were.
-/

namespace ResearchPlatform

open Foundation Program

section Binding

-- The resource that a call acts on, which the gateway is not told.
variable (resourceOf : Capability → Arguments → String)

/-- The approval authorizes exactly this call at this moment. -/
structure BoundToCall (request : InvokeRequest) (capability : Capability)
    (moment : Timestamp) (approval : ApprovalRequest) : Prop where
  granted : approval.status = .granted
  unexpired : approval.expiresAt.hasZone = true ∧ moment < approval.expiresAt.micros
  sameTenant : approval.tenantId = request.principal.tenantId
  sameJob : approval.jobId = request.jobId
  sameServer : approval.mcpServer.val = capability.server.val
  sameCapability : approval.capability.val = capability.name.val
  sameResource : approval.resourceId.val = resourceOf capability request.arguments
  sameArguments : approval.argumentDigest = argumentDigest request.arguments

/-- The approval was granted for this tenant, job and resource, and outlasts this
moment. -/
structure GrantedForCall (request : InvokeRequest) (capability : Capability)
    (moment : Timestamp) (approval : ApprovalRequest) : Prop where
  outlasts : moment < approval.expiresAt.micros
  sameTenant : approval.tenantId = request.principal.tenantId
  sameJob : approval.jobId = request.jobId
  sameResource : approval.resourceId.val = resourceOf capability request.arguments

/-- Every executor call that needs an approval was made, right after a reading of
the clock, with an approval that `bound` accepts at that moment. -/
def ApprovedCalls
    (bound : InvokeRequest → Capability → Timestamp → ApprovalRequest → Prop)
    (request : InvokeRequest) (trace : List GatewayEvent) : Prop :=
  ∀ before executed answer after,
    trace = before ++ ⟨.execute executed, answer⟩ :: after →
      executed.capability.requiresApproval = true →
        ∃ approval earlier moment,
          request.approval = some approval ∧
            before = earlier ++ [⟨.utcNow, .ok moment⟩] ∧
            bound request executed.capability moment approval

theorem ApprovedCalls.mono {request : InvokeRequest} {trace : List GatewayEvent}
    {strict loose : InvokeRequest → Capability → Timestamp → ApprovalRequest → Prop}
    (holds : ApprovedCalls strict request trace)
    (implies : ∀ capability moment approval,
      strict request capability moment approval →
        loose request capability moment approval) :
    ApprovedCalls loose request trace := by
  intro before executed answer after split required
  obtain ⟨approval, earlier, moment, given, reading, bound⟩ :=
    holds before executed answer after split required
  exact ⟨approval, earlier, moment, given, reading, implies _ _ _ bound⟩

variable {resourceOf}

theorem BoundToCall.grantedForCall {request : InvokeRequest} {capability : Capability}
    {moment : Timestamp} {approval : ApprovalRequest}
    (bound : BoundToCall resourceOf request capability moment approval) :
    GrantedForCall resourceOf request capability moment approval :=
  ⟨bound.unexpired.2, bound.sameTenant, bound.sameJob, bound.sameResource⟩

/-- What the gateway compares completes what the approval was granted for. -/
theorem GrantedForCall.boundToCall {request : InvokeRequest} {capability : Capability}
    {moment checkedAt : Timestamp} {approval : ApprovalRequest}
    (granted : GrantedForCall resourceOf request capability moment approval)
    (authorizes : approval.Authorizes capability.server.val capability.name.val
      approval.resourceId.val request.arguments checkedAt) :
    BoundToCall resourceOf request capability moment approval where
  granted := authorizes.granted
  unexpired := ⟨authorizes.zoned, granted.outlasts⟩
  sameTenant := granted.sameTenant
  sameJob := granted.sameJob
  sameServer := authorizes.sameServer
  sameCapability := authorizes.sameCapability
  sameResource := granted.sameResource
  sameArguments := authorizes.sameArguments

/-- One invocation's executor calls are bound exactly where its approval was
granted for them. -/
theorem approvedCalls_iff {World : Type} {gateway : CapabilityGateway}
    {handler : Handler GatewayCall GatewayCall.Answer GatewayFault World}
    {request : InvokeRequest} {world : World} :
    ApprovedCalls (BoundToCall resourceOf) request
        (interpret handler (gateway.invoke request) world).trace ↔
      ApprovedCalls (GrantedForCall resourceOf) request
        (interpret handler (gateway.invoke request) world).trace := by
  constructor
  · intro bound
    apply bound.mono
    intro capability moment approval boundToCall
    exact boundToCall.grantedForCall
  · intro granted before executed answer after split required
    obtain ⟨approval, earlier, moment, given, reading, grantedForCall⟩ :=
      granted before executed answer after split required
    obtain ⟨capability, -, rfl, clearance, -⟩ := clearance_before_execute split
    have checked := clearance.approved
    rw [ApprovalChecked, if_pos required] at checked
    obtain ⟨checkedApproval, checkedAt, alsoGiven, -, authorizes⟩ := checked
    obtain rfl : approval = checkedApproval :=
      Option.some.inj (given.symm.trans alsoGiven)
    exact ⟨approval, earlier, moment, given, reading,
      grantedForCall.boundToCall authorizes⟩

end Binding

/-- Over every sequence of invocations: approvals bind the executor calls to
their own tenant, job and resource exactly where they were granted for them and
outlast them. -/
theorem approvals_bind_iff {World : Type}
    (resourceOf : Capability → Arguments → String) (gateway : CapabilityGateway)
    (handler : Handler GatewayCall GatewayCall.Answer GatewayFault World)
    (world : World) (requests : List InvokeRequest) :
    (∀ served ∈ gateway.serve handler world requests,
      ApprovedCalls (BoundToCall resourceOf) served.request served.run.trace) ↔
    (∀ served ∈ gateway.serve handler world requests,
      ApprovedCalls (GrantedForCall resourceOf) served.request served.run.trace) := by
  apply forall_congr'
  intro served
  apply imp_congr_right
  intro member
  obtain ⟨-, before, run⟩ := CapabilityGateway.exists_world_of_mem_serve member
  rw [run]
  exact approvedCalls_iff

/-! ## An approval of another tenant -/

namespace SalesQuery

/-- The approval of the call, but granted for another tenant, job and resource. -/
def foreignApproval : ApprovalRequest :=
  { approval true with
    jobId := 9
    tenantId := "globex"
    resourceId := ⟨"schema:globex", by decide⟩ }

def foreignCall : InvokeRequest :=
  { call true with approval := some foreignApproval }

/-- The schema of the tenant that the query runs in. -/
def schemaOf (_ : Capability) (_ : Arguments) : String := "schema:acme"

/-- An executor call of a capability that requires approval. -/
def executesApproved : GatewayCall → Bool
  | .execute executed => executed.capability.requiresApproval
  | _ => false

end SalesQuery

open SalesQuery

/-- An approval of another tenant, job and resource clears the executor call. -/
theorem foreign_approval_clears_call :
    foreignApproval.tenantId ≠ foreignCall.principal.tenantId ∧
      foreignApproval.jobId ≠ foreignCall.jobId ∧
      foreignApproval.resourceId.val ≠ schemaOf capability foreignCall.arguments ∧
      ¬ ∀ served ∈ gateway.serve (handler .allow) () [foreignCall],
        ApprovedCalls (BoundToCall schemaOf) served.request served.run.trace := by
  have otherTenant : foreignApproval.tenantId ≠ foreignCall.principal.tenantId := by
    decide
  refine ⟨otherTenant, by decide, by decide, ?_⟩
  intro bound
  have executes :
      (interpret (handler .allow) (gateway.invoke foreignCall) ()).trace.any
        (fun event => executesApproved event.1) = true := by
    decide +kernel
  obtain ⟨⟨call, answer⟩, member, isExecute⟩ := List.any_eq_true.mp executes
  cases call with
  | execute executed =>
      obtain ⟨before, after, split⟩ := List.append_of_mem member
      obtain ⟨approval, earlier, moment, given, -, boundToCall⟩ :=
        bound _ (List.mem_singleton.mpr rfl) before executed answer after split isExecute
      obtain rfl := Option.some.inj given
      exact otherTenant boundToCall.sameTenant
  | _ => cases isExecute

end ResearchPlatform
