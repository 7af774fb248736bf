import ResearchPlatform.Foundation.Splits
import ResearchPlatform.Mcp.Gateway

/-!
# What stands before an executor call

Whatever the collaborators answer or raise, an invocation calls the executor at
most once, and only after a `Clearance`: the policy's verdict, the approval
check, the budget and the circuit, in this order.
-/

namespace ResearchPlatform

open Foundation Program

/-! ## Kinds of calls -/

namespace GatewayCall

def IsExecute : GatewayCall → Prop
  | execute _ => True
  | _ => False

def IsAudit : GatewayCall → Prop
  | audit _ => True
  | _ => False

/-- A call that neither reaches the executor nor the audit sink. -/
def IsQuiet (call : GatewayCall) : Prop := ¬ call.IsExecute ∧ ¬ call.IsAudit

end GatewayCall

open GatewayCall

/-- No event of the trace is an executor call. -/
def NothingExecuted (trace : List GatewayEvent) : Prop :=
  ∀ event ∈ trace, ¬ event.1.IsExecute

theorem NothingExecuted.append {first second : List GatewayEvent}
    (before : NothingExecuted first) (after : NothingExecuted second) :
    NothingExecuted (first ++ second) := by
  intro event member
  rcases List.mem_append.mp member with earlier | later
  · exact before event earlier
  · exact after event later

theorem NothingExecuted.snoc {trace : List GatewayEvent}
    (before : NothingExecuted trace) (call : GatewayCall)
    (answer : Except GatewayFault call.Answer) (quiet : ¬ call.IsExecute) :
    NothingExecuted (trace ++ [⟨call, answer⟩]) := by
  apply before.append
  intro event member
  rw [List.mem_singleton.mp member]
  exact quiet

/-! ## Clearances -/

/-- The approval handed in was checked at `checkedAt`, where one is required. -/
def ApprovalChecked (request : InvokeRequest) (capability : Capability)
    (checkedAt : Option Timestamp) : Prop :=
  if capability.requiresApproval then
    ∃ approval moment,
      request.approval = some approval ∧ checkedAt = some moment ∧
        approval.Authorizes capability.server.val capability.name.val
          approval.resourceId.val request.arguments moment
  else
    checkedAt = none

/-- What an invocation was told before it calls the executor. -/
structure Clearance (request : InvokeRequest) (capability : Capability) where
  version : String
  decision : PolicyDecision
  checkedAt : Option Timestamp
  count : Nat
  started : Timestamp
  allowed : decision.allowed = true
  approved : ApprovalChecked request capability checkedAt

/-- The reading of the clock that an approval check made. -/
def checkEvents (checkedAt : Option Timestamp) : List GatewayEvent :=
  checkedAt.toList.map fun moment => ⟨.utcNow, .ok moment⟩

/-- The verdict of the policy, as the first events of a resolved call. -/
def verdictEvents (request : InvokeRequest) (capability : Capability)
    (version : String) (decision : PolicyDecision) : List GatewayEvent :=
  [⟨.policyVersion, .ok version⟩,
    ⟨.evaluate (CapabilityGateway.authorizationRequest request capability),
      .ok decision⟩]

/-- The events of a clearance, in order. -/
def Clearance.events {request : InvokeRequest} {capability : Capability}
    (clearance : Clearance request capability) : List GatewayEvent :=
  verdictEvents request capability clearance.version clearance.decision ++
    (checkEvents clearance.checkedAt ++
      [⟨.reserveCall request.jobId request.budget, .ok (.ok clearance.count)⟩,
        ⟨.ensureClosed capability.server.val, .ok (.ok ())⟩,
        ⟨.utcNow, .ok clearance.started⟩])

theorem nothingExecuted_checkEvents (checkedAt : Option Timestamp) :
    NothingExecuted (checkEvents checkedAt) := by
  cases checkedAt <;> simp [NothingExecuted, checkEvents, IsExecute]

theorem nothingExecuted_verdictEvents (request : InvokeRequest)
    (capability : Capability) (version : String) (decision : PolicyDecision) :
    NothingExecuted (verdictEvents request capability version decision) := by
  simp [NothingExecuted, verdictEvents, IsExecute]

theorem Clearance.nothingExecuted {request : InvokeRequest} {capability : Capability}
    (clearance : Clearance request capability) :
    NothingExecuted clearance.events := by
  have limits : NothingExecuted
      [⟨.reserveCall request.jobId request.budget, .ok (.ok clearance.count)⟩,
        ⟨.ensureClosed capability.server.val, .ok (.ok ())⟩,
        ⟨.utcNow, .ok clearance.started⟩] := by
    simp [NothingExecuted, IsExecute]
  have check := nothingExecuted_checkEvents clearance.checkedAt
  exact (nothingExecuted_verdictEvents request capability clearance.version
    clearance.decision).append (check.append limits)

/-- The executor call of an invocation. -/
def executeEvent (request : InvokeRequest) (capability : Capability)
    (answer : Except GatewayFault (Except UpstreamError String)) : GatewayEvent :=
  ⟨.execute ⟨capability, request.principal, request.arguments⟩, answer⟩

/-- A trace that holds no executor call, or one, right after a clearance for the
capability that the registry resolved. -/
def ClearedTrace (gateway : CapabilityGateway) (request : InvokeRequest)
    (trace : List GatewayEvent) : Prop :=
  NothingExecuted trace ∨
    ∃ capability,
      gateway.registry.resolveFor request.principal request.server
          request.capabilityName = .ok capability ∧
        ∃ (clearance : Clearance request capability)
          (answer : Except GatewayFault (Except UpstreamError String))
          (rest : List GatewayEvent),
          NothingExecuted rest ∧
            trace = clearance.events ++ executeEvent request capability answer :: rest

theorem ClearedTrace.of_nothingExecuted {gateway : CapabilityGateway}
    {request : InvokeRequest} {trace : List GatewayEvent}
    (nothing : NothingExecuted trace) : ClearedTrace gateway request trace :=
  Or.inl nothing

/-- Further events leave a cleared trace cleared. -/
theorem ClearedTrace.append {gateway : CapabilityGateway} {request : InvokeRequest}
    {trace added : List GatewayEvent} (cleared : ClearedTrace gateway request trace)
    (quiet : NothingExecuted added) : ClearedTrace gateway request (trace ++ added) := by
  rcases cleared with nothing | ⟨capability, resolved, clearance, answer, rest, none, rfl⟩
  · exact Or.inl (nothing.append quiet)
  · exact Or.inr ⟨capability, resolved, clearance, answer, rest ++ added,
      none.append quiet, by simp⟩

/-- An executor call on a cleared trace stands right after a clearance. -/
theorem ClearedTrace.before_execute {gateway : CapabilityGateway}
    {request : InvokeRequest} {trace before after : List GatewayEvent}
    {executed : ExecutionRequest}
    {answer : Except GatewayFault (Except UpstreamError String)}
    (cleared : ClearedTrace gateway request trace)
    (split : trace = before ++ ⟨.execute executed, answer⟩ :: after) :
    ∃ capability,
      gateway.registry.resolveFor request.principal request.server
          request.capabilityName = .ok capability ∧
        executed = ⟨capability, request.principal, request.arguments⟩ ∧
        ∃ clearance : Clearance request capability, before = clearance.events := by
  rcases cleared with nothing | ⟨capability, resolved, clearance, told, rest, none, equal⟩
  · have member : (⟨.execute executed, answer⟩ : GatewayEvent) ∈ trace := by
      rw [split]
      exact List.mem_append_right before List.mem_cons_self
    exact absurd trivial (nothing _ member)
  · have agree := split_at_only_marked (fun event : GatewayEvent => event.1.IsExecute)
      (split.symm.trans equal) trivial clearance.nothingExecuted none
    have sameCall := congrArg Sigma.fst agree.2.1
    exact ⟨capability, resolved, by injection sameCall, clearance, agree.1⟩

/-! ## The walk through an invocation -/

section Walk

variable {admits : List GatewayEvent → GatewayEvent → Prop}
  {gateway : CapabilityGateway} {request : InvokeRequest} {capability : Capability}

theorem AuditContext.requests_record (audit : AuditContext)
    (decision : AuthorizationDecision) (outcome : InvocationOutcome)
    (errorClass : ErrorClass) (durationMs : Nat) :
    Requests IsQuiet (audit.record decision outcome errorClass durationMs) :=
  audit.requests_record_of ⟨id, id⟩ ⟨id, id⟩ decision outcome errorClass durationMs

theorem AuditContext.requests_denied {α : Type} (audit : AuditContext)
    (reason : String) (errorClass : ErrorClass) :
    Requests IsQuiet (audit.denied reason errorClass : Governed α) :=
  audit.requests_denied_of ⟨id, id⟩ ⟨id, id⟩ reason errorClass

theorem CapabilityGateway.requests_observe (gateway : CapabilityGateway)
    (invocation : ToolInvocation) :
    Requests (¬ IsExecute ·) (gateway.observe invocation) := by
  unfold observe
  split
  · apply requests_rescue
    · exact requests_perform.mpr id
    · intro fault
      exact requests_finish
  · exact requests_finish

theorem CapabilityGateway.requests_observeFault (gateway : CapabilityGateway)
    (fault : GatewayFault) : Requests (¬ IsExecute ·) (gateway.observeFault fault) := by
  unfold observeFault
  cases fault.invocation? with
  | none => exact requests_finish
  | some invocation =>
      exact requests_bind (gateway.requests_observe invocation) fun _ => requests_finish

/-- A program without executor calls keeps a trace cleared. -/
theorem ensures_cleared {α : Type} {program : Governed α} {log : List GatewayEvent}
    (quiet : Requests (¬ IsExecute ·) program)
    (cleared : ClearedTrace gateway request log) :
    Ensures (Monitor.recorder admits) program log fun _ after =>
      ClearedTrace gateway request after := by
  apply (quiet.ensures log).mono
  intro _ after extended
  obtain ⟨added, unexecuted, rfl⟩ := extended
  exact cleared.append unexecuted

/-- One call that is no executor call, then the rest. -/
theorem ensures_ask_bind {α : Type} {call : GatewayCall}
    {next : call.Answer → Governed α} {log : List GatewayEvent}
    {post : Except GatewayFault α → List GatewayEvent → Prop}
    (faulted : ∀ fault, admits log ⟨call, .error fault⟩ →
      post (.error fault) (log ++ [⟨call, .error fault⟩]))
    (answered : ∀ value, admits log ⟨call, .ok value⟩ →
      Ensures (Monitor.recorder admits) (next value) (log ++ [⟨call, .ok value⟩]) post) :
    Ensures (Monitor.recorder admits) ((ask call).bind next) log post := by
  apply ensures_perform_bind.mpr
  intro answer admitted
  cases answer with
  | ok value => exact answered value admitted
  | error fault => exact faulted fault admitted

/-- The executor is called from a log that a reading of the clock makes a
clearance. -/
theorem ensures_execute_cleared {audit : AuditContext} {log : List GatewayEvent}
    (resolved : gateway.registry.resolveFor request.principal request.server
      request.capabilityName = .ok audit.capability)
    (nothing : NothingExecuted log)
    (clears : ∀ started, ∃ clearance : Clearance request audit.capability,
      clearance.events = log ++ [⟨.utcNow, .ok started⟩]) :
    Ensures (Monitor.recorder admits)
      (CapabilityGateway.execute audit request.principal request.arguments) log
      fun _ after => ClearedTrace gateway request after := by
  apply ensures_ask_bind
  · intro fault _
    exact ClearedTrace.of_nothingExecuted (nothing.snoc _ (.error fault) id)
  · intro started _
    obtain ⟨clearance, events⟩ := clears started
    have executed (answer : Except GatewayFault (Except UpstreamError String)) :
        ClearedTrace gateway request
          (log ++ [⟨.utcNow, .ok started⟩] ++
            [executeEvent request audit.capability answer]) := by
      rw [← events]
      exact Or.inr ⟨audit.capability, resolved, clearance, answer, [],
        by simp [NothingExecuted], rfl⟩
    apply ensures_ask_bind
    · intro fault _
      exact executed (.error fault)
    · intro answered _
      apply ensures_cleared ?_ (executed (.ok answered))
      have recorded (decision : AuthorizationDecision) (outcome : InvocationOutcome)
          (errorClass : ErrorClass) (durationMs : Nat) :
          Requests (¬ IsExecute ·)
            (audit.record decision outcome errorClass durationMs) :=
        (audit.requests_record decision outcome errorClass durationMs).mono
          fun _ => And.left
      cases answered with
      | error error =>
          apply requests_bind (requests_perform.mpr id)
          intro _
          apply requests_bind (requests_perform.mpr id)
          intro finished
          exact requests_bind (recorded ..) fun _ => requests_finish
      | ok raw =>
          apply requests_bind (requests_perform.mpr id)
          intro _
          apply requests_bind (requests_perform.mpr id)
          intro finished
          exact requests_bind (recorded ..) fun _ => requests_finish

/-- A refusal raises, and adds no executor call. -/
theorem ensures_denied {α : Type} {audit : AuditContext} {reason : String}
    {errorClass : ErrorClass} {log : List GatewayEvent}
    {post : Except GatewayFault α → List GatewayEvent → Prop}
    (nothing : NothingExecuted log)
    (raised : ∀ fault after, NothingExecuted after → post (.error fault) after) :
    Ensures (Monitor.recorder admits) (audit.denied reason errorClass) log post := by
  apply ensures_bind.mpr
  have recorded := audit.requests_record (AuditContext.refusalDecision errorClass)
    .denied errorClass 0
  apply (recorded.ensures log).mono
  intro outcome after extended
  obtain ⟨added, quiet, rfl⟩ := extended
  have still : NothingExecuted (log ++ added) :=
    nothing.append fun event member => (quiet event member).1
  cases outcome with
  | ok invocation => exact raised _ _ still
  | error fault => exact raised _ _ still

/-- What the approval check leaves: an accepted approval, or no executor call. -/
def Approved (request : InvokeRequest) (capability : Capability)
    (log : List GatewayEvent) :
    Except GatewayFault Unit → List GatewayEvent → Prop
  | .ok (), after => ∃ checkedAt,
      ApprovalChecked request capability checkedAt ∧
        after = log ++ checkEvents checkedAt
  | .error _, after => NothingExecuted after

theorem ensures_requireApproval {audit : AuditContext} {log : List GatewayEvent}
    (nothing : NothingExecuted log) :
    Ensures (Monitor.recorder admits) (CapabilityGateway.requireApproval audit request)
      log (Approved request audit.capability log) := by
  unfold CapabilityGateway.requireApproval
  split
  · rename_i required
    cases given : request.approval with
    | none => exact ensures_denied nothing fun _ _ unexecuted => unexecuted
    | some approval =>
        apply ensures_ask_bind
        · intro fault _
          exact nothing.snoc _ (.error fault) id
        · intro moment _
          have checked : NothingExecuted (log ++ [⟨.utcNow, .ok moment⟩]) :=
            nothing.snoc _ (.ok moment) id
          split
          · rename_i accepted
            have authorizes := ApprovalRequest.authorize_eq_ok_iff.mp accepted
            refine ⟨some moment, ?_, rfl⟩
            rw [ApprovalChecked, if_pos required]
            exact ⟨approval, moment, given, rfl, authorizes⟩
          · exact ensures_denied checked fun _ _ unexecuted => unexecuted
          · exact checked
  · rename_i notRequired
    refine ⟨none, ?_, by simp [checkEvents]⟩
    rw [ApprovalChecked, if_neg notRequired]

/-- From an allowing verdict on. -/
theorem ensures_runAllowed_cleared {audit : AuditContext} {version : String}
    {decision : PolicyDecision}
    (resolved : gateway.registry.resolveFor request.principal request.server
      request.capabilityName = .ok audit.capability)
    (allowed : decision.allowed = true) :
    Ensures (Monitor.recorder admits) (CapabilityGateway.runAllowed audit request)
      (verdictEvents request audit.capability version decision)
      fun _ after => ClearedTrace gateway request after := by
  have nothing := nothingExecuted_verdictEvents request audit.capability version decision
  apply ensures_bind.mpr
  apply (ensures_requireApproval nothing).mono
  intro outcome log approved
  cases outcome with
  | error fault => exact ClearedTrace.of_nothingExecuted approved
  | ok _ =>
      obtain ⟨checkedAt, checked, rfl⟩ := approved
      have stillNothing := nothing.append (nothingExecuted_checkEvents checkedAt)
      apply ensures_ask_bind
      · intro fault _
        exact ClearedTrace.of_nothingExecuted (stillNothing.snoc _ (.error fault) id)
      · intro reserved _
        have afterReserve := 
          stillNothing.snoc (.reserveCall request.jobId request.budget) (.ok reserved) id
        rcases reserved with refusal | count
        · cases refusal <;>
            exact ensures_denied afterReserve fun _ _ => ClearedTrace.of_nothingExecuted
        · apply ensures_ask_bind
          · intro fault _
            exact ClearedTrace.of_nothingExecuted (afterReserve.snoc _ (.error fault) id)
          · intro closed _
            have afterClosed := 
              afterReserve.snoc (.ensureClosed audit.capability.server.val) (.ok closed) id
            rcases closed with refusal | _
            · exact ensures_denied afterClosed fun _ _ =>
                ClearedTrace.of_nothingExecuted
            · apply ensures_execute_cleared resolved afterClosed
              intro started
              exact ⟨⟨version, decision, checkedAt, count, started, allowed, checked⟩,
                by simp [Clearance.events]⟩

theorem ensures_runResolved_cleared
    (resolved : gateway.registry.resolveFor request.principal request.server
      request.capabilityName = .ok capability) :
    Ensures (Monitor.recorder admits)
      (CapabilityGateway.runResolved request capability) []
      fun _ after => ClearedTrace gateway request after := by
  have nothing : NothingExecuted [] := by simp [NothingExecuted]
  apply ensures_ask_bind
  · intro fault _
    exact ClearedTrace.of_nothingExecuted (nothing.snoc _ (.error fault) id)
  · intro version _
    have afterVersion : NothingExecuted [⟨.policyVersion, .ok version⟩] :=
      nothing.snoc _ (.ok version) id
    apply ensures_ask_bind
    · intro fault _
      exact ClearedTrace.of_nothingExecuted (afterVersion.snoc _ (.error fault) id)
    · intro decision _
      split
      · rename_i allowed
        exact ensures_runAllowed_cleared resolved allowed
      · have afterVerdict :=
          nothingExecuted_verdictEvents request capability version decision
        exact ensures_denied afterVerdict fun _ _ => ClearedTrace.of_nothingExecuted

/-- Every trace of an invocation is cleared. -/
theorem ensures_invoke_cleared :
    Ensures (Monitor.recorder admits) (gateway.invoke request) []
      fun _ after => ClearedTrace gateway request after := by
  have unobserved : Ensures (Monitor.recorder admits)
      (gateway.invokeUnobserved request) []
      fun _ after => ClearedTrace gateway request after := by
    unfold CapabilityGateway.invokeUnobserved
    cases resolved : gateway.registry.resolveFor request.principal request.server
        request.capabilityName with
    | error missing => exact ClearedTrace.of_nothingExecuted (by simp [NothingExecuted])
    | ok capability => exact ensures_runResolved_cleared resolved
  apply ensures_bind.mpr
  apply ensures_rescue.mpr
  apply unobserved.mono
  intro outcome log cleared
  cases outcome with
  | ok result =>
      have observed := gateway.requests_observe result.invocation
      exact ensures_cleared (requests_bind observed fun _ => requests_finish) cleared
  | error fault =>
      have recovered := gateway.requests_observeFault fault
      apply ensures_bind.mp
      apply ensures_cleared ?_ cleared
      apply requests_bind recovered
      intro result
      have observed := gateway.requests_observe result.invocation
      exact requests_bind observed fun _ => requests_finish

end Walk

/-- In any run of an invocation, an executor call stands right after a clearance
for the capability that the registry resolved. -/
theorem clearance_before_execute {World : Type} {gateway : CapabilityGateway}
    {request : InvokeRequest}
    {handler : Handler GatewayCall GatewayCall.Answer GatewayFault World}
    {world : World} {before after : List GatewayEvent} {executed : ExecutionRequest}
    {answer : Except GatewayFault (Except UpstreamError String)}
    (split : (interpret handler (gateway.invoke request) world).trace =
      before ++ ⟨.execute executed, answer⟩ :: after) :
    ∃ capability,
      gateway.registry.resolveFor request.principal request.server
          request.capabilityName = .ok capability ∧
        executed = ⟨capability, request.principal, request.arguments⟩ ∧
        ∃ clearance : Clearance request capability, before = clearance.events := by
  exact ensures_invoke_cleared.sound_always.before_execute split

end ResearchPlatform
