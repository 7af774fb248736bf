import ResearchPlatform.Foundation.Pool
import ResearchPlatform.Properties.GatewayContract

/-!
# What the records of a call have in common

A record that the gateway makes is made from the audit context of its call.  So what holds of
every such record holds of what the sink is handed, of what the caller is returned and of what
a refusal carries, whatever a monitor follows at the same time.
-/

namespace ResearchPlatform

open Foundation Program

/-- The call neither decides nor hands over a record. -/
def GatewayCall.IsPlain : GatewayCall → Prop
  | evaluate _ | audit _ => False
  | _ => True

/-- The exceptions of the collaborators carry no audit record. -/
def UnrecordedFaults (trace : List GatewayEvent) : Prop :=
  ∀ event ∈ trace, ∀ fault, event.2 = .error fault → fault.invocation? = none

/-- A record that the sink or the caller is given. -/
def RecordedIn {World : Type} (invocation : ToolInvocation)
    (run : Run GatewayCall GatewayCall.Answer GatewayFault World InvocationResult) : Prop :=
  invocation ∈ auditedOf run.trace ∨ recordOf run.outcome = some invocation

/-- The record is made from the context. -/
def MadeFrom (audit : AuditContext) (invocation : ToolInvocation) : Prop :=
  ∃ decision outcome errorClass durationMs id startedAt,
    invocation.toInvocationFields =
      audit.fields decision outcome errorClass durationMs id startedAt

section Records

variable {α β State : Type} {monitor : Monitor GatewayCall GatewayCall.Answer GatewayFault State}
  {permits : State → GatewayCall → Prop} {state : State} {keeps : ToolInvocation → Prop}
  {audit : AuditContext} {request : InvokeRequest} {gateway : CapabilityGateway}

/-- Plain calls are permitted and leave the state, and no fault that answers them carries a
record. -/
structure AllowsPlain (monitor : Monitor GatewayCall GatewayCall.Answer GatewayFault State)
    (permits : State → GatewayCall → Prop) (state : State) : Prop where
  permitted : ∀ call : GatewayCall, call.IsPlain → permits state call
  still : ∀ (call : GatewayCall) answer, call.IsPlain →
    monitor.observe state ⟨call, answer⟩ = state
  unrecorded : ∀ (call : GatewayCall) fault, monitor.admits state ⟨call, .error fault⟩ →
    fault.invocation? = none

/-- The state stays, and a fault carries no record but of this kind. -/
def Records (state : State) (keeps : ToolInvocation → Prop) (good : α → Prop) :
    Except GatewayFault α → State → Prop
  | .ok value, last => last = state ∧ good value
  | .error fault, last => last = state ∧
      ∀ invocation, fault.invocation? = some invocation → keeps invocation

/-- A fault that carries no record. -/
theorem records_error {fault : GatewayFault} {good : α → Prop}
    (unrecorded : fault.invocation? = none) :
    Records state keeps good (.error fault) state := by
  refine ⟨rfl, ?_⟩
  intro invocation carried
  rw [unrecorded] at carried
  cases carried

theorem recording_bind {program : Governed α} {next : α → Governed β} {good : α → Prop}
    {better : β → Prop} (first : Guarded monitor permits program state (Records state keeps good))
    (rest : ∀ value, good value →
      Guarded monitor permits (next value) state (Records state keeps better)) :
    Guarded monitor permits (program.bind next) state (Records state keeps better) := by
  apply guarded_bind.mpr
  apply first.mono
  intro outcome last records
  cases outcome with
  | ok value =>
      obtain ⟨rfl, isGood⟩ := records
      exact rest value isGood
  | error fault => exact records

theorem recording_ask_bind (plain : AllowsPlain monitor permits state) {call : GatewayCall}
    (isPlain : call.IsPlain) {next : call.Answer → Governed β} {better : β → Prop}
    (rest : ∀ value,
      Guarded monitor permits (next value) state (Records state keeps better)) :
    Guarded monitor permits ((ask call).bind next) state (Records state keeps better) := by
  refine ⟨plain.permitted call isPlain, ?_⟩
  intro answer admitted
  rw [plain.still call answer isPlain]
  cases answer with
  | ok value => exact rest value
  | error fault => exact records_error (plain.unrecorded call fault admitted)

variable (plain : AllowsPlain monitor permits state)
  (kept : ∀ invocation, MadeFrom audit invocation → keeps invocation)
include plain kept

theorem recording_record {decision : AuthorizationDecision} {outcome : InvocationOutcome}
    {errorClass : ErrorClass} {durationMs : Nat} :
    Guarded monitor permits (audit.record decision outcome errorClass durationMs) state
      (Records state keeps keeps) := by
  apply recording_ask_bind plain
  · trivial
  intro identifier
  apply recording_ask_bind plain
  · trivial
  intro startedAt
  unfold ToolInvocation.validate
  split
  · exact ⟨rfl, kept _ ⟨decision, outcome, errorClass, durationMs, identifier, startedAt, rfl⟩⟩
  · exact records_error rfl

theorem recording_denied {reason : String} {errorClass : ErrorClass} {good : α → Prop} :
    Guarded monitor permits (audit.denied reason errorClass : Governed α) state
      (Records state keeps good) := by
  refine recording_bind (recording_record plain kept) ?_
  intro invocation isKept
  refine ⟨rfl, ?_⟩
  intro carried same
  rw [← Option.some.inj same]
  exact isKept

theorem recording_requireApproval :
    Guarded monitor permits (CapabilityGateway.requireApproval audit request) state
      (Records state keeps fun _ => True) := by
  unfold CapabilityGateway.requireApproval
  split
  · cases request.approval with
    | none => exact recording_denied plain kept
    | some approval =>
        apply recording_ask_bind plain
        · trivial
        intro moment
        split
        · exact ⟨rfl, trivial⟩
        · exact recording_denied plain kept
        · exact records_error rfl
  · exact ⟨rfl, trivial⟩

theorem recording_execute {principal : Principal} {arguments : Arguments} :
    Guarded monitor permits (CapabilityGateway.execute audit principal arguments) state
      (Records state keeps fun result => keeps result.invocation) := by
  apply recording_ask_bind plain
  · trivial
  intro started
  apply recording_ask_bind plain
  · trivial
  intro answered
  cases answered with
  | error error =>
      apply recording_ask_bind plain
      · trivial
      intro _
      apply recording_ask_bind plain
      · trivial
      intro finished
      refine recording_bind (recording_record plain kept) ?_
      intro invocation isKept
      refine ⟨rfl, ?_⟩
      intro carried same
      rw [← Option.some.inj same]
      exact isKept
  | ok raw =>
      apply recording_ask_bind plain
      · trivial
      intro _
      apply recording_ask_bind plain
      · trivial
      intro finished
      refine recording_bind (recording_record plain kept) ?_
      intro invocation isKept
      exact ⟨rfl, isKept⟩

theorem recording_runAllowed :
    Guarded monitor permits (CapabilityGateway.runAllowed audit request) state
      (Records state keeps fun result => keeps result.invocation) := by
  refine recording_bind (recording_requireApproval plain kept) ?_
  intro _ _
  apply recording_ask_bind plain
  · trivial
  intro reserved
  cases reserved with
  | error refusal => cases refusal <;> exact recording_denied plain kept
  | ok count =>
      apply recording_ask_bind plain
      · trivial
      intro closed
      cases closed with
      | error refusal => exact recording_denied plain kept
      | ok => exact recording_execute plain kept

/-- What a call does once it is decided. -/
theorem recording_decided {decision : PolicyDecision} :
    Guarded monitor permits
      (if decision.allowed then CapabilityGateway.runAllowed audit request
      else audit.denied decision.reason .policyDenied) state
      (Records state keeps fun result => keeps result.invocation) := by
  split
  · exact recording_runAllowed plain kept
  · exact recording_denied plain kept

end Records

/-! ## Records on their way out -/

section Observed

variable {State : Type} {monitor : Monitor GatewayCall GatewayCall.Answer GatewayFault State}
  {permits : State → GatewayCall → Prop} {state : State}
  {keeps : State → ToolInvocation → Prop} {request : InvokeRequest}
  {gateway : CapabilityGateway}

/-- The record of the outcome, if there is one, is of this kind. -/
def KeepsRecord (keeps : State → ToolInvocation → Prop)
    (outcome : Except GatewayFault InvocationResult) (last : State) : Prop :=
  ∀ invocation, recordOf outcome = some invocation → keeps last invocation

theorem keepsRecord_of_records {outcome : Except GatewayFault InvocationResult} {last : State}
    (records : Records state (keeps state) (fun result => keeps state result.invocation) outcome
      last) : KeepsRecord keeps outcome last := by
  intro invocation recorded
  cases outcome with
  | ok result =>
      obtain ⟨rfl, isKept⟩ := records
      rw [← Option.some.inj recorded]
      exact isKept
  | error fault =>
      obtain ⟨rfl, isKept⟩ := records
      exact isKept invocation recorded

/-- The record goes to the sink as it is. -/
theorem guarded_observe {invocation : ToolInvocation}
    {ends : Except GatewayFault Unit → State → Prop}
    (permitted : permits state (.audit invocation))
    (still : ∀ answer, monitor.observe state ⟨.audit invocation, answer⟩ = state)
    (ended : ends (.ok ()) state) :
    Guarded monitor permits (gateway.observe invocation) state ends := by
  unfold CapabilityGateway.observe
  split
  · apply guarded_rescue.mpr
    refine ⟨permitted, ?_⟩
    intro answer _
    rw [still]
    cases answer with
    | ok stored => exact ended
    | error fault => exact ended
  · exact ended

/-- What `_invoke` keeps of its record, `invoke` keeps. -/
theorem guarded_invoke_of
    (permitted : ∀ state invocation, keeps state invocation → permits state (.audit invocation))
    (still : ∀ state invocation answer,
      monitor.observe state ⟨.audit invocation, answer⟩ = state)
    (first : Guarded monitor permits (gateway.invokeUnobserved request) state
      (KeepsRecord keeps)) :
    Guarded monitor permits (gateway.invoke request) state (KeepsRecord keeps) := by
  apply guarded_bind.mpr
  apply guarded_rescue.mpr
  apply first.mono
  intro outcome last isKept
  cases outcome with
  | ok result =>
      apply guarded_bind.mpr
      exact guarded_observe (permitted last _ (isKept result.invocation rfl))
        (still last result.invocation) isKept
  | error fault =>
      cases carried : fault.invocation? with
      | none =>
          have unobserved : gateway.observeFault fault = raise fault := by
            unfold CapabilityGateway.observeFault
            rw [carried]
          change Guarded monitor permits (gateway.observeFault fault) last _
          rw [unobserved]
          exact isKept
      | some invocation =>
          change Guarded monitor permits (gateway.observeFault fault) last _
          rw [CapabilityGateway.observeFault_of_some carried]
          apply guarded_bind.mpr
          exact guarded_observe (permitted last _ (isKept invocation carried))
            (still last invocation) isKept

end Observed

end ResearchPlatform
