import Mathlib.Data.String.Basic
import ResearchPlatform.Foundation.Codes
import ResearchPlatform.Foundation.Coupling
import ResearchPlatform.Foundation.Ordering
import ResearchPlatform.Foundation.Service
import ResearchPlatform.Mcp.Gateway

/-!
# What a caller learns of the catalogue

Two registries that agree on what a principal may see are the same to that principal:
whatever it discovers, resolves and invokes, it is answered alike, and the budgets and
the circuits end alike.
-/

namespace ResearchPlatform

open Foundation Program

/-! ## Two registries -/

namespace CapabilityRegistry

variable {first second registry : CapabilityRegistry} {principal : Principal}
  {capability : Capability} {server name : String}

/-- The capability is registered. -/
def Registers (registry : CapabilityRegistry) (capability : Capability) : Prop :=
  registry.get capability.server.val capability.name.val = .ok capability

/-- The registries agree on the capabilities that the principal sees. -/
def AgreeFor (principal : Principal) (first second : CapabilityRegistry) : Prop :=
  ∀ capability, capability.isVisibleTo principal = true →
    (first.Registers capability ↔ second.Registers capability)

theorem AgreeFor.symm (agree : AgreeFor principal first second) :
    AgreeFor principal second first :=
  fun capability visible => (agree capability visible).symm

theorem registers_of_get (found : registry.get server name = .ok capability) :
    registry.Registers capability := by
  obtain ⟨rfl, rfl⟩ := Prod.mk.inj (registry.keyed (get_eq_ok_iff.mp found))
  exact found

theorem AgreeFor.resolveFor_ok (agree : AgreeFor principal first second)
    (resolved : first.resolveFor principal server name = .ok capability) :
    second.resolveFor principal server name = .ok capability := by
  obtain ⟨found, visible⟩ := resolveFor_eq_ok_iff.mp resolved
  obtain ⟨rfl, rfl⟩ := names_of_resolveFor resolved
  apply resolveFor_eq_ok_iff.mpr
  exact ⟨(agree capability visible).mp (registers_of_get found), visible⟩

theorem AgreeFor.resolveFor_eq (agree : AgreeFor principal first second)
    (server name : String) :
    first.resolveFor principal server name = second.resolveFor principal server name := by
  cases here : first.resolveFor principal server name with
  | ok capability => exact (agree.resolveFor_ok here).symm
  | error missing =>
      cases there : second.resolveFor principal server name with
      | ok capability =>
          have resolved := agree.symm.resolveFor_ok there
          rw [here] at resolved
          cases resolved
      | error other => rw [resolveFor_eq_error here, resolveFor_eq_error there]

/-! ## The listing -/

theorem mem_capabilities_iff :
    capability ∈ registry.capabilities.entries.map Prod.snd ↔
      registry.Registers capability := by
  rw [Registers, get_eq_ok_iff]
  constructor
  · intro member
    obtain ⟨⟨key, registered⟩, entry, rfl⟩ := List.mem_map.mp member
    have found := Dict.get?_of_mem_entries entry
    rw [registry.keyed found]
    exact found
  · intro found
    exact List.mem_map_of_mem (Dict.mem_entries_of_get? found)

/-- No capability is registered twice: its own server and name are its key. -/
theorem nodup_capabilities (registry : CapabilityRegistry) :
    (registry.capabilities.entries.map Prod.snd).Nodup := by
  apply List.Nodup.of_map Capability.key
  have keys : (registry.capabilities.entries.map Prod.snd).map Capability.key =
      registry.capabilities.entries.map Prod.fst := by
    rw [List.map_map]
    apply List.map_congr_left
    intro entry member
    exact registry.keyed (Dict.get?_of_mem_entries member)
  rw [keys]
  exact registry.capabilities.keysDistinct

theorem not_mem_name {text : List Char} (named : isName text = true) : '.' ∉ text := by
  intro member
  cases text with
  | nil => cases member
  | cons first rest =>
      obtain ⟨start, others⟩ := Bool.and_eq_true_iff.mp named
      rcases List.mem_cons.mp member with rfl | later
      · revert start
        decide
      · have allowed := List.all_eq_true.mp others '.' later
        revert allowed
        decide

/-- A qualified name tells the server from the name. -/
theorem key_eq_of_qualifiedName {left right : Capability}
    (same : left.qualifiedName = right.qualifiedName) : left.key = right.key := by
  have texts := congrArg String.toList same
  simp only [Capability.qualifiedName, String.toList_append, List.append_assoc] at texts
  have dot : ".".toList = ['.'] := by decide
  rw [dot] at texts
  obtain ⟨servers, names⟩ := eq_of_append_separator
    (not_mem_name left.server.property.2.2) (not_mem_name right.server.property.2.2) texts
  exact Prod.ext (String.toList_injective servers) (String.toList_injective names)

theorem eq_of_key (registered : registry.Registers capability) {other : Capability}
    (registeredToo : registry.Registers other) (same : capability.key = other.key) :
    capability = other := by
  rw [Registers, get_eq_ok_iff] at registered registeredToo
  have sameKey : (capability.server.val, capability.name.val) =
      (other.server.val, other.name.val) := same
  rw [sameKey, registeredToo] at registered
  exact (Option.some.inj registered).symm

theorem mem_discover_iff :
    capability ∈ registry.discover principal ↔
      registry.Registers capability ∧ capability.isVisibleTo principal = true := by
  rw [discover, List.mem_insertionSort, List.mem_filter, mem_capabilities_iff]

/-- Discovery lists what can be resolved. -/
theorem mem_discover_iff_resolveFor :
    capability ∈ registry.discover principal ↔
      ∃ server name, registry.resolveFor principal server name = .ok capability := by
  rw [mem_discover_iff]
  constructor
  · intro listed
    exact ⟨_, _, resolveFor_eq_ok_iff.mpr listed⟩
  · rintro ⟨server, name, resolved⟩
    obtain ⟨found, visible⟩ := resolveFor_eq_ok_iff.mp resolved
    exact ⟨registers_of_get found, visible⟩

theorem nodup_discover (registry : CapabilityRegistry) (principal : Principal) :
    (registry.discover principal).Nodup :=
  (List.perm_insertionSort _ _).nodup_iff.mpr (registry.nodup_capabilities.filter _)

/-- The listing does not depend on the order of registration. -/
theorem AgreeFor.discover_eq (agree : AgreeFor principal first second) :
    first.discover principal = second.discover principal := by
  apply insertionSort_eq_of_perm
  · intro left right
    exact le_total left.qualifiedName right.qualifiedName
  · intro left middle right
    exact le_trans
  · intro left leftMember right rightMember leftFirst rightFirst
    have leftIn := mem_capabilities_iff.mp (List.mem_filter.mp leftMember).1
    have rightIn := mem_capabilities_iff.mp (List.mem_filter.mp rightMember).1
    have names := le_antisymm leftFirst rightFirst
    exact eq_of_key leftIn rightIn (key_eq_of_qualifiedName names)
  · apply (List.perm_ext_iff_of_nodup (first.nodup_capabilities.filter _)
      (second.nodup_capabilities.filter _)).mpr
    intro capability
    rw [List.mem_filter, List.mem_filter, mem_capabilities_iff, mem_capabilities_iff]
    exact and_congr_left (agree capability)

end CapabilityRegistry

/-! ## Two runs of the gateway -/

/-- The records tell of one call: they differ in identifier and times at most. -/
def SameCall (first second : ToolInvocation) : Prop :=
  { first.toInvocationFields with
    id := second.id
    startedAt := second.startedAt
    durationMs := second.durationMs } = second.toInvocationFields

/-- The faults are one fault, or they carry records of one call. -/
inductive SameFault : GatewayFault → GatewayFault → Prop
  | same (fault : GatewayFault) : SameFault fault fault
  | denied (reason : String) {first second : ToolInvocation}
      (records : SameCall first second) :
      SameFault (.denied reason first) (.denied reason second)
  | failed (reason : String) {first second : ToolInvocation}
      (records : SameCall first second) :
      SameFault (.failed reason first) (.failed reason second)

structure SameResult (first second : InvocationResult) : Prop where
  records : SameCall first.invocation second.invocation
  contents : first.content = second.content

/-- Readings of the two clocks that make no difference: the approvals are alike at both,
and what lasts too long to be recorded does so on both. -/
structure Indistinguishable (moments : Timestamp → Timestamp → Prop)
    (approvals : ApprovalRequest → Prop) : Prop where
  approved : ∀ {moment other approval}, moments moment other → approvals approval →
    ∀ server capability resourceId arguments,
      approval.authorize server capability resourceId arguments moment =
        approval.authorize server capability resourceId arguments other
  recorded : ∀ {started finished otherStarted otherFinished},
    moments started otherStarted → moments finished otherFinished →
      (elapsedMs started finished ≤ durationLimitMs ↔
        elapsedMs otherStarted otherFinished ≤ durationLimitMs)

namespace CapabilityGateway

/-- The requests are the same; the records handed to the sinks are of one call. -/
inductive SameRequest : GatewayCall → GatewayCall → Prop
  | same (call : GatewayCall) : SameRequest call call
  | audit {first second : ToolInvocation} (records : SameCall first second) :
      SameRequest (.audit first) (.audit second)

/-- The answers are the same; identifiers are fresh, and so are times. -/
def SameAnswers (moments : Timestamp → Timestamp → Prop) :
    GatewayEvent → GatewayEvent → Prop
  | ⟨.uuid4, .ok _⟩, ⟨.uuid4, .ok _⟩ => True
  | ⟨.utcNow, .ok moment⟩, ⟨.utcNow, .ok other⟩ => moments moment other
  | ⟨.audit first, answer⟩, ⟨.audit second, other⟩ =>
      SameCall first second ∧ answer = other
  | first, second => first = second

/-- Two runs that differ in fresh identifiers and times only. -/
def upToFresh (moments : Timestamp → Timestamp → Prop) :
    Coupling GatewayCall GatewayCall.Answer GatewayFault where
  asked := SameRequest
  answered := SameAnswers moments

/-- The programs run alike, and what they return is related. -/
abbrev RunAlike {α : Type} (moments : Timestamp → Timestamp → Prop)
    (values : α → α → Prop) (first second : Governed α) : Prop :=
  (upToFresh moments).Couples (EndsAlike values SameFault) first second

section Runs

variable {moments : Timestamp → Timestamp → Prop} {approvals : ApprovalRequest → Prop}
  {α β : Type} {values : α → α → Prop} {audit : AuditContext} {request : InvokeRequest}

theorem sameCall_refl (invocation : ToolInvocation) : SameCall invocation invocation := rfl

theorem RunAlike.bind {following : β → β → Prop} {first second : Governed α}
    {next other : α → Governed β} (start : RunAlike moments values first second)
    (goOn : ∀ left right, values left right →
      RunAlike moments following (next left) (other right)) :
    RunAlike moments following (first.bind next) (second.bind other) :=
  Coupling.Couples.bind start goOn fun _ _ same => same

theorem runAlike_raise {fault other : GatewayFault} (same : SameFault fault other) :
    RunAlike moments values (raise fault) (raise other) := same

theorem runAlike_lift (outcome : Except GatewayFault α) :
    RunAlike moments Eq (lift outcome) (lift outcome) := by
  cases outcome with
  | ok value => exact rfl
  | error fault => exact SameFault.same fault

/-! ### One request -/

theorem runAlike_uuid4 : RunAlike moments (fun _ _ => True) (ask .uuid4) (ask .uuid4) := by
  refine ⟨.same _, ?_⟩
  intro answer reply given
  cases answer <;> cases reply
  · cases given
    exact SameFault.same _
  · cases given
  · cases given
  · trivial

theorem runAlike_utcNow : RunAlike moments moments (ask .utcNow) (ask .utcNow) := by
  refine ⟨.same _, ?_⟩
  intro answer reply given
  cases answer <;> cases reply
  · cases given
    exact SameFault.same _
  · cases given
  · cases given
  · exact given

theorem runAlike_audit {first second : ToolInvocation} (records : SameCall first second) :
    RunAlike moments (fun (_ _ : Unit) => True) (ask (.audit first))
      (ask (.audit second)) := by
  refine ⟨.audit records, ?_⟩
  rintro answer reply ⟨-, same⟩
  cases same
  cases answer with
  | ok value => trivial
  | error fault => exact SameFault.same fault

/-- A request to a collaborator that keeps the state that both runs share. -/
inductive IsShared : GatewayCall → Prop
  | policyVersion : IsShared .policyVersion
  | evaluate (request : AuthorizationRequest) : IsShared (.evaluate request)
  | reserveCall (jobId : UUID) (budget : ResearchBudget) : IsShared (.reserveCall jobId budget)
  | ensureClosed (server : String) : IsShared (.ensureClosed server)
  | execute (request : ExecutionRequest) : IsShared (.execute request)
  | recordFailure (server : String) : IsShared (.recordFailure server)
  | recordSuccess (server : String) : IsShared (.recordSuccess server)

theorem runAlike_shared {call : GatewayCall} (shared : IsShared call) :
    RunAlike moments Eq (ask call) (ask call) := by
  refine ⟨.same _, ?_⟩
  intro answer reply given
  have same : answer = reply := by
    cases shared <;> exact eq_of_heq (Sigma.mk.inj given).2
  cases same
  cases answer with
  | ok value => exact rfl
  | error fault => exact SameFault.same fault

/-! ### Records and refusals -/

/-- Identifiers and times do not decide whether a record is valid, unless the call lasted
too long. -/
theorem valid_fields {decision : AuthorizationDecision} {outcome : InvocationOutcome}
    {errorClass : ErrorClass} {duration other : Nat} {id otherId : UUID}
    {startedAt otherStartedAt : Timestamp}
    (lasts : duration ≤ durationLimitMs → other ≤ durationLimitMs)
    (valid : (audit.fields decision outcome errorClass duration id startedAt).Valid) :
    (audit.fields decision outcome errorClass other otherId otherStartedAt).Valid := by
  obtain ⟨tenant, server, capability, version, inRange, consistent, sanitized⟩ := valid
  refine ⟨tenant, server, capability, version, ?_, consistent, sanitized⟩
  intro lasted same
  rw [← Option.some.inj same]
  exact lasts (inRange duration rfl)

/-- Records of one call are constructed alike. -/
theorem runAlike_validate {decision : AuthorizationDecision} {outcome : InvocationOutcome}
    {errorClass : ErrorClass} {duration other : Nat}
    (durations : duration ≤ durationLimitMs ↔ other ≤ durationLimitMs)
    (id otherId : UUID) (startedAt otherStartedAt : Timestamp) :
    RunAlike moments SameCall
      (lift ((ToolInvocation.validate
        (audit.fields decision outcome errorClass duration id startedAt)).mapError
          .invalidRecord))
      (lift ((ToolInvocation.validate
        (audit.fields decision outcome errorClass other otherId otherStartedAt)).mapError
          .invalidRecord)) := by
  by_cases constructed :
      (audit.fields decision outcome errorClass duration id startedAt).Valid
  · have constructedToo : (audit.fields decision outcome errorClass other otherId
        otherStartedAt).Valid := valid_fields durations.mp constructed
    rw [ToolInvocation.validate_eq_ok constructed,
      ToolInvocation.validate_eq_ok constructedToo]
    exact rfl
  · have refusedToo : ¬ (audit.fields decision outcome errorClass other otherId
        otherStartedAt).Valid :=
      fun built => constructed (valid_fields durations.mpr built)
    rw [ToolInvocation.validate, dif_neg constructed, ToolInvocation.validate,
      dif_neg refusedToo]
    exact SameFault.same _

theorem runAlike_record {decision : AuthorizationDecision} {outcome : InvocationOutcome}
    {errorClass : ErrorClass} {duration other : Nat}
    (durations : duration ≤ durationLimitMs ↔ other ≤ durationLimitMs) :
    RunAlike moments SameCall (audit.record decision outcome errorClass duration)
      (audit.record decision outcome errorClass other) := by
  apply runAlike_uuid4.bind
  intro id otherId _
  apply runAlike_utcNow.bind
  intro startedAt otherStartedAt _
  exact runAlike_validate durations id otherId startedAt otherStartedAt

theorem runAlike_denied {reason : String} {errorClass : ErrorClass} :
    RunAlike moments values (audit.denied reason errorClass)
      (audit.denied reason errorClass) := by
  apply (runAlike_record Iff.rfl).bind
  intro first second records
  exact SameFault.denied reason records

/-! ### The call -/

theorem runAlike_checkApproval {arguments : Arguments} {approval : Option ApprovalRequest}
    (timing : Indistinguishable moments approvals)
    (brought : ∀ given ∈ approval, approvals given) :
    RunAlike moments Eq (checkApproval audit arguments approval)
      (checkApproval audit arguments approval) := by
  cases approval with
  | none => exact runAlike_denied
  | some given =>
      apply runAlike_utcNow.bind
      intro moment other same
      have authorized := timing.approved same (brought given rfl)
      simp only [authorized]
      cases given.authorize audit.capability.server.val audit.capability.name.val
          given.resourceId.val arguments other with
      | ok => exact rfl
      | error refusal =>
          cases refusal with
          | mismatch message => exact runAlike_denied
          | typeError message => exact SameFault.same _

theorem runAlike_execute {principal : Principal} {arguments : Arguments}
    (timing : Indistinguishable moments approvals) :
    RunAlike moments SameResult (execute audit principal arguments)
      (execute audit principal arguments) := by
  apply runAlike_utcNow.bind
  intro started otherStarted sameStart
  apply (runAlike_shared (.execute _)).bind
  rintro answered _ rfl
  cases answered with
  | error error =>
      apply (runAlike_shared (.recordFailure _)).bind
      intro _ _ _
      apply runAlike_utcNow.bind
      intro finished otherFinished sameEnd
      apply (runAlike_record (timing.recorded sameStart sameEnd)).bind
      intro first second records
      exact SameFault.failed error.message records
  | ok raw =>
      apply (runAlike_shared (.recordSuccess _)).bind
      intro _ _ _
      apply runAlike_utcNow.bind
      intro finished otherFinished sameEnd
      apply (runAlike_record (timing.recorded sameStart sameEnd)).bind
      intro first second records
      exact ⟨records, rfl⟩

theorem runAlike_runAllowed (timing : Indistinguishable moments approvals)
    (brought : ∀ given ∈ request.approval, approvals given) :
    RunAlike moments SameResult (runAllowed audit request) (runAllowed audit request) := by
  have approved : RunAlike moments Eq (requireApproval audit request)
      (requireApproval audit request) := by
    unfold requireApproval
    split
    · exact runAlike_checkApproval timing brought
    · exact rfl
  apply approved.bind
  intro _ _ _
  apply (runAlike_shared (.reserveCall _ _)).bind
  rintro reserved _ rfl
  cases reserved with
  | error refusal => cases refusal <;> exact runAlike_denied
  | ok count =>
      apply (runAlike_shared (.ensureClosed _)).bind
      rintro closed _ rfl
      cases closed with
      | error refusal => exact runAlike_denied
      | ok => exact runAlike_execute timing

theorem runAlike_runResolved {capability : Capability}
    (timing : Indistinguishable moments approvals)
    (brought : ∀ given ∈ request.approval, approvals given) :
    RunAlike moments SameResult (runResolved request capability)
      (runResolved request capability) := by
  apply (runAlike_shared .policyVersion).bind
  rintro version _ rfl
  apply (runAlike_shared (.evaluate _)).bind
  rintro decision _ rfl
  dsimp only
  split
  · exact runAlike_runAllowed timing brought
  · exact runAlike_denied

variable {first second : CapabilityGateway}

theorem runAlike_observe (sameSink : first.hasAudit = second.hasAudit)
    {left right : ToolInvocation} (records : SameCall left right) :
    RunAlike moments (fun _ _ => True) (first.observe left) (second.observe right) := by
  unfold observe
  rw [sameSink]
  split
  · apply Coupling.Couples.rescue (runAlike_audit records)
    · exact fun _ _ _ => trivial
    · exact fun _ _ _ => trivial
  · exact trivial

theorem runAlike_observeFault (sameSink : first.hasAudit = second.hasAudit)
    {fault other : GatewayFault} (same : SameFault fault other) :
    RunAlike moments SameResult (first.observeFault fault) (second.observeFault other) := by
  have carried {left right : ToolInvocation} (records : SameCall left right)
      {raised again : GatewayFault} (alike : SameFault raised again) :
      RunAlike moments SameResult ((first.observe left).bind fun _ => raise raised)
        ((second.observe right).bind fun _ => raise again) :=
    (runAlike_observe sameSink records).bind fun _ _ _ => runAlike_raise alike
  cases same with
  | same =>
      cases found : fault.invocation? with
      | none =>
          rw [observeFault, found, observeFault, found]
          exact SameFault.same fault
      | some invocation =>
          rw [observeFault_of_some found, observeFault_of_some found]
          exact carried (sameCall_refl invocation) (.same fault)
  | denied reason records => exact carried records (.denied reason records)
  | failed reason records => exact carried records (.failed reason records)

/-- The gateways call alike when they resolve alike. -/
theorem runAlike_invoke (sameSink : first.hasAudit = second.hasAudit)
    (resolves : first.registry.resolveFor request.principal request.server
        request.capabilityName =
      second.registry.resolveFor request.principal request.server request.capabilityName)
    (timing : Indistinguishable moments approvals)
    (brought : ∀ given ∈ request.approval, approvals given) :
    RunAlike moments SameResult (first.invoke request) (second.invoke request) := by
  have unobserved : RunAlike moments SameResult (first.invokeUnobserved request)
      (second.invokeUnobserved request) := by
    unfold invokeUnobserved
    rw [resolves]
    apply (runAlike_lift _).bind
    rintro capability _ rfl
    exact runAlike_runResolved timing brought
  have observed : RunAlike moments SameResult
      ((first.invokeUnobserved request).rescue first.observeFault)
      ((second.invokeUnobserved request).rescue second.observeFault) :=
    Coupling.Couples.rescue unobserved (fun _ _ same => same)
      fun _ _ => runAlike_observeFault sameSink
  apply observed.bind
  intro left right same
  apply (runAlike_observe sameSink same.records).bind
  intro _ _ _
  exact same

end Runs

end CapabilityGateway

/-! ## Sessions -/

/-- What a principal asks of the catalogue and of the gateway. -/
inductive CatalogueCall where
  | discover
  | resolveFor (server name : String)
  | invoke (request : InvokeRequest)

inductive CatalogueAnswer where
  | listed (capabilities : List Capability)
  | resolved (outcome : Except CapabilityNotFound Capability)
  | invoked (trace : List GatewayEvent) (outcome : Except GatewayFault InvocationResult)

/-- The approvals that the calls bring. -/
def BroughtBy (calls : List CatalogueCall) (approval : ApprovalRequest) : Prop :=
  ∃ request, .invoke request ∈ calls ∧ approval ∈ request.approval

namespace CapabilityGateway

/-- The calls of one principal, over what the collaborators of the gateway keep. -/
def session {World : Type} (gateway : CapabilityGateway) (principal : Principal)
    (handler : Handler GatewayCall GatewayCall.Answer GatewayFault World) :
    Service World CatalogueCall CatalogueAnswer
  | world, .discover => (.listed (gateway.registry.discover principal), world)
  | world, .resolveFor server name =>
      (.resolved (gateway.registry.resolveFor principal server name), world)
  | world, .invoke asked =>
      let run := interpret handler
        (gateway.invoke { asked with principal := principal }) world
      (.invoked run.trace run.outcome, run.world)

/-- The principal is told the same, and the sinks are handed records of the same
calls. -/
inductive SameAnswer (moments : Timestamp → Timestamp → Prop) :
    CatalogueAnswer → CatalogueAnswer → Prop
  | listed (capabilities : List Capability) :
      SameAnswer moments (.listed capabilities) (.listed capabilities)
  | resolved (outcome : Except CapabilityNotFound Capability) :
      SameAnswer moments (.resolved outcome) (.resolved outcome)
  | invoked {trace other : List GatewayEvent}
      {outcome reply : Except GatewayFault InvocationResult}
      (events : List.Forall₂ (SameAnswers moments) trace other)
      (audited : List.Forall₂ SameCall (auditedOf trace) (auditedOf other))
      (results : EndsAlike SameResult SameFault outcome reply) :
      SameAnswer moments (.invoked trace outcome) (.invoked other reply)

theorem sameRequest_of_sameAnswers {moments : Timestamp → Timestamp → Prop}
    {event reply : GatewayEvent} (same : SameAnswers moments event reply) :
    SameRequest event.1 reply.1 := by
  unfold SameAnswers at same
  split at same
  · exact .same _
  · exact .same _
  · exact .audit same.1
  · rw [same]
    exact .same _

theorem auditedOf_alike {moments : Timestamp → Timestamp → Prop}
    {trace other : List GatewayEvent}
    (events : List.Forall₂ (SameAnswers moments) trace other) :
    List.Forall₂ SameCall (auditedOf trace) (auditedOf other) := by
  induction events with
  | nil => exact List.Forall₂.nil
  | @cons event reply _ _ same _ inductionHypothesis =>
      have requests := sameRequest_of_sameAnswers same
      obtain ⟨call, answer⟩ := event
      obtain ⟨otherCall, otherAnswer⟩ := reply
      cases requests with
      | same =>
          cases call with
          | audit invocation => exact List.Forall₂.cons rfl inductionHypothesis
          | _ => exact inductionHypothesis
      | audit records => exact List.Forall₂.cons records inductionHypothesis

section Sessions

variable {Left Right : Type} {first second : CapabilityGateway} {principal : Principal}
  {moments : Timestamp → Timestamp → Prop} {approvals : ApprovalRequest → Prop}
  {left : Handler GatewayCall GatewayCall.Answer GatewayFault Left}
  {right : Handler GatewayCall GatewayCall.Answer GatewayFault Right}
  {alike : Left → Right → Prop}

/-- One call is answered alike and leaves the collaborators alike. -/
theorem session_alike
    (sameVisible : CapabilityRegistry.AgreeFor principal first.registry second.registry)
    (sameSink : first.hasAudit = second.hasAudit)
    (timing : Indistinguishable moments approvals)
    (kept : (upToFresh moments).KeptBy left right alike) {world : Left} {other : Right}
    (start : alike world other) {call : CatalogueCall}
    (brought : ∀ request, call = .invoke request →
      ∀ given ∈ request.approval, approvals given) :
    SameAnswer moments (first.session principal left world call).1
        (second.session principal right other call).1 ∧
      alike (first.session principal left world call).2
        (second.session principal right other call).2 := by
  cases call with
  | discover =>
      refine ⟨?_, start⟩
      rw [session, session, sameVisible.discover_eq]
      exact .listed _
  | resolveFor server name =>
      refine ⟨?_, start⟩
      rw [session, session, sameVisible.resolveFor_eq]
      exact .resolved _
  | invoke request =>
      have couples : RunAlike moments SameResult
          (first.invoke { request with principal := principal })
          (second.invoke { request with principal := principal }) :=
        runAlike_invoke sameSink (sameVisible.resolveFor_eq _ _) timing (brought request rfl)
      obtain ⟨events, results, last⟩ := couples.sound kept start
      exact ⟨.invoked events (auditedOf_alike events) results, last⟩

end Sessions

end CapabilityGateway

open CapabilityGateway

/-- Whatever a principal asks, in whatever order, two gateways whose registries agree on
what it sees answer alike and leave what their collaborators share alike; and it
discovers what it can resolve, once each. -/
theorem discovery_noninterference {Left Right : Type} {first second : CapabilityGateway}
    {principal : Principal}
    (sameVisible : CapabilityRegistry.AgreeFor principal first.registry second.registry)
    (sameSink : first.hasAudit = second.hasAudit) (calls : List CatalogueCall)
    {moments : Timestamp → Timestamp → Prop}
    (timing : Indistinguishable moments (BroughtBy calls))
    {left : Handler GatewayCall GatewayCall.Answer GatewayFault Left}
    {right : Handler GatewayCall GatewayCall.Answer GatewayFault Right}
    {alike : Left → Right → Prop} (kept : (upToFresh moments).KeptBy left right alike)
    {world : Left} {other : Right} (start : alike world other) :
    List.Forall₂ (CapabilityGateway.SameAnswer moments)
        ((first.session principal left).answers world calls)
        ((second.session principal right).answers other calls) ∧
      alike ((first.session principal left).after world calls)
        ((second.session principal right).after other calls) ∧
      (first.registry.discover principal).Nodup ∧
      ∀ capability, capability ∈ first.registry.discover principal ↔
        ∃ server name,
          first.registry.resolveFor principal server name = .ok capability := by
  have brought : ∀ call ∈ calls, ∀ request, call = .invoke request →
      ∀ given ∈ request.approval, BroughtBy calls given := by
    rintro call member request rfl given isGiven
    exact ⟨request, member, isGiven⟩
  refine ⟨?_, ?_, first.registry.nodup_discover principal,
    fun capability => CapabilityRegistry.mem_discover_iff_resolveFor⟩
  · apply Service.forall₂_answers_of_each _ start brought
    intro state otherState call still condition
    exact session_alike sameVisible sameSink timing kept still condition
  · apply Service.related_after_of_each _ start brought
    intro state otherState call still condition
    exact (session_alike sameVisible sameSink timing kept still condition).2

namespace HiddenNeighbour

def offered : Capability where
  server := calculatorName
  name := addName
  allowedAgents := {.analyst}

/-- A capability of another tenant. -/
def foreign : Capability where
  server := ⟨"archive", by decide⟩
  name := readName
  allowedAgents := {.analyst}
  tenantScope := {"globex"}

/-- A gateway whose registry holds the given capabilities. -/
def gateway (capabilities : List Capability) : CapabilityGateway where
  registry := (CapabilityRegistry.ofList capabilities).toOption.getD {}
  hasAudit := true

def principal : Principal := exampleAnalyst

def calls : List CatalogueCall :=
  [.discover, .resolveFor "archive" "read",
    .invoke ⟨principal, 1, 2, "calculator", "add", ∅, {}, none⟩,
    .invoke ⟨principal, 1, 2, "archive", "read", ∅, {}, none⟩]

/-- Collaborators at a standing clock, which count the calls they reserve. -/
def handler (moment : Timestamp) :
    Handler GatewayCall GatewayCall.Answer GatewayFault (Nat × UUID)
  | world, .policyVersion => (.ok "v1", world)
  | world, .evaluate _ => (.ok (.allow "v1"), world)
  | world, .utcNow => (.ok moment, world)
  | (reserved, id), .reserveCall .. => (.ok (.ok (reserved + 1)), (reserved + 1, id))
  | world, .ensureClosed _ => (.ok (.ok ()), world)
  | world, .execute _ => (.ok (.ok "3"), world)
  | world, .recordFailure _ => (.ok (), world)
  | world, .recordSuccess _ => (.ok (), world)
  | (reserved, id), .uuid4 => (.ok id, (reserved, ⟨id.int + 1⟩))
  | world, .audit _ => (.ok (), world)

/-- The first run is at one time, the second at another. -/
def moments (moment other : Timestamp) : Prop := moment = 0 ∧ other = 7

/-- The same calls are counted, whatever the next identifier. -/
def alike (world other : Nat × UUID) : Prop := world.1 = other.1

theorem kept : (upToFresh moments).KeptBy (handler 0) (handler 7) alike := by
  rintro ⟨reserved, id⟩ ⟨_, otherId⟩ call same rfl asked
  cases asked with
  | same =>
      cases call with
      | uuid4 => exact ⟨trivial, rfl⟩
      | utcNow => exact ⟨⟨rfl, rfl⟩, rfl⟩
      | audit invocation => exact ⟨⟨rfl, rfl⟩, rfl⟩
      | _ => exact ⟨rfl, rfl⟩
  | audit records => exact ⟨⟨records, rfl⟩, rfl⟩

theorem timing : Indistinguishable moments (BroughtBy calls) where
  approved := by
    rintro moment other approval - ⟨request, asked, brought⟩
    simp only [calls, List.mem_cons, List.not_mem_nil, or_false, reduceCtorEq, false_or,
      CatalogueCall.invoke.injEq] at asked
    rcases asked with rfl | rfl <;> cases brought
  recorded := by
    rintro _ _ _ _ ⟨rfl, rfl⟩ ⟨rfl, rfl⟩
    exact Iff.rfl

theorem agree : CapabilityRegistry.AgreeFor principal (gateway [offered]).registry
    (gateway [foreign, offered]).registry := by
  have first : (gateway [offered]).registry.capabilities.entries.map Prod.snd =
      [offered] := by decide +kernel
  have second : (gateway [foreign, offered]).registry.capabilities.entries.map Prod.snd =
      [foreign, offered] := by decide +kernel
  intro capability isVisible
  rw [← CapabilityRegistry.mem_capabilities_iff, ← CapabilityRegistry.mem_capabilities_iff,
    first, second]
  constructor
  · intro listed
    exact List.mem_cons_of_mem _ listed
  · intro listed
    rcases List.mem_cons.mp listed with rfl | listed
    · revert isVisible
      decide
    · exact listed

end HiddenNeighbour

open HiddenNeighbour

theorem discovery_noninterference_at_hiddenNeighbour :
    List.Forall₂ (CapabilityGateway.SameAnswer moments)
        (((gateway [offered]).session principal (handler 0)).answers (0, 10) calls)
        (((gateway [foreign, offered]).session principal (handler 7)).answers (0, 20)
          calls) ∧
      alike (((gateway [offered]).session principal (handler 0)).after (0, 10) calls)
        (((gateway [foreign, offered]).session principal (handler 7)).after (0, 20)
          calls) := by
  have start : alike (0, 10) (0, 20) := rfl
  obtain ⟨answers, last, -⟩ :=
    discovery_noninterference agree rfl calls timing kept start
  exact ⟨answers, last⟩

end ResearchPlatform
