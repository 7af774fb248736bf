import ResearchPlatform.Properties.GatewayClearance

/-!
# The contract of an invocation

Under collaborators that answer as they document, every resolved invocation hands
exactly one record to the audit sink and ends with that record; the record is a
denial exactly when the executor was not called.
-/

namespace ResearchPlatform

open Foundation Program GatewayCall

/-! ## What a trace and an outcome say -/

/-- The audit record the caller is given, with the result or with the refusal. -/
def recordOf : Except GatewayFault InvocationResult → Option ToolInvocation
  | .ok result => some result.invocation
  | .error fault => fault.invocation?

theorem auditedOf_append (first second : List GatewayEvent) :
    auditedOf (first ++ second) = auditedOf first ++ auditedOf second :=
  List.filterMap_append

theorem auditedOf_of_quiet {trace : List GatewayEvent}
    (quiet : ∀ event ∈ trace, ¬ event.1.IsAudit) : auditedOf trace = [] := by
  apply List.filterMap_eq_nil_iff.mpr
  rintro ⟨call, answer⟩ member
  have notAudit := quiet _ member
  cases call <;> first | rfl | exact absurd trivial notAudit

/-- No event of the trace reaches the executor or the sink. -/
def AllQuiet (trace : List GatewayEvent) : Prop :=
  ∀ event ∈ trace, event.1.IsQuiet

theorem AllQuiet.append {first second : List GatewayEvent} (before : AllQuiet first)
    (after : AllQuiet second) : AllQuiet (first ++ second) := by
  intro event member
  rcases List.mem_append.mp member with earlier | later
  · exact before event earlier
  · exact after event later

theorem AllQuiet.snoc {trace : List GatewayEvent} (before : AllQuiet trace)
    (call : GatewayCall) (answer : Except GatewayFault call.Answer)
    (quiet : call.IsQuiet) : AllQuiet (trace ++ [⟨call, answer⟩]) := by
  apply before.append
  intro event member
  rw [List.mem_singleton.mp member]
  exact quiet

/-- The policy's verdict, or the approval check that follows it, refuses the
call. -/
def RefusedAt (request : InvokeRequest) (capability : Capability)
    (decision : PolicyDecision) (rest : List GatewayEvent) : Prop :=
  decision.allowed = false ∨
    capability.requiresApproval = true ∧
      (request.approval = none ∨
        ∃ approval moment later,
          request.approval = some approval ∧
            rest = ⟨.utcNow, .ok moment⟩ :: later ∧
            ¬ approval.Authorizes capability.server.val capability.name.val
              approval.resourceId.val request.arguments moment)

/-- The policy or the approval check refused the call that left this trace. -/
def Refused (request : InvokeRequest) (capability : Capability)
    (trace : List GatewayEvent) : Prop :=
  ∃ version decision rest,
    trace = verdictEvents request capability version decision ++ rest ∧
      RefusedAt request capability decision rest

/-- The record names the call it was made for. -/
structure DescribesCall (request : InvokeRequest) (capability : Capability)
    (invocation : ToolInvocation) : Prop where
  sameJob : invocation.jobId = request.jobId
  sameTask : invocation.taskId = request.taskId
  sameTenant : invocation.tenantId = request.principal.tenantId
  sameServer : invocation.mcpServer = capability.server.val
  sameCapability : invocation.capability = capability.name.val
  sameArguments :
    invocation.sanitizedArguments = sanitizeArguments request.arguments
  sameDigest : invocation.argumentDigest = argumentDigest request.arguments

/-- What a resolved invocation records. -/
structure RecordContract (request : InvokeRequest) (capability : Capability)
    (trace : List GatewayEvent) (invocation : ToolInvocation) : Prop where
  describes : DescribesCall request capability invocation
  deniedIff : invocation.outcome = .denied ↔ NothingExecuted trace
  denyIff :
    invocation.authorizationDecision = .deny ↔ Refused request capability trace

/-- The contract of one invocation. -/
structure InvocationContract (gateway : CapabilityGateway) (request : InvokeRequest)
    (trace : List GatewayEvent) (outcome : Except GatewayFault InvocationResult) :
    Prop where
  cleared : ∀ before executed answer after,
    trace = before ++ ⟨.execute executed, answer⟩ :: after →
      ∃ capability,
        gateway.registry.resolveFor request.principal request.server
            request.capabilityName = .ok capability ∧
          executed = ⟨capability, request.principal, request.arguments⟩ ∧
          ∃ clearance : Clearance request capability, before = clearance.events
  unresolved : ∀ missing,
    gateway.registry.resolveFor request.principal request.server
        request.capabilityName = .error missing →
      outcome = .error (.capabilityNotFound missing) ∧ auditedOf trace = []
  recorded : ∀ capability,
    gateway.registry.resolveFor request.principal request.server
        request.capabilityName = .ok capability →
      ∃ invocation,
        recordOf outcome = some invocation ∧
          auditedOf trace = (if gateway.hasAudit then [invocation] else []) ∧
          RecordContract request capability trace invocation

/-! ## What the collaborators answer -/

/-- One day, in microseconds. -/
def dayMicros : Int := 86400000000

/-- Only the audit sink raises; policy versions fit the audit record, failures of
a server have a class, and an execution takes a day at most, from the reading of
the clock before it to the reading after it. -/
def Answers (log : List GatewayEvent) : GatewayEvent → Prop
  | ⟨.audit _, _⟩ => True
  | ⟨.evaluate _, .ok decision⟩ =>
      1 ≤ decision.policyVersion.length ∧ decision.policyVersion.length ≤ 4000
  | ⟨.execute _, .ok (.error failure)⟩ => failure.errorClass ≠ .none
  | ⟨.utcNow, .ok finished⟩ =>
      ∀ before started executed noted,
        log = before ++ [⟨.utcNow, .ok started⟩, executed, noted] →
          executed.1.IsExecute → finished ≤ started + dayMicros
  | ⟨_, .ok _⟩ => True
  | ⟨_, .error _⟩ => False

/-- What a caller is promised to hand in: a tenant that fits the audit record and
an approval whose times carry a zone. -/
structure InvokeRequest.WellFormed (request : InvokeRequest) : Prop where
  tenantInRange : request.principal.tenantId.length ≤ 100
  approvalZoned : ∀ approval ∈ request.approval, approval.expiresAt.hasZone = true

/-! ## The records of a call -/

/-- An audit context of this call, with a policy version that fits. -/
structure AuditContext.OfCall (audit : AuditContext) (request : InvokeRequest)
    (capability : Capability) : Prop where
  sameCapability : audit.capability = capability
  sameJob : audit.jobId = request.jobId
  sameTask : audit.taskId = request.taskId
  sameTenant : audit.tenantId = request.principal.tenantId
  sameArguments : audit.sanitizedArguments = sanitizeArguments request.arguments
  sameDigest :
    audit.argumentDigest = ResearchPlatform.argumentDigest request.arguments
  versionInRange :
    1 ≤ audit.policyVersion.length ∧ audit.policyVersion.length ≤ 4000

section Records

variable {request : InvokeRequest} {capability : Capability} {audit : AuditContext}

/-- Every name fits an audit record. -/
theorem Name.inRange (name : Name) :
    1 ≤ name.val.length ∧ name.val.length ≤ 4000 :=
  ⟨name.property.1, name.property.2.1.trans (by decide)⟩

theorem AuditContext.OfCall.valid (ofCall : audit.OfCall request capability)
    (wellFormed : request.WellFormed) {decision : AuthorizationDecision}
    {outcome : InvocationOutcome} {errorClass : ErrorClass} {durationMs : Nat}
    (consistent : OutcomeConsistent decision outcome errorClass)
    (duration : durationMs ≤ durationLimitMs) (id : UUID) (startedAt : Timestamp) :
    (audit.fields decision outcome errorClass durationMs id startedAt).Valid where
  tenantInRange := by
    have given : 1 ≤ request.principal.tenantId.length := by
      have nonempty := request.principal.tenantGiven
      rw [Nat.one_le_iff_ne_zero]
      intro zero
      exact nonempty (String.length_eq_zero_iff.mp zero)
    rw [AuditContext.fields, ofCall.sameTenant]
    exact ⟨given, wellFormed.tenantInRange⟩
  serverInRange := Name.inRange audit.capability.server
  capabilityInRange := Name.inRange audit.capability.name
  versionInRange := ofCall.versionInRange
  durationInRange := by
    intro given same
    rwa [← Option.some.inj same]
  consistent := consistent
  sanitized := by
    rw [AuditContext.fields, ofCall.sameArguments]
    exact (sanitizeArguments_idempotent request.arguments).symm

/-- The record was made from the context with this verdict. -/
def RecordedAs (audit : AuditContext) (decision : AuthorizationDecision)
    (outcome : InvocationOutcome) (invocation : ToolInvocation) : Prop :=
  ∃ errorClass durationMs id startedAt,
    invocation.toInvocationFields =
      audit.fields decision outcome errorClass durationMs id startedAt

theorem RecordedAs.describes {decision : AuthorizationDecision}
    {outcome : InvocationOutcome} {invocation : ToolInvocation}
    (recorded : RecordedAs audit decision outcome invocation)
    (ofCall : audit.OfCall request capability) :
    DescribesCall request capability invocation := by
  obtain ⟨errorClass, durationMs, id, startedAt, same⟩ := recorded
  constructor <;> rw [same, AuditContext.fields]
  · exact ofCall.sameJob
  · exact ofCall.sameTask
  · exact ofCall.sameTenant
  · rw [ofCall.sameCapability]
  · rw [ofCall.sameCapability]
  · exact ofCall.sameArguments
  · exact ofCall.sameDigest

theorem RecordedAs.verdict {decision : AuthorizationDecision}
    {outcome : InvocationOutcome} {invocation : ToolInvocation}
    (recorded : RecordedAs audit decision outcome invocation) :
    invocation.authorizationDecision = decision ∧ invocation.outcome = outcome := by
  obtain ⟨errorClass, durationMs, id, startedAt, same⟩ := recorded
  rw [same, AuditContext.fields]
  exact ⟨rfl, rfl⟩

/-- A record can always be made: it adds an identifier and a reading of the
clock. -/
theorem ensures_record {log : List GatewayEvent} {decision : AuthorizationDecision}
    {outcome : InvocationOutcome} {errorClass : ErrorClass} {durationMs : Nat}
    {post : Except GatewayFault ToolInvocation → List GatewayEvent → Prop}
    (ofCall : audit.OfCall request capability) (wellFormed : request.WellFormed)
    (consistent : OutcomeConsistent decision outcome errorClass)
    (duration : durationMs ≤ durationLimitMs)
    (next : ∀ invocation added, RecordedAs audit decision outcome invocation →
      AllQuiet added → post (.ok invocation) (log ++ added)) :
    Ensures (Monitor.recorder Answers)
      (audit.record decision outcome errorClass durationMs) log post := by
  apply ensures_ask_bind
  · intro fault admitted
    cases admitted
  · intro identifier _
    apply ensures_ask_bind
    · intro fault admitted
      cases admitted
    · intro startedAt _
      have valid := ofCall.valid wellFormed consistent duration identifier startedAt
      rw [ToolInvocation.validate_eq_ok valid, List.append_assoc]
      apply next _ _ ⟨errorClass, durationMs, identifier, startedAt, rfl⟩
      intro event member
      simp only [List.cons_append, List.nil_append, List.mem_cons,
        List.not_mem_nil, or_false] at member
      rcases member with rfl | rfl <;> exact ⟨id, id⟩

/-- What an invocation leaves before its record is handed to the sink. -/
structure Concluded (request : InvokeRequest) (capability : Capability)
    (log : List GatewayEvent) (invocation : ToolInvocation) : Prop where
  describes : DescribesCall request capability invocation
  deniedIff : invocation.outcome = .denied ↔ NothingExecuted log
  settled : ∀ added,
    Refused request capability (log ++ added) ↔
      invocation.authorizationDecision = .deny
  unaudited : ∀ event ∈ log, ¬ event.1.IsAudit

/-- A call refused before the executor concludes with a denial. -/
theorem ensures_denied_concluded {α : Type} {log : List GatewayEvent}
    {reason : String} {errorClass : ErrorClass}
    {post : Except GatewayFault α → List GatewayEvent → Prop}
    (ofCall : audit.OfCall request capability) (wellFormed : request.WellFormed)
    (classified : errorClass ≠ .none) (quiet : AllQuiet log)
    (settled : ∀ added,
      Refused request capability (log ++ added) ↔ errorClass = .policyDenied)
    (next : ∀ fault invocation after, fault.invocation? = some invocation →
      Concluded request capability after invocation → post (.error fault) after) :
    Ensures (Monitor.recorder Answers) (audit.denied reason errorClass) log post := by
  have deny : AuditContext.refusalDecision errorClass = .deny ↔
      errorClass = .policyDenied := by
    unfold AuditContext.refusalDecision
    by_cases policy : errorClass = .policyDenied <;> simp [policy]
  have consistent : OutcomeConsistent (AuditContext.refusalDecision errorClass)
      .denied errorClass :=
    ⟨fun denied => ⟨rfl, deny.mp denied⟩, fun _ => classified, nofun, nofun⟩
  apply ensures_bind.mpr
  apply ensures_record ofCall wellFormed consistent (Nat.zero_le _)
  intro invocation added recorded quietAdded
  have allQuiet := quiet.append quietAdded
  obtain ⟨decision, outcome⟩ := recorded.verdict
  apply next _ invocation _ rfl
  constructor
  · exact recorded.describes ofCall
  · rw [outcome]
    exact ⟨fun _ event member => (allQuiet event member).1, fun _ => rfl⟩
  · intro more
    rw [decision, deny, List.append_assoc]
    exact settled (added ++ more)
  · exact fun event member => (allQuiet event member).2

/-- An executed call concludes with an allowance. -/
theorem concluded_of_executed {log : List GatewayEvent} {invocation : ToolInvocation}
    {outcome : InvocationOutcome}
    {answer : Except GatewayFault (Except UpstreamError String)}
    (ofCall : audit.OfCall request capability)
    (recorded : RecordedAs audit .allow outcome invocation)
    (notDenied : outcome ≠ .denied)
    (member : executeEvent request audit.capability answer ∈ log)
    (unaudited : ∀ event ∈ log, ¬ event.1.IsAudit)
    (notRefused : ∀ added, ¬ Refused request capability (log ++ added)) :
    Concluded request capability log invocation := by
  obtain ⟨decisionEqual, outcomeEqual⟩ := recorded.verdict
  constructor
  · exact recorded.describes ofCall
  · rw [outcomeEqual]
    constructor
    · intro denied
      exact absurd denied notDenied
    · intro nothing
      exact absurd trivial (nothing _ member)
  · intro added
    rw [decisionEqual]
    constructor
    · intro refused
      exact absurd refused (notRefused added)
    · intro impossible
      cases impossible
  · exact unaudited

/-! ## The walk through an invocation -/

theorem refused_verdictEvents_iff {version : String} {decision : PolicyDecision}
    {rest : List GatewayEvent} :
    Refused request capability
        (verdictEvents request capability version decision ++ rest) ↔
      RefusedAt request capability decision rest := by
  constructor
  · intro refused
    obtain ⟨otherVersion, otherDecision, otherRest, same, refusedAt⟩ := refused
    simp only [verdictEvents, List.cons_append, List.nil_append, List.cons.injEq,
      Sigma.mk.injEq, heq_eq_eq, Except.ok.injEq, true_and] at same
    obtain ⟨-, rfl, rfl⟩ := same
    exact refusedAt
  · intro refusedAt
    exact ⟨version, decision, rest, rfl, refusedAt⟩

/-- A checked approval is not refused, whatever follows. -/
theorem not_refusedAt {decision : PolicyDecision} {checkedAt : Option Timestamp}
    (allowed : decision.allowed = true)
    (checked : ApprovalChecked request capability checkedAt)
    (more : List GatewayEvent) :
    ¬ RefusedAt request capability decision (checkEvents checkedAt ++ more) := by
  intro refusedAt
  rcases refusedAt with denied | ⟨required, missing | refused⟩
  · rw [allowed] at denied
    cases denied
  · rw [ApprovalChecked, if_pos required] at checked
    obtain ⟨approval, moment, given, -⟩ := checked
    rw [missing] at given
    cases given
  · rw [ApprovalChecked, if_pos required] at checked
    obtain ⟨approval, moment, given, rfl, authorizes⟩ := checked
    obtain ⟨other, otherMoment, later, otherGiven, same, unauthorized⟩ := refused
    simp only [checkEvents, Option.toList_some, List.map_cons, List.map_nil,
      List.cons_append, List.nil_append, List.cons.injEq, Sigma.mk.injEq, heq_eq_eq,
      Except.ok.injEq, true_and] at same
    rw [given] at otherGiven
    rw [← Option.some.inj otherGiven, ← same.1] at unauthorized
    exact unauthorized authorizes

/-- What an invocation that the registry resolved ends with. -/
def Ends (request : InvokeRequest) (capability : Capability)
    (outcome : Except GatewayFault InvocationResult) (log : List GatewayEvent) : Prop :=
  ∃ invocation, recordOf outcome = some invocation ∧
    Concluded request capability log invocation

theorem elapsedMs_le {started finished : Timestamp}
    (inTime : finished ≤ started + dayMicros) :
    elapsedMs started finished ≤ durationLimitMs := by
  have bound : (finished : Int) - (started : Int) ≤ 86400000000 :=
    Int.sub_left_le_of_le_add inTime
  have counted : (finished - started).toNat ≤ 86400000000 := Int.toNat_le.mpr bound
  exact Nat.div_le_of_le_mul counted

/-- After the executor has answered and the breaker was told: read the clock,
record, and go on with the record. -/
theorem ensures_executed_record {α : Type} {log : List GatewayEvent}
    {started : Timestamp} {answered : Except UpstreamError String}
    {noted : GatewayEvent} {outcome : InvocationOutcome} {errorClass : ErrorClass}
    {next : ToolInvocation → Governed α}
    {post : Except GatewayFault α → List GatewayEvent → Prop}
    (ofCall : audit.OfCall request capability) (wellFormed : request.WellFormed)
    (quiet : AllQuiet log) (quietNoted : noted.1.IsQuiet)
    (notRefused : ∀ added, ¬ Refused request capability (log ++ added))
    (notDenied : outcome ≠ .denied)
    (consistent : OutcomeConsistent .allow outcome errorClass)
    (rest : ∀ invocation after, Concluded request capability after invocation →
      Ensures (Monitor.recorder Answers) (next invocation) after post) :
    Ensures (Monitor.recorder Answers)
      ((ask .utcNow).bind fun finished =>
        (audit.record .allow outcome errorClass (elapsedMs started finished)).bind next)
      (log ++ [⟨.utcNow, .ok started⟩,
        executeEvent request audit.capability (.ok answered), noted]) post := by
  apply ensures_ask_bind
  · intro fault admitted
    cases admitted
  · intro finished inTime
    have duration : elapsedMs started finished ≤ durationLimitMs :=
      elapsedMs_le (inTime log started _ _ rfl trivial)
    apply ensures_bind.mpr
    apply ensures_record ofCall wellFormed consistent duration
    intro invocation added recorded quietAdded
    have unaudited : ∀ event ∈ log ++ [⟨.utcNow, .ok started⟩,
        executeEvent request audit.capability (.ok answered), noted] ++
          [⟨.utcNow, .ok finished⟩] ++ added, ¬ event.1.IsAudit := by
      intro event member
      simp only [List.append_assoc, List.mem_append, List.mem_cons,
        List.cons_append, List.nil_append] at member
      rcases member with earlier | rfl | rfl | rfl | rfl | later
      · exact (quiet event earlier).2
      · exact id
      · exact id
      · exact quietNoted.2
      · exact id
      · exact (quietAdded event later).2
    have stillNotRefused (more : List GatewayEvent) :
        ¬ Refused request capability
          (log ++ [⟨.utcNow, .ok started⟩,
            executeEvent request audit.capability (.ok answered), noted] ++
              [⟨.utcNow, .ok finished⟩] ++ added ++ more) := by
      simp only [List.append_assoc]
      exact notRefused _
    have executed : executeEvent request audit.capability (.ok answered) ∈
        log ++ [⟨.utcNow, .ok started⟩,
          executeEvent request audit.capability (.ok answered), noted] ++
            [⟨.utcNow, .ok finished⟩] ++ added := by
      simp
    apply rest
    exact concluded_of_executed ofCall recorded notDenied executed unaudited
      stillNotRefused

/-- The executor answers in time, and the call concludes. -/
theorem ensures_execute_ends {log : List GatewayEvent}
    (ofCall : audit.OfCall request capability) (wellFormed : request.WellFormed)
    (quiet : AllQuiet log)
    (notRefused : ∀ added, ¬ Refused request capability (log ++ added)) :
    Ensures (Monitor.recorder Answers)
      (CapabilityGateway.execute audit request.principal request.arguments) log
      (Ends request capability) := by
  apply ensures_ask_bind
  · intro fault admitted
    cases admitted
  · intro started _
    apply ensures_ask_bind
    · intro fault admitted
      cases admitted
    · intro answered classified
      cases answered with
      | error error =>
          have consistent : OutcomeConsistent .allow .failed error.errorClass :=
            ⟨nofun, nofun, nofun, fun _ => classified⟩
          apply ensures_ask_bind
          · intro fault admitted
            cases admitted
          · intro _ _
            simp only [List.append_assoc, List.cons_append, List.nil_append]
            apply ensures_executed_record ofCall wellFormed quiet ⟨id, id⟩ notRefused
              (by decide) consistent
            intro invocation after concluded
            exact ⟨invocation, rfl, concluded⟩
      | ok raw =>
          apply ensures_ask_bind
          · intro fault admitted
            cases admitted
          · intro _ _
            simp only [List.append_assoc, List.cons_append, List.nil_append]
            apply ensures_executed_record ofCall wellFormed quiet ⟨id, id⟩ notRefused
            · split <;> decide
            · split <;> decide
            · intro invocation after concluded
              exact ⟨invocation, rfl, concluded⟩

theorem allQuiet_verdictEvents (request : InvokeRequest) (capability : Capability)
    (version : String) (decision : PolicyDecision) :
    AllQuiet (verdictEvents request capability version decision) := by
  simp [AllQuiet, verdictEvents, IsQuiet, IsExecute, IsAudit]

theorem allQuiet_checkEvents (checkedAt : Option Timestamp) :
    AllQuiet (checkEvents checkedAt) := by
  simp [AllQuiet, checkEvents, IsQuiet, IsExecute, IsAudit]

/-- What the approval check leaves: an accepted approval, or a call concluded
with a denial. -/
def ApprovedOrConcluded (request : InvokeRequest) (capability : Capability)
    (log : List GatewayEvent) :
    Except GatewayFault Unit → List GatewayEvent → Prop
  | .ok (), after => ∃ checkedAt,
      ApprovalChecked request capability checkedAt ∧
        after = log ++ checkEvents checkedAt
  | .error fault, after => ∃ invocation,
      fault.invocation? = some invocation ∧
        Concluded request capability after invocation

theorem ensures_requireApproval_concluded {version : String}
    {decision : PolicyDecision} (ofCall : audit.OfCall request capability)
    (wellFormed : request.WellFormed) :
    Ensures (Monitor.recorder Answers) (CapabilityGateway.requireApproval audit request)
      (verdictEvents request capability version decision)
      (ApprovedOrConcluded request capability
        (verdictEvents request capability version decision)) := by
  have classified : ErrorClass.policyDenied ≠ .none := by decide
  unfold CapabilityGateway.requireApproval
  split
  · rename_i contextRequires
    have required : capability.requiresApproval = true :=
      ofCall.sameCapability ▸ contextRequires
    cases given : request.approval with
    | none =>
        apply ensures_denied_concluded ofCall wellFormed classified
          (allQuiet_verdictEvents request capability version decision)
        · intro added
          rw [refused_verdictEvents_iff]
          exact iff_of_true (Or.inr ⟨required, Or.inl given⟩) rfl
        · intro fault invocation after carries concluded
          exact ⟨invocation, carries, concluded⟩
    | some approval =>
        apply ensures_ask_bind
        · intro fault admitted
          cases admitted
        · intro moment _
          rw [ofCall.sameCapability]
          cases authorized : approval.authorize capability.server.val
              capability.name.val approval.resourceId.val request.arguments moment with
          | ok _ =>
              have authorizes := ApprovalRequest.authorize_eq_ok_iff.mp authorized
              refine ⟨some moment, ?_, rfl⟩
              rw [ApprovalChecked, if_pos required]
              exact ⟨approval, moment, given, rfl, authorizes⟩
          | error error =>
              have zoned := wellFormed.approvalZoned approval given
              obtain ⟨message, rfl⟩ :=
                ApprovalRequest.authorize_of_zoned zoned authorized
              have unauthorized : ¬ approval.Authorizes capability.server.val
                  capability.name.val approval.resourceId.val request.arguments
                  moment := by
                rw [← ApprovalRequest.authorize_eq_ok_iff, authorized]
                intro same
                cases same
              have quiet :=
                (allQuiet_verdictEvents request capability version decision).snoc .utcNow
                  (.ok moment) ⟨id, id⟩
              apply ensures_denied_concluded ofCall wellFormed classified quiet
              · intro added
                rw [List.append_assoc, refused_verdictEvents_iff]
                have refusedAt : RefusedAt request capability decision
                    ([⟨.utcNow, .ok moment⟩] ++ added) :=
                  Or.inr ⟨required, Or.inr
                    ⟨approval, moment, added, given, rfl, unauthorized⟩⟩
                exact iff_of_true refusedAt rfl
              · intro fault invocation after carries concluded
                exact ⟨invocation, carries, concluded⟩
  · rename_i contextRequiresNot
    have notRequired : ¬ capability.requiresApproval = true :=
      ofCall.sameCapability ▸ contextRequiresNot
    refine ⟨none, ?_, by simp [checkEvents]⟩
    rw [ApprovalChecked, if_neg notRequired]

/-- From an allowing verdict on. -/
theorem ensures_runAllowed_ends {version : String} {decision : PolicyDecision}
    (ofCall : audit.OfCall request capability) (wellFormed : request.WellFormed)
    (allowed : decision.allowed = true) :
    Ensures (Monitor.recorder Answers) (CapabilityGateway.runAllowed audit request)
      (verdictEvents request capability version decision)
      (Ends request capability) := by
  apply ensures_bind.mpr
  apply (ensures_requireApproval_concluded ofCall wellFormed).mono
  intro outcome log approved
  cases outcome with
  | error fault => exact approved
  | ok _ =>
      obtain ⟨checkedAt, checked, rfl⟩ := approved
      have notRefused (added : List GatewayEvent) :
          ¬ Refused request capability
            (verdictEvents request capability version decision ++
              checkEvents checkedAt ++ added) := by
        rw [List.append_assoc, refused_verdictEvents_iff]
        exact not_refusedAt allowed checked added
      have quiet : AllQuiet
          (verdictEvents request capability version decision ++ checkEvents checkedAt) :=
        (allQuiet_verdictEvents request capability version decision).append
          (allQuiet_checkEvents checkedAt)
      -- Only the policy's own refusals count as refused; the limits do not.
      have limited {errorClass : ErrorClass} {reason : String}
          {log : List GatewayEvent} (other : errorClass ≠ .policyDenied)
          (classified : errorClass ≠ .none)
          (quiet : AllQuiet log)
          (notRefused : ∀ added, ¬ Refused request capability (log ++ added)) :
          Ensures (Monitor.recorder Answers) (audit.denied reason errorClass) log
            (Ends request capability) := by
        apply ensures_denied_concluded ofCall wellFormed classified quiet
        · intro added
          exact iff_of_false (notRefused added) other
        · intro fault invocation after carries concluded
          exact ⟨invocation, carries, concluded⟩
      apply ensures_ask_bind
      · intro fault admitted
        cases admitted
      · intro reserved _
        have quietReserve :=
          quiet.snoc (.reserveCall request.jobId request.budget) (.ok reserved) ⟨id, id⟩
        have reserveNotRefused (added : List GatewayEvent) :
            ¬ Refused request capability
              (verdictEvents request capability version decision ++
                checkEvents checkedAt ++
                [⟨.reserveCall request.jobId request.budget, .ok reserved⟩] ++ added) := by
          rw [List.append_assoc]
          exact notRefused _
        rcases reserved with refusal | count
        · cases refusal <;>
            exact limited (by decide) (by decide) quietReserve reserveNotRefused
        · apply ensures_ask_bind
          · intro fault admitted
            cases admitted
          · intro closed _
            have quietClosed :=
              quietReserve.snoc (.ensureClosed audit.capability.server.val) (.ok closed)
                ⟨id, id⟩
            have closedNotRefused (added : List GatewayEvent) :
                ¬ Refused request capability
                  (verdictEvents request capability version decision ++
                    checkEvents checkedAt ++
                    [⟨.reserveCall request.jobId request.budget, .ok (.ok count)⟩] ++
                    [⟨.ensureClosed audit.capability.server.val, .ok closed⟩] ++
                    added) := by
              rw [List.append_assoc]
              exact reserveNotRefused _
            rcases closed with refusal | _
            · exact limited (by decide) (by decide) quietClosed closedNotRefused
            · exact ensures_execute_ends ofCall wellFormed quietClosed closedNotRefused

theorem ensures_runResolved_ends (wellFormed : request.WellFormed) :
    Ensures (Monitor.recorder Answers)
      (CapabilityGateway.runResolved request capability) []
      (Ends request capability) := by
  apply ensures_ask_bind
  · intro fault admitted
    cases admitted
  · intro version _
    apply ensures_ask_bind
    · intro fault admitted
      cases admitted
    · intro decision versionInRange
      have ofCall : AuditContext.OfCall
          ((CapabilityGateway.auditContext request capability version).withPolicyVersion
            decision.policyVersion) request capability :=
        ⟨rfl, rfl, rfl, rfl, rfl, rfl, versionInRange⟩
      split
      · rename_i allowed
        exact ensures_runAllowed_ends ofCall wellFormed allowed
      · rename_i denied
        have refused : RefusedAt request capability decision [] :=
          Or.inl (Bool.not_eq_true _ ▸ denied)
        apply ensures_denied_concluded ofCall wellFormed (by decide)
          (allQuiet_verdictEvents request capability version decision)
        · intro added
          have refusedStill : RefusedAt request capability decision added :=
            Or.inl (Bool.not_eq_true _ ▸ denied)
          exact iff_of_true (refused_verdictEvents_iff.mpr refusedStill) rfl
        · intro fault invocation after carries concluded
          exact ⟨invocation, carries, concluded⟩

/-! ## The record reaches the sink -/

/-- What the sink is handed of one record. -/
theorem ensures_observe {gateway : CapabilityGateway} {log : List GatewayEvent}
    {invocation : ToolInvocation}
    {post : Except GatewayFault Unit → List GatewayEvent → Prop}
    (next : ∀ added, NothingExecuted added →
      auditedOf added = (if gateway.hasAudit then [invocation] else []) →
        post (.ok ()) (log ++ added)) :
    Ensures (Monitor.recorder Answers) (gateway.observe invocation) log post := by
  unfold CapabilityGateway.observe
  split
  · rename_i configured
    rw [if_pos configured] at next
    apply ensures_rescue.mpr
    intro answer _
    have unexecuted : NothingExecuted [⟨.audit invocation, answer⟩] := by
      simp [NothingExecuted, IsExecute]
    have handed : auditedOf [⟨.audit invocation, answer⟩] = [invocation] := rfl
    cases answer with
    | ok stored => exact next _ unexecuted handed
    | error fault => exact next _ unexecuted handed
  · rename_i unset
    simpa using next [] (by simp [NothingExecuted]) (by simp [unset, auditedOf])

/-- Handing the record to the sink completes the contract. -/
theorem Concluded.recorded {gateway : CapabilityGateway} {log added : List GatewayEvent}
    {invocation : ToolInvocation}
    (concluded : Concluded request capability log invocation)
    (unexecuted : NothingExecuted added)
    (handed : auditedOf added = (if gateway.hasAudit then [invocation] else [])) :
    auditedOf (log ++ added) = (if gateway.hasAudit then [invocation] else []) ∧
      RecordContract request capability (log ++ added) invocation := by
  constructor
  · rw [auditedOf_append, auditedOf_of_quiet concluded.unaudited, List.nil_append,
      handed]
  · constructor
    · exact concluded.describes
    · rw [concluded.deniedIff]
      constructor
      · intro nothing
        exact nothing.append unexecuted
      · intro nothing event member
        exact nothing event (List.mem_append_left added member)
    · exact (concluded.settled added).symm

/-- What a whole invocation leaves: nothing where the registry resolves nothing,
and else one record. -/
theorem ensures_invoke {gateway : CapabilityGateway} (wellFormed : request.WellFormed) :
    Ensures (Monitor.recorder Answers) (gateway.invoke request) []
      fun outcome trace =>
        match gateway.registry.resolveFor request.principal request.server
            request.capabilityName with
        | .error missing =>
            outcome = .error (.capabilityNotFound missing) ∧ auditedOf trace = []
        | .ok capability => ∃ invocation,
            recordOf outcome = some invocation ∧
              auditedOf trace = (if gateway.hasAudit then [invocation] else []) ∧
              RecordContract request capability trace invocation := by
  apply ensures_bind.mpr
  apply ensures_rescue.mpr
  unfold CapabilityGateway.invokeUnobserved
  cases gateway.registry.resolveFor request.principal request.server
      request.capabilityName with
  | error missing => exact ⟨rfl, rfl⟩
  | ok capability =>
      apply (ensures_runResolved_ends wellFormed).mono
      intro outcome log ends
      obtain ⟨invocation, carries, concluded⟩ := ends
      cases outcome with
      | ok result =>
          obtain rfl := Option.some.inj carries
          apply ensures_bind.mpr
          apply ensures_observe
          intro added unexecuted handed
          exact ⟨result.invocation, rfl, concluded.recorded unexecuted handed⟩
      | error fault =>
          have carried : fault.invocation? = some invocation := carries
          change Ensures _ (gateway.observeFault fault) log _
          rw [CapabilityGateway.observeFault_of_some carried]
          apply ensures_bind.mpr
          apply ensures_observe
          intro added unexecuted handed
          exact ⟨invocation, carries, concluded.recorded unexecuted handed⟩

end Records

/-! ## Sequences of invocations -/

/-- In every sequence of invocations, each one keeps the contract. -/
theorem invocations_keep_contract {World : Type} (gateway : CapabilityGateway)
    (handler : Handler GatewayCall GatewayCall.Answer GatewayFault World)
    (world : World) (requests : List InvokeRequest)
    (wellFormed : ∀ request ∈ requests, request.WellFormed)
    (answers : ∀ served ∈ gateway.serve handler world requests,
      (Monitor.recorder Answers).Admits [] served.run.trace) :
    ∀ served ∈ gateway.serve handler world requests,
      InvocationContract gateway served.request served.run.trace
        served.run.outcome := by
  intro served member
  obtain ⟨requested, before, run⟩ := CapabilityGateway.exists_world_of_mem_serve member
  have admitted := answers served member
  rw [run] at admitted ⊢
  have ended :=
    (ensures_invoke (wellFormed served.request requested)).sound_recorder admitted
  constructor
  · intro earlier executed answer after split
    exact clearance_before_execute split
  · intro missing refused
    rw [refused] at ended
    exact ended
  · intro capability resolved
    rw [resolved] at ended
    exact ended

/-! ## A call that needs an approval -/

namespace SalesQuery

/-- `postgres.run_analytical_query` of the default catalogue. -/
def capability : Capability where
  server := ⟨"postgres", by decide⟩
  name := ⟨"run_analytical_query", by decide⟩
  requiredRoles := {.requester, .reviewer, .administrator}
  allowedAgents := {.analyst}
  maxAccessClass := .restricted
  requiresApproval := true
  maxResultBytes := 1048576

def gateway : CapabilityGateway where
  registry :=
    { capabilities :=
        ⟨[(("postgres", "run_analytical_query"), capability)], by decide⟩
      keyed := by
        intro key registered found
        have member := Dict.mem_entries_of_get? found
        rw [List.mem_singleton, Prod.mk.injEq] at member
        obtain ⟨rfl, rfl⟩ := member
        decide }
  hasAudit := true

def principal : Principal := { exampleAnalyst with clearance := .restricted }

def arguments : Arguments :=
  Dict.set ∅ "sql" (.text "select sum(amount) from sales")

/-- A granted approval of the call, whose times carry a zone or not. -/
def approval (hasZone : Bool) : ApprovalRequest where
  id := 3
  jobId := 1
  tenantId := "acme"
  mcpServer := ⟨"postgres", by decide⟩
  capability := ⟨"run_analytical_query", by decide⟩
  resourceId := ⟨"schema:acme", by decide⟩
  argumentDigest := argumentDigest arguments
  status := .granted
  requestedAt := ⟨0, hasZone⟩
  expiresAt := ⟨1000, hasZone⟩
  reviewerId := some "reviewer"
  decidedAt := some ⟨0, hasZone⟩
  zonesAgree := rfl
  expiresLater := by
    change (0 : Int) < 1000
    decide
  decidedByReviewer := fun _ => ⟨rfl, rfl⟩

def call (hasZone : Bool) : InvokeRequest where
  principal := principal
  jobId := 1
  taskId := 2
  server := "postgres"
  capabilityName := "run_analytical_query"
  arguments := arguments
  approval := some (approval hasZone)

/-- Collaborators that decide as told and let the call through, at a standing
clock. -/
def handler (decision : PolicyDecision) :
    Handler GatewayCall GatewayCall.Answer GatewayFault Unit
  | _, .policyVersion => (.ok decision.policyVersion, ())
  | _, .evaluate _ => (.ok decision, ())
  | _, .utcNow => (.ok 0, ())
  | _, .reserveCall .. => (.ok (.ok 1), ())
  | _, .ensureClosed _ => (.ok (.ok ()), ())
  | _, .execute _ => (.ok (.ok "[[42]]"), ())
  | _, .recordFailure _ => (.ok (), ())
  | _, .recordSuccess _ => (.ok (), ())
  | _, .uuid4 => (.ok 4, ())
  | _, .audit _ => (.ok (), ())

theorem resolved (hasZone : Bool) :
    gateway.registry.resolveFor (call hasZone).principal (call hasZone).server
      (call hasZone).capabilityName = .ok capability := by
  decide +kernel +revert

/-- The collaborators answer as they document, for a version that fits. -/
theorem handler_answers {decision : PolicyDecision}
    (versionInRange :
      1 ≤ decision.policyVersion.length ∧ decision.policyVersion.length ≤ 4000)
    (program : Governed InvocationResult) :
    (Monitor.recorder Answers).Admits []
      (interpret (handler decision) program ()).trace := by
  -- Every reading on the log is that of the standing clock.
  let standing := fun (log : List GatewayEvent) (_ : Unit) =>
    ∀ reading : Timestamp, ⟨.utcNow, .ok reading⟩ ∈ log → reading = 0
  have start : standing [] () := by
    intro reading member
    cases member
  apply Monitor.admits_interpret standing _ _ program start
  · intro log _ asked stands
    cases asked with
    | evaluate authorization => exact versionInRange
    | utcNow =>
        intro before started executed noted same _
        have begun : started = 0 := by
          apply stands
          rw [same]
          simp
        rw [begun]
        decide
    | _ => trivial
  · intro log _ asked stands reading member
    rcases List.mem_append.mp member with earlier | last
    · exact stands reading earlier
    · have same := List.mem_singleton.mp last
      cases asked <;> cases same
      rfl

end SalesQuery

open SalesQuery

theorem invocations_keep_contract_for_salesQuery :
    ∃ served ∈ gateway.serve (handler .allow) () [call true, call true],
      InvocationContract gateway served.request served.run.trace
        served.run.outcome := by
  refine ⟨_, List.mem_cons_self, ?_⟩
  apply invocations_keep_contract gateway (handler .allow) () [call true, call true]
  · intro request member
    have isCall : request = call true := by simpa using member
    rw [isCall]
    constructor
    · decide
    · intro approval given
      rw [← Option.some.inj given]
      rfl
  · intro served member
    obtain ⟨-, before, run⟩ := CapabilityGateway.exists_world_of_mem_serve member
    rw [run]
    exact handler_answers (by decide) _
  · exact List.mem_cons_self

/-- A version that is one character too long for an audit record. -/
def SalesQuery.longVersion : String := String.ofList (List.replicate 4001 'v')

theorem validate_of_longVersion {fields : InvocationFields}
    (long : 4000 < fields.policyVersion.length) :
    ToolInvocation.validate fields =
      .error ⟨"an audit record breaks its own validators"⟩ := by
  apply dif_neg
  intro valid
  exact absurd valid.versionInRange.2 (Nat.not_le.mpr long)

/-- A denial under a version that does not fit ends without a record. -/
theorem invoke_of_longVersion {decision : PolicyDecision}
    (denied : decision.allowed = false)
    (long : 4000 < decision.policyVersion.length) :
    (interpret (handler decision) (gateway.invoke (call true)) ()).outcome =
      .error (.invalidRecord ⟨"an audit record breaks its own validators"⟩) := by
  unfold CapabilityGateway.invoke CapabilityGateway.invokeUnobserved
  rw [resolved]
  simp only [CapabilityGateway.runResolved, ask, perform, bind_eq, lift,
    Except.mapError, Program.bind, Program.rescue, interpret, handler, denied]
  simp [AuditContext.denied, AuditContext.record, validate_of_longVersion, long, ask,
    perform, lift, Program.bind, Program.rescue, interpret, handler,
    AuditContext.fields, AuditContext.withPolicyVersion, Except.mapError,
    CapabilityGateway.observeFault, GatewayFault.invocation?, raise]

/-- Two resolved calls that end without a record: the policy denies one under a
version of 4001 characters, and the other brings a granted approval whose times
carry no zone. -/
theorem invocations_without_record :
    (longVersion.length = 4001 ∧
      ¬ InvocationContract gateway (call true)
        (interpret (handler (.deny "not permitted" longVersion))
          (gateway.invoke (call true)) ()).trace
        (interpret (handler (.deny "not permitted" longVersion))
          (gateway.invoke (call true)) ()).outcome) ∧
    ((Monitor.recorder Answers).Admits []
        (interpret (handler .allow) (gateway.invoke (call false)) ()).trace ∧
      ¬ InvocationContract gateway (call false)
        (interpret (handler .allow) (gateway.invoke (call false)) ()).trace
        (interpret (handler .allow) (gateway.invoke (call false)) ()).outcome) := by
  have length : longVersion.length = 4001 := by
    unfold longVersion
    rw [String.length_ofList]
    exact List.length_replicate
  have long : 4000 < (PolicyDecision.deny "not permitted"
      longVersion).policyVersion.length := by
    change 4000 < longVersion.length
    omega
  refine ⟨⟨length, ?_⟩, handler_answers (by decide) _, ?_⟩
  · intro contract
    obtain ⟨invocation, carries, -⟩ := contract.recorded capability (resolved true)
    rw [invoke_of_longVersion rfl long] at carries
    cases carries
  · intro contract
    obtain ⟨invocation, carries, -⟩ := contract.recorded capability (resolved false)
    have noRecord : recordOf
        (interpret (handler .allow) (gateway.invoke (call false)) ()).outcome = none := by
      decide +kernel
    rw [noRecord] at carries
    cases carries

end ResearchPlatform
