import ResearchPlatform.Foundation.Interleaving
import ResearchPlatform.Mcp.FastMcpExecutor
import ResearchPlatform.Properties.CircuitHistory

/-!
# What opens a circuit

Gateway calls of any tenants run side by side over one circuit breaker.  The gateway
records every failure of a call alike, whether the server was unavailable or refused
the call because of its arguments.  As long as no server refuses a call, a circuit is
open only after as many failures as the threshold of the breaker.
-/

namespace ResearchPlatform

open Foundation Program

abbrev GatewayEntry : Type := Entry GatewayCall GatewayCall.Answer GatewayFault

/-! ## Calls over one breaker -/

/-- What a request does with the circuits, when the servers respond as given.  The
collaborators other than the breaker and the executor may answer anything. -/
inductive CircuitEffect (breaker : CircuitBreaker) (executor : FastMcpExecutor)
    (responds : ServerResponse → Prop) (circuits : Dict String Circuit) :
    (call : GatewayCall) → Except GatewayFault call.Answer → Dict String Circuit → Prop
  | ensureClosed (server : String) (readings : ClockReadings) (message : String) :
      CircuitEffect breaker executor responds circuits (.ensureClosed server)
        (.ok ((breaker.ensureClosed circuits server readings).1.mapError fun _ =>
          .circuitOpen message))
        (breaker.service.next circuits (.ensureClosed server, readings))
  | recordSuccess (server : String) (readings : ClockReadings) :
      CircuitEffect breaker executor responds circuits (.recordSuccess server) (.ok ())
        (breaker.service.next circuits (.recordSuccess server, readings))
  | recordFailure (server : String) (readings : ClockReadings) :
      CircuitEffect breaker executor responds circuits (.recordFailure server) (.ok ())
        (breaker.service.next circuits (.recordFailure server, readings))
  | execute (request : ExecutionRequest) {response : ServerResponse}
      (isResponse : responds response) :
      CircuitEffect breaker executor responds circuits (.execute request)
        (.ok (executor.execute request response)) circuits
  | executeRaised (request : ExecutionRequest) (fault : GatewayFault) :
      CircuitEffect breaker executor responds circuits (.execute request) (.error fault)
        circuits
  | policyVersion (answer : Except GatewayFault String) :
      CircuitEffect breaker executor responds circuits .policyVersion answer circuits
  | evaluate (request : AuthorizationRequest) (answer : Except GatewayFault PolicyDecision) :
      CircuitEffect breaker executor responds circuits (.evaluate request) answer circuits
  | utcNow (answer : Except GatewayFault Timestamp) :
      CircuitEffect breaker executor responds circuits .utcNow answer circuits
  | reserveCall (jobId : UUID) (budget : ResearchBudget)
      (answer : Except GatewayFault (Except LimitRefusal Nat)) :
      CircuitEffect breaker executor responds circuits (.reserveCall jobId budget) answer
        circuits
  | uuid4 (answer : Except GatewayFault UUID) :
      CircuitEffect breaker executor responds circuits .uuid4 answer circuits
  | audit (invocation : ToolInvocation) (answer : Except GatewayFault Unit) :
      CircuitEffect breaker executor responds circuits (.audit invocation) answer circuits

/-- Calls of any gateways, by any principals, over one breaker; its states are read by
others as well. -/
def gatewayCalls (breaker : CircuitBreaker) (executor : FastMcpExecutor)
    (responds : ServerResponse → Prop) :
    Setting GatewayCall GatewayCall.Answer GatewayFault (Dict String Circuit)
      InvocationResult where
  starts program :=
    ∃ (gateway : CapabilityGateway) (request : InvokeRequest),
      program = gateway.invoke request
  effect := CircuitEffect breaker executor responds
  outside circuits changed :=
    ∃ call readings, (∀ server, recordsOn server call = false) ∧
      changed = breaker.service.next circuits (call, readings)

/-! ## How calls ended -/

/-- The class of the failure that each call was last answered, and for each server the
calls since its last successful one that ended unavailable or in a timeout. -/
structure CallTally where
  answered : Nat → Option ErrorClass := fun _ => none
  unavailable : String → Nat := fun _ => 0

namespace CallTally

/-- A call ends when the gateway records how. -/
def note (tally : CallTally) : GatewayEntry → CallTally
  | (place, ⟨.execute _, .ok (.error error)⟩) =>
      { tally with answered := Function.update tally.answered place (some error.errorClass) }
  | (place, ⟨.recordFailure server, _⟩) =>
      if tally.answered place = some .upstreamUnavailable ∨
          tally.answered place = some .timeout then
        { tally with
          unavailable :=
            Function.update tally.unavailable server (tally.unavailable server + 1) }
      else tally
  | (_, ⟨.recordSuccess server, _⟩) =>
      { tally with unavailable := Function.update tally.unavailable server 0 }
  | _ => tally

/-- The tally of a log. -/
def of (log : List GatewayEntry) : CallTally := runFrom note {} log

theorem of_snoc (log : List GatewayEntry) (entry : GatewayEntry) :
    of (log ++ [entry]) = (of log).note entry :=
  List.foldl_concat ..

end CallTally

/-! ## What a call records -/

/-- The executor raised `UpstreamError`. -/
def ExecutorFailed : GatewayEvent → Prop
  | ⟨.execute _, .ok (.error _)⟩ => True
  | _ => False

/-- A failure is recorded right after the executor answered with one. -/
def RecordsAnswered (own : List GatewayEvent) : GatewayCall → Prop
  | .recordFailure _ =>
      ∃ before request error, own = before ++ [⟨.execute request, .ok (.error error)⟩]
  | _ => True

/-- The call records no failure. -/
def KeepsQuiet : GatewayCall → Prop
  | .recordFailure _ => False
  | _ => True

/-- The program records a failure only where it may. -/
abbrev Follows {α : Type} (program : Governed α) (log : List GatewayEvent) : Prop :=
  Guarded (Monitor.recorder fun _ _ => True) RecordsAnswered program log
    (Returning fun _ _ => True)

section Walk

variable {α β : Type} {program : Governed α} {log : List GatewayEvent}
  {audit : AuditContext} {request : InvokeRequest} {gateway : CapabilityGateway}

theorem follows_of_quiet (quiet : Requests KeepsQuiet program) : Follows program log := by
  apply quiet.guarded
  · intro own call silent
    cases call with
    | recordFailure server => exact silent.elim
    | _ => trivial
  · intro outcome last
    cases outcome <;> trivial

theorem follows_bind {next : α → Governed β} (first : Follows program log)
    (rest : ∀ value after, Follows (next value) after) :
    Follows (program.bind next) log :=
  Guarded.bind first fun value after _ => rest value after

/-- One request that records no failure, then the rest. -/
theorem follows_ask_bind {call : GatewayCall} {next : call.Answer → Governed β}
    (quiet : KeepsQuiet call) (rest : ∀ value after, Follows (next value) after) :
    Follows ((ask call).bind next) log :=
  follows_bind (follows_of_quiet (requests_perform.mpr quiet)) rest

theorem quiet_ask_bind {call : GatewayCall} {next : call.Answer → Governed β}
    (quiet : KeepsQuiet call) (rest : ∀ value, Requests KeepsQuiet (next value)) :
    Requests KeepsQuiet ((ask call).bind next) :=
  requests_bind (requests_perform.mpr quiet) rest

theorem quiet_record {decision : AuthorizationDecision} {outcome : InvocationOutcome}
    {errorClass : ErrorClass} {durationMs : Nat} :
    Requests KeepsQuiet (audit.record decision outcome errorClass durationMs) :=
  audit.requests_record_of trivial trivial decision outcome errorClass durationMs

theorem quiet_denied {reason : String} {errorClass : ErrorClass} :
    Requests KeepsQuiet (audit.denied reason errorClass : Governed α) :=
  audit.requests_denied_of trivial trivial reason errorClass

theorem quiet_requireApproval :
    Requests KeepsQuiet (CapabilityGateway.requireApproval audit request) := by
  unfold CapabilityGateway.requireApproval
  split
  · cases request.approval with
    | none => exact quiet_denied
    | some approval =>
        apply quiet_ask_bind
        · trivial
        intro moment
        split
        · exact requests_finish
        · exact quiet_denied
        · exact requests_finish
  · exact requests_finish

theorem quiet_observe {invocation : ToolInvocation} :
    Requests KeepsQuiet (gateway.observe invocation) := by
  unfold CapabilityGateway.observe
  split
  · apply requests_rescue
    · exact requests_perform.mpr trivial
    · intro fault
      exact requests_finish
  · exact requests_finish

theorem quiet_observeFault {fault : GatewayFault} :
    Requests KeepsQuiet (gateway.observeFault fault) := by
  unfold CapabilityGateway.observeFault
  split
  · exact requests_bind quiet_observe fun _ => requests_finish
  · exact requests_finish

/-- The executor's failure is recorded as soon as it is known. -/
theorem follows_execute {principal : Principal} {arguments : Arguments} :
    Follows (CapabilityGateway.execute audit principal arguments) log := by
  apply follows_ask_bind
  · trivial
  intro started after
  apply guarded_perform_bind trivial
  · intro answered _
    cases answered with
    | error error =>
        apply guarded_perform_bind
        · exact ⟨after, _, error, rfl⟩
        · intro _ _
          apply follows_of_quiet
          apply quiet_ask_bind
          · trivial
          intro finished
          exact requests_bind quiet_record fun _ => requests_finish
        · exact fun _ => trivial
    | ok raw =>
        apply follows_of_quiet
        apply quiet_ask_bind
        · trivial
        intro _
        apply quiet_ask_bind
        · trivial
        intro finished
        exact requests_bind quiet_record fun _ => requests_finish
  · exact fun _ => trivial

theorem follows_runAllowed : Follows (CapabilityGateway.runAllowed audit request) log := by
  apply follows_bind (follows_of_quiet quiet_requireApproval)
  intro _ approved
  apply follows_ask_bind
  · trivial
  intro reserved _
  cases reserved with
  | error refusal => cases refusal <;> exact follows_of_quiet quiet_denied
  | ok count =>
      apply follows_ask_bind
      · trivial
      intro closed _
      cases closed with
      | error refusal => exact follows_of_quiet quiet_denied
      | ok => exact follows_execute

theorem follows_runResolved {capability : Capability} :
    Follows (CapabilityGateway.runResolved request capability) log := by
  apply follows_ask_bind
  · trivial
  intro version _
  apply follows_ask_bind
  · trivial
  intro decision _
  dsimp only
  split
  · exact follows_runAllowed
  · exact follows_of_quiet quiet_denied

theorem follows_invokeUnobserved : Follows (gateway.invokeUnobserved request) log := by
  apply guarded_lift_bind
  · intro capability _
    exact follows_runResolved
  · exact fun _ => trivial

theorem follows_invoke : Follows (gateway.invoke request) log := by
  apply follows_bind
  · apply guarded_rescue.mpr
    apply follows_invokeUnobserved.mono
    intro outcome last _
    cases outcome with
    | ok result => trivial
    | error fault => exact follows_of_quiet quiet_observeFault
  · intro result _
    exact follows_of_quiet (requests_bind quiet_observe fun _ => requests_finish)

end Walk

theorem gatewayCalls_obeys {breaker : CircuitBreaker} {executor : FastMcpExecutor}
    {responds : ServerResponse → Prop} :
    (gatewayCalls breaker executor responds).Obeys RecordsAnswered
      (Returning fun _ _ => True) := by
  rintro program ⟨gateway, request, rfl⟩
  exact follows_invoke

/-! ## The failures behind a circuit -/

/-- A circuit counts no more failures than there were, and is only open or half open
after as many as the threshold. -/
structure Backed (breaker : CircuitBreaker) (circuit : Circuit) (count : Nat) : Prop where
  counted : circuit.state = .closed → circuit.failures ≤ count
  reached : circuit.state ≠ .closed → breaker.failureThreshold ≤ count

section Circuits

variable {breaker : CircuitBreaker} {circuit : Circuit} {count : Nat} {now : Timestamp}
  {server : String} {call : BreakerCall} {readings : ClockReadings}

theorem backed_empty : Backed breaker {} count where
  counted _ := Nat.zero_le count
  reached notClosed := absurd rfl notClosed

theorem Backed.refreshed {cooldown : Int} (backed : Backed breaker circuit count) :
    Backed breaker (circuit.refreshed cooldown now) count := by
  by_cases isOpen : circuit.state = .opened
  · have reached : breaker.failureThreshold ≤ count := backed.reached (by simp [isOpen])
    rw [Circuit.refreshed, dif_pos isOpen]
    split
    · exact ⟨(fun closed => by cases closed), fun _ => reached⟩
    · exact backed
  · rw [Circuit.refreshed_of_ne_opened isOpen]
    exact backed

/-- One more failure is counted and may open the circuit. -/
theorem Backed.failed (backed : Backed breaker circuit count) :
    Backed breaker (breaker.failed circuit now) (count + 1) := by
  have reachedStill (notClosed : circuit.state ≠ .closed) :
      breaker.failureThreshold ≤ count + 1 :=
    Nat.le_succ_of_le (backed.reached notClosed)
  unfold CircuitBreaker.failed
  by_cases isHalf : circuit.state = .halfOpen
  · rw [if_pos isHalf]
    exact ⟨(fun closed => by cases closed), fun _ => reachedStill (by simp [isHalf])⟩
  · rw [if_neg isHalf]
    by_cases many : circuit.failures + 1 ≥ breaker.failureThreshold
    · rw [if_pos many]
      refine ⟨(fun closed => by cases closed), fun _ => ?_⟩
      by_cases closed : circuit.state = .closed
      · have counted := backed.counted closed
        omega
      · exact reachedStill closed
    · rw [if_neg many]
      exact ⟨fun closed => Nat.succ_le_succ (backed.counted closed), reachedStill⟩

theorem Backed.afterRead (backed : Backed breaker circuit count)
    (isRead : ∀ server, recordsOn server call = false) :
    Backed breaker (circuit.afterCall breaker server (call, readings)) count := by
  cases call with
  | recordSuccess other => simpa [recordsOn] using isRead other
  | recordFailure other => simpa [recordsOn] using isRead other
  | states => exact backed.refreshed
  | _ =>
      rw [Circuit.afterCall]
      split
      · exact backed.refreshed
      · exact backed

end Circuits

/-- The log accounts for the circuits: each is backed by the calls that ended
unavailable, and what the executor last answered to a call is noted. -/
structure Accounted (breaker : CircuitBreaker) (log : List GatewayEntry)
    (circuits : Dict String Circuit) : Prop where
  backed : ∀ server, Backed breaker (circuitOf circuits server)
    ((CallTally.of log).unavailable server)
  noted : ∀ {place before request error},
    eventsOf place log = before ++ [⟨.execute request, .ok (.error error)⟩] →
      (CallTally.of log).answered place = some error.errorClass
  classes : ∀ {place errorClass}, (CallTally.of log).answered place = some errorClass →
    errorClass = .upstreamUnavailable ∨ errorClass = .timeout

section Runs

variable {breaker : CircuitBreaker} {executor : FastMcpExecutor}
  {responds : ServerResponse → Prop} {log : List GatewayEntry}
  {circuits changed : Dict String Circuit} {place : Nat} {call : GatewayCall}
  {answer : Except GatewayFault call.Answer}

theorem accounted_nothing : Accounted breaker [] ∅ where
  backed _ := backed_empty
  noted := by
    intro place before request error impossible
    simp at impossible
  classes := nofun

/-- A step that is no failure of the executor leaves what was answered to each call. -/
theorem Accounted.unanswered {entry : GatewayEntry}
    (accounted : Accounted breaker log circuits)
    (still : ((CallTally.of log).note entry).answered = (CallTally.of log).answered)
    (unfailed : ¬ ExecutorFailed entry.2)
    (backed : ∀ server, Backed breaker (circuitOf changed server)
      (((CallTally.of log).note entry).unavailable server)) :
    Accounted breaker (log ++ [entry]) changed where
  backed := by
    rw [CallTally.of_snoc]
    exact backed
  noted := by
    intro place before request error ends
    rw [CallTally.of_snoc, still]
    obtain ⟨answered, event⟩ := entry
    by_cases same : answered = place
    · subst same
      rw [eventsOf_snoc_self] at ends
      have isLast := List.singleton_inj.mp (List.append_inj' ends rfl).2
      subst isLast
      exact absurd trivial unfailed
    · rw [eventsOf_snoc_of_ne same] at ends
      exact accounted.noted ends
  classes := by
    rw [CallTally.of_snoc, still]
    exact accounted.classes

/-- A failure of the executor is noted for the call that it ends. -/
theorem Accounted.failed {request : ExecutionRequest} {error : UpstreamError}
    (accounted : Accounted breaker log circuits)
    (unrefused : error.errorClass = .upstreamUnavailable ∨ error.errorClass = .timeout) :
    Accounted breaker (log ++ [(place, ⟨.execute request, .ok (.error error)⟩)])
      circuits where
  backed := by
    rw [CallTally.of_snoc]
    exact accounted.backed
  noted := by
    intro other before asked raised ends
    rw [CallTally.of_snoc]
    by_cases same : place = other
    · subst same
      rw [eventsOf_snoc_self] at ends
      have isLast := List.singleton_inj.mp (List.append_inj' ends rfl).2
      cases isLast
      exact Function.update_self ..
    · rw [eventsOf_snoc_of_ne same] at ends
      rw [← accounted.noted ends]
      exact Function.update_of_ne (Ne.symm same) ..
  classes := by
    intro other errorClass
    rw [CallTally.of_snoc]
    intro found
    by_cases same : other = place
    · subst same
      have known : some error.errorClass = some errorClass :=
        (Function.update_self other _ _).symm.trans found
      rw [← Option.some.inj known]
      exact unrefused
    · exact accounted.classes ((Function.update_of_ne same _ _).symm.trans found)

/-- Circuits that are only read stay backed. -/
theorem Accounted.read {reading : BreakerCall} {readings : ClockReadings}
    (accounted : Accounted breaker log circuits)
    (isRead : ∀ server, recordsOn server reading = false) (server : String) :
    Backed breaker (circuitOf (breaker.service.next circuits (reading, readings)) server)
      ((CallTally.of log).unavailable server) := by
  rw [circuitOf_next]
  exact (accounted.backed server).afterRead isRead

/-- A recorded success starts the count again. -/
theorem Accounted.succeeded {server : String} {readings : ClockReadings}
    {answer : Except GatewayFault Unit} (accounted : Accounted breaker log circuits) :
    Accounted breaker (log ++ [(place, ⟨.recordSuccess server, answer⟩)])
      (breaker.service.next circuits (.recordSuccess server, readings)) := by
  apply accounted.unanswered rfl id
  intro other
  rw [circuitOf_next, Circuit.afterCall]
  by_cases same : server = other
  · rw [if_pos same]
    exact backed_empty
  · rw [if_neg same]
    have kept : Function.update (CallTally.of log).unavailable server 0 other =
        (CallTally.of log).unavailable other := Function.update_of_ne (Ne.symm same) ..
    simp only [CallTally.note, kept]
    exact accounted.backed other

/-- A recorded failure counts one more, for the failure that the executor answered. -/
theorem Accounted.recorded {server : String} {readings : ClockReadings}
    {answer : Except GatewayFault Unit} (accounted : Accounted breaker log circuits)
    (permitted : RecordsAnswered (eventsOf place log) (.recordFailure server)) :
    Accounted breaker (log ++ [(place, ⟨.recordFailure server, answer⟩)])
      (breaker.service.next circuits (.recordFailure server, readings)) := by
  obtain ⟨before, request, error, ends⟩ := permitted
  have known := accounted.noted ends
  have counted : (CallTally.of log).answered place = some .upstreamUnavailable ∨
      (CallTally.of log).answered place = some .timeout := by
    rw [known, Option.some.injEq, Option.some.injEq]
    exact accounted.classes known
  have noted : (CallTally.of log).note (place, ⟨.recordFailure server, answer⟩) =
      ⟨(CallTally.of log).answered, Function.update (CallTally.of log).unavailable server
        ((CallTally.of log).unavailable server + 1)⟩ := if_pos counted
  apply accounted.unanswered (by rw [noted]) id
  intro other
  simp only [noted]
  rw [circuitOf_next, Circuit.afterCall]
  by_cases same : server = other
  · subst same
    rw [if_pos rfl, Function.update_self]
    exact (accounted.backed server).refreshed.failed
  · rw [if_neg same, Function.update_of_ne (Ne.symm same)]
    exact accounted.backed other

/-- Every step keeps the account, when no server refuses a call. -/
theorem Accounted.step (accounted : Accounted breaker log circuits)
    (permitted : RecordsAnswered (eventsOf place log) call)
    (effect : CircuitEffect breaker executor (¬ executor.Refuses ·) circuits call answer
      changed) :
    Accounted breaker (log ++ [(place, ⟨call, answer⟩)]) changed := by
  cases effect with
  | ensureClosed server readings message =>
      exact accounted.unanswered rfl id (accounted.read fun _ => rfl)
  | recordSuccess server readings => exact accounted.succeeded
  | recordFailure server readings => exact accounted.recorded permitted
  | @execute request response accepted =>
      cases executed : executor.execute request response with
      | error error =>
          exact accounted.failed (FastMcpExecutor.errorClass_of_execute executed accepted)
      | ok text =>
          exact accounted.unanswered rfl id accounted.backed
  | executeRaised request fault =>
      exact accounted.unanswered rfl id accounted.backed
  | _ => exact accounted.unanswered rfl id accounted.backed

/-- A run in which no server refuses a call is accounted for. -/
theorem accounted_of_reaches
    {pool : Pool GatewayCall GatewayCall.Answer GatewayFault (Dict String Circuit)
      InvocationResult}
    (reaches : (gatewayCalls breaker executor (¬ executor.Refuses ·)).Reaches ∅ log pool) :
    Accounted breaker log pool.world := by
  apply Setting.Reaches.invariant gatewayCalls_obeys accounted_nothing _ _ reaches
    (fun _ _ _ _ => trivial : Throughout (fun _ _ => True) log)
  · intro log world changed place call answer accounted permitted effect _
    exact accounted.step permitted effect
  · rintro log world next accounted ⟨call, readings, isRead, rfl⟩
    exact ⟨accounted.read isRead, accounted.noted, accounted.classes⟩

/-- A circuit that turns a call away is open. -/
theorem Backed.turnedAway {server : String} {readings : ClockReadings} {count : Nat}
    {refusal : CircuitOpen} (backed : Backed breaker (circuitOf circuits server) count)
    (refused : (breaker.ensureClosed circuits server readings).1 = .error refusal) :
    breaker.failureThreshold ≤ count := by
  have isOpen :
      (breaker.refresh circuits server (readings.looked server)).1.state = .opened := by
    by_contra notOpen
    simp [CircuitBreaker.ensureClosed, notOpen] at refused
  rw [refresh_fst] at isOpen
  apply backed.refreshed.reached
  rw [isOpen]
  intro closed
  cases closed

end Runs

/-- In every run of gateway calls in which no server refuses a call because of its
arguments, a circuit that is open, and one that turns a call away, stands for at least
as many calls as the threshold that ended unavailable or in a timeout since the last
successful call to the server. -/
theorem circuits_openOnlyWhenUnavailable (breaker : CircuitBreaker)
    (executor : FastMcpExecutor) {log : List GatewayEntry}
    {pool : Pool GatewayCall GatewayCall.Answer GatewayFault (Dict String Circuit)
      InvocationResult}
    (reaches : (gatewayCalls breaker executor (¬ executor.Refuses ·)).Reaches ∅ log pool) :
    (∀ server, (circuitOf pool.world server).state = .opened →
        breaker.failureThreshold ≤ (CallTally.of log).unavailable server) ∧
      ∀ before place server refusal after,
        log = before ++ (place, ⟨.ensureClosed server, .ok (.error refusal)⟩) :: after →
          breaker.failureThreshold ≤ (CallTally.of before).unavailable server := by
  constructor
  · intro server isOpen
    exact ((accounted_of_reaches reaches).backed server).reached (by simp [isOpen])
  · intro before place server refusal after split
    subst split
    obtain ⟨circuits, changed, programs, resume, earlier, -, effect⟩ := reaches.at_entry
    have backed := (accounted_of_reaches earlier).backed server
    generalize given : Except.ok (Except.error refusal) = answer at effect
    cases effect with
    | ensureClosed _ readings message =>
        cases looked : (breaker.ensureClosed circuits server readings).1 with
        | error circuitOpen => exact backed.turnedAway looked
        | ok =>
            rw [looked] at given
            cases given

namespace CalculatorCalls

def capability : Capability where
  server := calculatorName
  name := addName
  allowedAgents := {.analyst}

def gateway : CapabilityGateway where
  registry := (CapabilityRegistry.ofList [capability]).toOption.getD {}
  hasAudit := false

def acme : Principal := exampleAnalyst

def globex : Principal where
  tenantId := "globex"
  subjectId := "job:2"
  agentRole := some .analyst
  tenantGiven := by decide
  subjectGiven := by decide

def callBy (principal : Principal) : InvokeRequest :=
  ⟨principal, 1, 2, "calculator", "add", ∅, {}, none⟩

/-- A breaker that opens at the first failure. -/
def breaker : CircuitBreaker where
  failureThreshold := 1

def executor : FastMcpExecutor where
  servers := (∅ : Dict String Target).set "calculator" .inProcess
  lower text := String.ofList (text.toList.map Char.toLower)

/-- Collaborators at a standing clock, over the breaker and a server that responds the
same to each call. -/
def handler (response : ServerResponse) :
    Handler GatewayCall GatewayCall.Answer GatewayFault (Dict String Circuit)
  | circuits, .policyVersion => (.ok "v1", circuits)
  | circuits, .evaluate _ => (.ok (.allow "v1"), circuits)
  | circuits, .utcNow => (.ok 0, circuits)
  | circuits, .reserveCall .. => (.ok (.ok 1), circuits)
  | circuits, .ensureClosed server =>
      (.ok ((breaker.ensureClosed circuits server (.at 0)).1.mapError fun _ =>
        .circuitOpen "the circuit is open"),
        breaker.service.next circuits (.ensureClosed server, .at 0))
  | circuits, .execute asked => (.ok (executor.execute asked response), circuits)
  | circuits, .recordFailure server =>
      (.ok (), breaker.service.next circuits (.recordFailure server, .at 0))
  | circuits, .recordSuccess server =>
      (.ok (), breaker.service.next circuits (.recordSuccess server, .at 0))
  | circuits, .uuid4 => (.ok 4, circuits)
  | circuits, .audit _ => (.ok (), circuits)

theorem handles {responds : ServerResponse → Prop} {response : ServerResponse}
    (isResponse : responds response) (circuits : Dict String Circuit) (call : GatewayCall) :
    (gatewayCalls breaker executor responds).effect circuits call
      (handler response circuits call).1 (handler response circuits call).2 := by
  cases call with
  | ensureClosed server => exact .ensureClosed server (.at 0) _
  | recordSuccess server => exact .recordSuccess server (.at 0)
  | recordFailure server => exact .recordFailure server (.at 0)
  | execute asked => exact .execute asked isResponse
  | policyVersion => exact .policyVersion _
  | evaluate asked => exact .evaluate asked _
  | utcNow => exact .utcNow _
  | reserveCall jobId budget => exact .reserveCall jobId budget _
  | uuid4 => exact .uuid4 _
  | audit invocation => exact .audit invocation _

/-- A call by the first tenant. -/
def firstRun (response : ServerResponse) :
    Run GatewayCall GatewayCall.Answer GatewayFault (Dict String Circuit)
      InvocationResult :=
  interpret (handler response) (gateway.invoke (callBy acme)) ∅

/-- Then a call by the second, over the same circuits. -/
def secondRun (response : ServerResponse) :
    Run GatewayCall GatewayCall.Answer GatewayFault (Dict String Circuit)
      InvocationResult :=
  interpret (handler response) (gateway.invoke (callBy globex)) (firstRun response).world

/-- Both calls, one after the other. -/
def log (response : ServerResponse) : List GatewayEntry :=
  (firstRun response).trace.map (0, ·) ++ (secondRun response).trace.map (1, ·)

theorem reaches {responds : ServerResponse → Prop} {response : ServerResponse}
    (isResponse : responds response) :
    (gatewayCalls breaker executor responds).Reaches ∅ (log response)
      ⟨(secondRun response).world,
        [finish (firstRun response).outcome, finish (secondRun response).outcome]⟩ := by
  have first : (gatewayCalls breaker executor responds).Reaches ∅ []
      ⟨∅, [] ++ [gateway.invoke (callBy acme)]⟩ :=
    Setting.Reaches.nothing.start ⟨gateway, callBy acme, rfl⟩
  have second := (first.interpret (handles isResponse) _).start
    ⟨gateway, callBy globex, rfl⟩
  exact second.interpret (handles isResponse) _

/-- The server finds the arguments invalid. -/
def refusal : ServerResponse where
  reply := .raised "1 validation error for call[add]"

/-- The server does not respond in time. -/
def silence : ServerResponse where
  reply := .timedOut

theorem silence_accepted : ¬ executor.Refuses silence := by
  rintro ⟨message, replied, -⟩
  cases replied

end CalculatorCalls

open CalculatorCalls

theorem circuits_openOnlyWhenUnavailable_at_silence :
    (circuitOf (secondRun silence).world "calculator").state = .opened ∧
      breaker.failureThreshold ≤ (CallTally.of (log silence)).unavailable "calculator" := by
  have isOpen : (circuitOf (secondRun silence).world "calculator").state = .opened := by
    decide +kernel
  have opened := (circuits_openOnlyWhenUnavailable breaker executor
    (reaches silence_accepted)).1
  exact ⟨isOpen, opened "calculator" isOpen⟩

/-- One call of a tenant, refused because of its arguments, opens the circuit of a
server that never failed, and the next tenant's call is denied. -/
theorem circuit_opens_on_refusedArguments :
    ∃ log pool, (gatewayCalls breaker executor fun _ => True).Reaches ∅ log pool ∧
      (circuitOf pool.world "calculator").state = .opened ∧
      ¬ breaker.failureThreshold ≤ (CallTally.of log).unavailable "calculator" ∧
      ∃ invocation, pool.programs[1]? =
        some (finish (.error (.denied "the circuit is open" invocation))) := by
  refine ⟨log refusal, _, reaches trivial, ?_, ?_, ?_⟩
  · decide +kernel
  · decide +kernel
  · exact ⟨_, rfl⟩

end ResearchPlatform
