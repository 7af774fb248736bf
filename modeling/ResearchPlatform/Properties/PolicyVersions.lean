import ResearchPlatform.Foundation.Interleaving
import ResearchPlatform.Foundation.Outcome
import ResearchPlatform.Mcp.Opa
import ResearchPlatform.Properties.GatewayRecords

/-!
# Which policy a decision names

`OpaPolicyEngine` keeps the version of its last decision in a field that all requests share,
and the combined engine reads it once every engine has decided.  So a decision names the
policy that made it as long as no other request's decision has come between with another
version.
-/

namespace ResearchPlatform

open Foundation Program

/-! ## The field of an engine -/

abbrev PolicyEntry : Type := Entry PolicyCall PolicyCall.Answer PolicyFault

/-- The version that an event leaves in the field of an engine. -/
def keptBy (engine : Nat) : PolicyEvent → Option String
  | ⟨.keepVersion other version, .ok _⟩ => if other = engine then some version else none
  | _ => none

/-- The version that an engine kept last. -/
def lastKept (engine : Nat) (events : List PolicyEvent) : Option String :=
  events.foldl (fun last event => (keptBy engine event).or last) none

section LastKept

variable {engine other : Nat} {version : String} {events : List PolicyEvent}
  {event : PolicyEvent}

@[simp]
theorem lastKept_nil : lastKept engine [] = none := rfl

theorem lastKept_snoc :
    lastKept engine (events ++ [event]) = (keptBy engine event).or (lastKept engine events) := by
  simp [lastKept]

theorem lastKept_keep :
    lastKept engine (events ++ [⟨.keepVersion engine version, .ok ()⟩]) = some version := by
  simp [lastKept_snoc, keptBy]

theorem lastKept_quiet (quiet : keptBy engine event = none) :
    lastKept engine (events ++ [event]) = lastKept engine events := by
  rw [lastKept_snoc, quiet, Option.none_or]

theorem keptBy_of_ne {answer : Except PolicyFault Unit} (different : other ≠ engine) :
    keptBy engine ⟨.keepVersion other version, answer⟩ = none := by
  cases answer with
  | error fault => rfl
  | ok kept => exact if_neg different

end LastKept

/-! ## What one evaluation makes of what it reads -/

/-- Each version that was read is the one that was kept last, or the marker that stands
there at first. -/
def ReadsLast (events : List PolicyEvent) : Prop :=
  ∀ before engine version after,
    events = before ++ ⟨.policyVersion engine, .ok version⟩ :: after →
      (lastKept engine before).getD unavailableVersion = version

/-- The decision carries the version that its engine now has. -/
def Stamped (events : List PolicyEvent) : PolicyEngine × Nat → PolicyDecision → Prop
  | (.fixed engine, _), decision => decision.policyVersion = engine.policyVersion
  | (.opa, place), decision => lastKept place events = some decision.policyVersion

/-- Each decision carries the version that its engine now has. -/
abbrev AllStamped (events : List PolicyEvent) : List (PolicyEngine × Nat) →
    List PolicyDecision → Prop :=
  List.Forall₂ (Stamped events)

section Evaluation

variable {request : AuthorizationRequest} {engines : List PolicyEngine} {start : Nat}
  {events : List PolicyEvent} {decisions : List PolicyDecision}

abbrev Watched {α : Type} (program : Deciding α) (events : List PolicyEvent)
    (ends : Except PolicyFault α → List PolicyEvent → Prop) : Prop :=
  Guarded (Monitor.recorder fun _ _ => True) (fun _ _ => True) program events ends

/-- A decision stays stamped while the field of its engine does. -/
theorem Stamped.kept {later : List PolicyEvent} {placed : PolicyEngine × Nat}
    {decision : PolicyDecision} (stamped : Stamped events placed decision)
    (same : lastKept placed.2 later = lastKept placed.2 events) :
    Stamped later placed decision := by
  obtain ⟨engine, place⟩ := placed
  cases engine with
  | fixed engine => exact stamped
  | opa => exact same.trans stamped

/-- The loop leaves each decision stamped, and the fields of earlier engines alone.  The
induction is on the engines that are left. -/
theorem watched_decisions :
    Watched (AllOfPolicyEngine.decisions request (engines.zipIdx start)) events
      (Returning fun decisions later => AllStamped later (engines.zipIdx start) decisions ∧
        ∀ earlier < start, lastKept earlier later = lastKept earlier events) := by
  induction engines generalizing start events with
  | nil => exact ⟨.nil, fun _ _ => rfl⟩
  | cons engine rest inductionHypothesis =>
      rw [List.zipIdx_cons, AllOfPolicyEngine.decisions]
      have first : Watched (PolicyEngine.evaluate request (engine, start)) events
          (Returning fun decision later => Stamped later (engine, start) decision ∧
            ∀ earlier < start, lastKept earlier later = lastKept earlier events) := by
        cases engine with
        | fixed engine =>
            have decides : PolicyEngine.evaluate request (.fixed engine, start) =
                lift (engine.evaluate request) := rfl
            rw [decides]
            cases decided : engine.evaluate request with
            | error fault => trivial
            | ok decision => exact ⟨engine.carries request decision decided, fun _ _ => rfl⟩
        | opa =>
            apply guarded_perform_bind trivial
            · intro response _
              apply guarded_perform_bind trivial
              · intro _ _
                refine ⟨lastKept_keep, ?_⟩
                intro earlier before
                rw [Monitor.recorder, lastKept_quiet (keptBy_of_ne (Nat.ne_of_gt before))]
                exact lastKept_quiet rfl
              · exact fun _ => trivial
            · exact fun _ => trivial
      apply first.bind
      intro decision middle decided
      obtain ⟨stamped, kept⟩ := decided
      apply (@inductionHypothesis (start + 1) middle).bind
      intro others last rest
      obtain ⟨allStamped, keptRest⟩ := rest
      refine ⟨.cons (stamped.kept (keptRest start (Nat.lt_succ_self start))) allStamped, ?_⟩
      intro earlier before
      rw [keptRest earlier (Nat.lt_succ_of_lt before), kept earlier before]

/-- What is read last is what the decisions carry. -/
theorem watched_versions (stamped : AllStamped events (engines.zipIdx start) decisions) :
    Watched (AllOfPolicyEngine.versions (engines.zipIdx start)) events
      (Returning fun versions later => events <+: later ∧
        (ReadsLast later → versions = decisions.map (·.policyVersion))) := by
  induction engines generalizing start events decisions with
  | nil =>
      cases stamped
      exact ⟨List.prefix_rfl, fun _ => rfl⟩
  | cons engine rest inductionHypothesis =>
      rw [List.zipIdx_cons] at stamped ⊢
      rw [AllOfPolicyEngine.versions]
      obtain ⟨decision, others, here, later, rfl⟩ := List.forall₂_cons_left_iff.mp stamped
      cases engine with
      | fixed engine =>
          have rest := @inductionHypothesis (start + 1) events others later
          apply rest.bind
          rintro versions last ⟨goesOn, names⟩
          refine ⟨goesOn, ?_⟩
          intro readsLast
          rw [names readsLast, List.map_cons, here]
      | opa =>
          apply guarded_perform_bind trivial
          · intro version _
            have still : AllStamped (events ++ [⟨.policyVersion start, .ok version⟩])
                (rest.zipIdx (start + 1)) others := by
              apply later.imp
              intro placed decision stamped
              exact stamped.kept (lastKept_quiet rfl)
            apply (inductionHypothesis still).bind
            rintro versions last ⟨⟨added, whole⟩, names⟩
            refine ⟨⟨⟨.policyVersion start, .ok version⟩ :: added, by simp [← whole]⟩, ?_⟩
            intro readsLast
            have isLast := readsLast events start version added (by simp [← whole])
            have isKept : lastKept start events = some decision.policyVersion := here
            rw [isKept, Option.getD_some] at isLast
            rw [names readsLast, List.map_cons, isLast]
          · exact fun _ => trivial

/-- An evaluation that reads what was kept last names the versions of its own decisions. -/
theorem watched_decide {engine : AllOfPolicyEngine} :
    Watched (engine.decide request) events (Returning fun decided later =>
      ReadsLast later → decided.2.policyVersion =
        "+".intercalate (decided.1.map (·.policyVersion))) := by
  apply watched_decisions.bind
  rintro decisions middle ⟨stamped, -⟩
  have reading : Watched engine.policyVersion middle (Returning fun version later =>
      ReadsLast later → version = "+".intercalate (decisions.map (·.policyVersion))) := by
    apply (watched_versions stamped).bind
    rintro versions last ⟨-, names⟩ readsLast
    rw [names readsLast]
  apply reading.bind
  intro version last names readsLast
  have carried : (AllOfPolicyEngine.combined decisions version).policyVersion = version := by
    unfold AllOfPolicyEngine.combined
    dsimp only
    split <;> rfl
  rw [← names readsLast, carried]

end Evaluation

/-! ## Evaluations side by side -/

/-- What a request does with the fields.  What a deployment responds is open. -/
inductive VersionEffect (kept : Nat → String) :
    (call : PolicyCall) → Except PolicyFault call.Answer → (Nat → String) → Prop
  | post (engine : Nat) (input : Json) (answer : Except PolicyFault OpaResponse) :
      VersionEffect kept (.post engine input) answer kept
  | keepVersion (engine : Nat) (version : String) :
      VersionEffect kept (.keepVersion engine version) (.ok ())
        (Function.update kept engine version)
  | policyVersion (engine : Nat) :
      VersionEffect kept (.policyVersion engine) (.ok (kept engine)) kept

/-- Any number of evaluations by one combined engine. -/
def evaluations (engine : AllOfPolicyEngine) :
    Setting PolicyCall PolicyCall.Answer PolicyFault (Nat → String)
      (List PolicyDecision × PolicyDecision) where
  starts program := ∃ request, program = engine.decide request
  effect := VersionEffect
  outside _ _ := False

/-- Whenever a request reads the version of an engine, the last version that the engine kept
is the one it kept for this request. -/
def ReadsOwn (before : List PolicyEntry) : PolicyEntry → Prop
  | (place, ⟨.policyVersion engine, _⟩) =>
      lastKept engine (before.map Prod.snd) = lastKept engine (eventsOf place before)
  | _ => True

section Evaluations

variable {engine : AllOfPolicyEngine} {log : List PolicyEntry}
  {pool : Pool PolicyCall PolicyCall.Answer PolicyFault (Nat → String)
    (List PolicyDecision × PolicyDecision)}

theorem evaluations_obey :
    (evaluations engine).Obeys (fun _ _ => True) (Returning fun decided own =>
      ReadsLast own → decided.2.policyVersion =
        "+".intercalate (decided.1.map (·.policyVersion))) := by
  rintro program ⟨request, rfl⟩
  exact watched_decide

/-- A field holds what was kept last. -/
theorem world_eq_lastKept
    (reaches : (evaluations engine).Reaches (fun _ => unavailableVersion) log pool) (place : Nat) :
    pool.world place = (lastKept place (log.map Prod.snd)).getD unavailableVersion := by
  have always : Throughout (fun _ _ => True) log := fun _ _ _ _ => trivial
  refine @Setting.Reaches.invariant _ _ _ _ _ (evaluations engine) _ log pool _ _ _
    (fun log kept => ∀ place,
      kept place = (lastKept place (log.map Prod.snd)).getD unavailableVersion)
    evaluations_obey (fun _ => rfl) ?_ ?_ reaches always place
  · intro log kept changed made call answer holds _ effect _ place
    rw [List.map_append, List.map_singleton]
    cases effect with
    | post => rw [lastKept_quiet rfl, holds place]
    | policyVersion => rw [lastKept_quiet rfl, holds place]
    | keepVersion other version =>
        by_cases same : place = other
        · subst same
          rw [lastKept_keep, Function.update_self, Option.getD_some]
        · rw [lastKept_quiet (keptBy_of_ne (Ne.symm same)), Function.update_of_ne same,
            holds place]
  · intro log kept next _ impossible
    cases impossible

/-- In such runs each request reads what was kept last for itself. -/
theorem readsLast_of_readsOwn
    (reaches : (evaluations engine).Reaches (fun _ => unavailableVersion) log pool)
    (own : Throughout ReadsOwn log) (place : Nat) : ReadsLast (eventsOf place log) := by
  intro before asked version after split
  obtain ⟨first, last, rfl, isOwn⟩ := exists_split_of_eventsOf split
  obtain ⟨kept, changed, programs, resume, earlier, -, effect⟩ := reaches.at_entry
  have unmoved := own first _ last rfl
  have holds := world_eq_lastKept earlier asked
  generalize given : Except.ok version = answer at effect
  cases effect with
  | policyVersion =>
      rw [Except.ok.inj given, ← isOwn]
      exact (congrArg (·.getD unavailableVersion) unmoved.symm).trans holds.symm

end Evaluations

/-! ## What the gateway records -/

/-- The version of the last decision, and collaborators that raise no audit records. -/
def versionMonitor : Monitor GatewayCall GatewayCall.Answer GatewayFault (Option String) where
  observe
    | _, ⟨.evaluate _, .ok decision⟩ => some decision.policyVersion
    | decided, _ => decided
  admits _ event := ∀ fault, event.2 = .error fault → fault.invocation? = none

/-- A record that is handed to the sink names the version of the decision. -/
def AuditsDecided (decided : Option String) : GatewayCall → Prop
  | .audit invocation => decided = some invocation.policyVersion
  | _ => True

/-- The version stays, and a fault carries no record of another one. -/
def Names {α : Type} (version : String) (good : α → Prop) :
    Except GatewayFault α → Option String → Prop
  | .ok value, decided => decided = some version ∧ good value
  | .error fault, decided => decided = some version ∧
      ∀ invocation, fault.invocation? = some invocation → invocation.policyVersion = version

section Gateway

variable {α β World : Type} {version : String} {audit : AuditContext} {request : InvokeRequest}
  {gateway : CapabilityGateway} {decided : Option String}

abbrev Naming (program : Governed α) (version : String) (good : α → Prop) : Prop :=
  Guarded versionMonitor AuditsDecided program (some version) (Names version good)

/-- Calls that do not decide leave the version. -/
theorem allowsPlain_versionMonitor :
    AllowsPlain versionMonitor AuditsDecided decided where
  permitted call plain := by
    cases call with
    | audit invocation => cases plain
    | _ => trivial
  still call answer plain := by
    cases call with
    | evaluate asked => cases plain
    | audit invocation => cases plain
    | _ => rfl
  unrecorded call fault admitted := admitted fault rfl

theorem policyVersion_of_madeFrom {invocation : ToolInvocation}
    (made : MadeFrom audit invocation) : invocation.policyVersion = audit.policyVersion := by
  obtain ⟨decision, outcome, errorClass, durationMs, id, startedAt, same⟩ := made
  exact congrArg InvocationFields.policyVersion same

/-- What is recorded names the version of the decision that was made. -/
def NamesDecision (outcome : Except GatewayFault InvocationResult)
    (decided : Option String) : Prop :=
  ∀ invocation, recordOf outcome = some invocation → decided = some invocation.policyVersion

theorem names_of_records {α : Type} {good : α → Prop} {outcome : Except GatewayFault α}
    (records : Records (some version) (fun invocation => invocation.policyVersion = version)
      good outcome decided) : Names version good outcome decided := by
  cases outcome with
  | ok value => exact records
  | error fault => exact records

theorem namesDecision_of_names {outcome : Except GatewayFault InvocationResult}
    (names : Names version (fun result => result.invocation.policyVersion = version) outcome
      decided) : NamesDecision outcome decided := by
  intro invocation recorded
  cases outcome with
  | ok result =>
      obtain ⟨rfl, same⟩ := names
      rw [← Option.some.inj recorded, same]
  | error fault =>
      obtain ⟨rfl, same⟩ := names
      rw [same invocation recorded]

theorem guarded_invokeUnobserved :
    Guarded versionMonitor AuditsDecided (gateway.invokeUnobserved request) none
      NamesDecision := by
  have unrecorded {fault : GatewayFault} {decided : Option String}
      (plain : fault.invocation? = none) :
      NamesDecision (.error fault) decided := by
    intro invocation recorded
    have carried : fault.invocation? = some invocation := recorded
    rw [plain] at carried
    cases carried
  unfold CapabilityGateway.invokeUnobserved
  cases gateway.registry.resolveFor request.principal request.server request.capabilityName with
  | error missing => exact unrecorded rfl
  | ok capability =>
      refine ⟨trivial, ?_⟩
      intro looked admitted
      cases looked with
      | error fault => exact unrecorded (admitted fault rfl)
      | ok before =>
          refine ⟨trivial, ?_⟩
          intro answer admitted
          cases answer with
          | error fault => exact unrecorded (admitted fault rfl)
          | ok decision =>
              have whole : Naming
                  (if decision.allowed then
                    CapabilityGateway.runAllowed
                      ((CapabilityGateway.auditContext request capability before).withPolicyVersion
                        decision.policyVersion) request
                  else
                    ((CapabilityGateway.auditContext request capability before).withPolicyVersion
                      decision.policyVersion).denied decision.reason .policyDenied)
                  decision.policyVersion
                  fun result => result.invocation.policyVersion = decision.policyVersion := by
                apply Guarded.mono (recording_decided allowsPlain_versionMonitor
                  fun invocation made => policyVersion_of_madeFrom made)
                exact fun outcome last records => names_of_records records
              exact whole.mono fun outcome last names => namesDecision_of_names names

theorem guarded_invoke :
    Guarded versionMonitor AuditsDecided (gateway.invoke request) none
      NamesDecision := by
  apply guarded_invoke_of
  · exact fun decided invocation names => names
  · exact fun decided invocation answer => rfl
  · exact guarded_invokeUnobserved

/-- The version that is known comes from a decision. -/
theorem exists_decision (trace : List GatewayEvent) {version : String}
    (known : versionMonitor.after none trace = some version) :
    ∃ asked decision, ⟨.evaluate asked, .ok decision⟩ ∈ trace ∧
      decision.policyVersion = version := by
  induction trace using List.reverseRecOn with
  | nil => cases known
  | append_singleton earlier event inductionHypothesis =>
      rw [Monitor.after_append] at known
      obtain ⟨call, answer⟩ := event
      by_cases decides : ∃ asked, call = .evaluate asked
      · obtain ⟨asked, rfl⟩ := decides
        cases answer with
        | ok decision =>
            exact ⟨asked, decision, List.mem_append_right _ List.mem_cons_self,
              Option.some.inj known⟩
        | error fault =>
            obtain ⟨asked, decision, member, same⟩ := inductionHypothesis known
            exact ⟨asked, decision, List.mem_append_left _ member, same⟩
      · have still : versionMonitor.after none earlier = some version := by
          cases call with
          | evaluate asked => exact absurd ⟨asked, rfl⟩ decides
          | _ => exact known
        obtain ⟨asked, decision, member, same⟩ := inductionHypothesis still
        exact ⟨asked, decision, List.mem_append_left _ member, same⟩

theorem admits_of_unrecordedFaults {trace : List GatewayEvent}
    (plain : UnrecordedFaults trace) : versionMonitor.Admits decided trace := by
  induction trace generalizing decided with
  | nil => trivial
  | cons event rest inductionHypothesis =>
      obtain ⟨first, others⟩ := List.forall_mem_cons.mp plain
      exact ⟨first, inductionHypothesis others⟩

/-- A record names the version of a decision of its own call. -/
theorem recordedIn_invoke
    {handler : Handler GatewayCall GatewayCall.Answer GatewayFault World} {world : World}
    {invocation : ToolInvocation}
    (plain : UnrecordedFaults (interpret handler (gateway.invoke request) world).trace)
    (recorded : RecordedIn invocation (interpret handler (gateway.invoke request) world)) :
    ∃ asked decision,
      ⟨.evaluate asked, .ok decision⟩ ∈
          (interpret handler (gateway.invoke request) world).trace ∧
        decision.policyVersion = invocation.policyVersion := by
  obtain ⟨each, ended⟩ := guarded_invoke.sound (admits_of_unrecordedFaults plain)
  rcases recorded with audited | returned
  · obtain ⟨event, member, same⟩ := List.mem_filterMap.mp audited
    obtain ⟨before, after, split⟩ := List.append_of_mem member
    obtain ⟨call, answer⟩ := event
    cases call with
    | audit handed =>
        cases same
        have decided := each before (.audit invocation) answer after split
        obtain ⟨asked, decision, earlier, named⟩ := exists_decision before decided
        refine ⟨asked, decision, ?_, named⟩
        rw [split]
        exact List.mem_append_left _ earlier
    | _ => cases same
  · exact exists_decision _ (ended invocation returned)

end Gateway

/-! ## Any number of requests -/

/-- The decision names the versions of the decisions it combines, and so does every record of
a call that it decides. -/
structure TracedTo (decisions : List PolicyDecision) (decision : PolicyDecision) : Prop where
  named : decision.policyVersion = "+".intercalate (decisions.map (·.policyVersion))
  recorded : ∀ (World : Type) (gateway : CapabilityGateway) (request : InvokeRequest)
    (handler : Handler GatewayCall GatewayCall.Answer GatewayFault World) (world : World),
    UnrecordedFaults (interpret handler (gateway.invoke request) world).trace →
      (∀ asked answered, ⟨.evaluate asked, .ok answered⟩ ∈
          (interpret handler (gateway.invoke request) world).trace → answered = decision) →
        ∀ invocation, RecordedIn invocation (interpret handler (gateway.invoke request) world) →
          invocation.policyVersion = "+".intercalate (decisions.map (·.policyVersion))

/-- However evaluations are interleaved, decisions name the policies that made them, as long
as each request reads versions that were last kept for itself. -/
theorem decisions_nameTheirPolicy {engine : AllOfPolicyEngine} {log : List PolicyEntry}
    {pool : Pool PolicyCall PolicyCall.Answer PolicyFault (Nat → String)
      (List PolicyDecision × PolicyDecision)}
    (reaches : (evaluations engine).Reaches (fun _ => unavailableVersion) log pool)
    (own : Throughout ReadsOwn log) {place : Nat} {decisions : List PolicyDecision}
    {decision : PolicyDecision}
    (found : pool.programs[place]? = some (finish (.ok (decisions, decision)))) :
    TracedTo decisions decision := by
  have readsLast := readsLast_of_readsOwn reaches own place
  have named := reaches.ended evaluations_obey found readsLast
  refine ⟨named, ?_⟩
  intro World gateway request handler world plain decides invocation recorded
  obtain ⟨asked, answered, member, same⟩ := recordedIn_invoke plain recorded
  rw [← same, decides asked answered member, named]

/-- Requests of one place read what was kept for them. -/
theorem readsOwn_of_place {log : List PolicyEntry} {place : Nat}
    (single : ∀ entry ∈ log, entry.1 = place) : Throughout ReadsOwn log := by
  intro before entry after split
  have all : eventsOf place before = before.map Prod.snd := by
    rw [eventsOf, List.filter_eq_self.mpr]
    intro earlier member
    apply decide_eq_true
    apply single earlier
    rw [split]
    exact List.mem_append_left _ member
  have here : entry.1 = place := by
    apply single entry
    rw [split]
    simp
  obtain ⟨own, call, answer⟩ := entry
  subst here
  cases call with
  | policyVersion engine =>
      change lastKept engine (before.map Prod.snd) = lastKept engine (eventsOf own before)
      rw [all]
  | _ => trivial

/-! ## Two deployments -/

namespace PolicyRollout

open SalesQuery

/-- The registry's policy and that of a deployment. -/
def engine : AllOfPolicyEngine where
  engines := [.fixed (RegistryPolicyEngine.fixed {}), .opa]
  someEngine := by decide

def asked : AuthorizationRequest :=
  CapabilityGateway.authorizationRequest (call true) capability

/-- What a deployment of a version responds. -/
def allowedBy (version : String) : OpaResponse :=
  .document (.object
    [("result", .object [("allow", .bool true), ("policy_version", .text version)])])

def deployment (version : String) :
    Handler PolicyCall PolicyCall.Answer PolicyFault (Nat → String)
  | kept, .post _ _ => (.ok (allowedBy version), kept)
  | kept, .keepVersion place kept' => (.ok (), Function.update kept place kept')
  | kept, .policyVersion place => (.ok (kept place), kept)

theorem handles (version : String) (kept : Nat → String) (call : PolicyCall) :
    (evaluations engine).effect kept call (deployment version kept call).1
      (deployment version kept call).2 := by
  cases call with
  | post place input => exact .post place input _
  | keepVersion place version => exact .keepVersion place version
  | policyVersion place => exact .policyVersion place

/-- An evaluation alone, by the first deployment. -/
def alone : Run PolicyCall PolicyCall.Answer PolicyFault (Nat → String)
    (List PolicyDecision × PolicyDecision) :=
  interpret (deployment "v1") (engine.decide asked) fun _ => unavailableVersion

theorem reaches_alone :
    (evaluations engine).Reaches (fun _ => unavailableVersion) (alone.trace.map (0, ·))
      ⟨alone.world, [finish alone.outcome]⟩ := by
  have started : (evaluations engine).Reaches (fun _ => unavailableVersion) []
      ⟨fun _ => unavailableVersion, [] ++ [engine.decide asked]⟩ :=
    Setting.Reaches.nothing.start ⟨asked, rfl⟩
  exact started.interpret (handles "v1") (engine.decide asked)

/-- What is left of an evaluation once its deployment has responded. -/
def afterPosting (response : Except PolicyFault OpaResponse) :
    Deciding (List PolicyDecision × PolicyDecision) :=
  match engine.decide asked with
  | .request (.post _ _) resume => resume response
  | program => program

/-- What is left of it once it kept the version of its decision. -/
def afterKeeping (kept : Except PolicyFault Unit) :
    Deciding (List PolicyDecision × PolicyDecision) :=
  match afterPosting (.ok (allowedBy "v1")) with
  | .request (.keepVersion _ _) resume => resume kept
  | program => program

/-- The field of the deployment's engine. -/
def keeping (version : String) : Nat → String :=
  Function.update (fun _ => unavailableVersion) 1 version

/-- Another evaluation, by the second deployment. -/
def between : Run PolicyCall PolicyCall.Answer PolicyFault (Nat → String)
    (List PolicyDecision × PolicyDecision) :=
  interpret (deployment "v2") (engine.decide asked) (keeping "v1")

/-- The first evaluation, which reads its version after that. -/
def overtaken : Run PolicyCall PolicyCall.Answer PolicyFault (Nat → String)
    (List PolicyDecision × PolicyDecision) :=
  interpret (deployment "v1") (afterKeeping (.ok ())) between.world

/-- Both evaluations. -/
def bothLog : List PolicyEntry :=
  [(0, ⟨.post 1 (buildPolicyInput asked), .ok (allowedBy "v1")⟩),
      (0, ⟨.keepVersion 1 "v1", .ok ()⟩)] ++
    between.trace.map (1, ·) ++ overtaken.trace.map (0, ·)

theorem reaches_both :
    (evaluations engine).Reaches (fun _ => unavailableVersion) bothLog
      ⟨overtaken.world, [finish overtaken.outcome, finish between.outcome]⟩ := by
  have first : (evaluations engine).Reaches (fun _ => unavailableVersion) []
      ⟨fun _ => unavailableVersion, [] ++ [engine.decide asked]⟩ :=
    Setting.Reaches.nothing.start ⟨asked, rfl⟩
  have asking : ([] ++ [engine.decide asked])[0]? =
      some (request (.post 1 (buildPolicyInput asked)) afterPosting) := rfl
  have posted := first.answer asking (.post 1 (buildPolicyInput asked) (.ok (allowedBy "v1")))
  have keeps : [afterPosting (.ok (allowedBy "v1"))][0]? =
      some (request (.keepVersion 1 "v1") afterKeeping) := rfl
  have kept := posted.answer keeps (.keepVersion 1 "v1")
  have second : (evaluations engine).Reaches (fun _ => unavailableVersion) _
      ⟨keeping "v1", [afterKeeping (.ok ())] ++ [engine.decide asked]⟩ :=
    kept.start ⟨asked, rfl⟩
  have ended := second.interpret (handles "v2") (engine.decide asked)
  exact ended.resume (handles "v1") rfl

end PolicyRollout

open PolicyRollout

theorem decisions_nameTheirPolicy_alone :
    ∃ decisions decision, alone.outcome = .ok (decisions, decision) ∧
      decision.policyVersion = "local-2026-08-01+v1" ∧ TracedTo decisions decision := by
  have single : ∀ entry ∈ alone.trace.map (0, ·), entry.1 = 0 := by
    intro entry member
    obtain ⟨event, -, rfl⟩ := List.mem_map.mp member
    rfl
  refine ⟨_, _, rfl, by decide +kernel, ?_⟩
  exact @decisions_nameTheirPolicy _ _ _ reaches_alone (readsOwn_of_place single) 0 _ _ rfl

/-- Between what a request keeps and what it reads, another request keeps the version of the
next deployment. -/
theorem decision_namesNextPolicy :
    (evaluations engine).Reaches (fun _ => unavailableVersion) bothLog
        ⟨overtaken.world, [finish overtaken.outcome, finish between.outcome]⟩ ∧
      ∃ decisions decision, overtaken.outcome = .ok (decisions, decision) ∧
        decisions.map (·.policyVersion) = ["local-2026-08-01", "v1"] ∧
          decision.policyVersion = "local-2026-08-01+v2" ∧
            ¬ TracedTo decisions decision := by
  refine ⟨reaches_both, _, _, rfl, by decide +kernel, by decide +kernel, ?_⟩
  intro traced
  exact absurd traced.named (by decide +kernel)

end ResearchPlatform
