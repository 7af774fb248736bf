import Mathlib.Data.Finset.Sort
import Mathlib.Data.String.Basic
import ResearchPlatform.Domain.Json
import ResearchPlatform.Foundation.Program
import ResearchPlatform.Mcp.Policy

/-!
# The policy engines

What Open Policy Agent is asked, what `OpaPolicyEngine` makes of its response, and
`AllOfPolicyEngine`, as programs over the deployments and over the versions that the engines
keep.
-/

namespace ResearchPlatform

open Foundation Program

/-! ## The question -/

/-- A list of texts as JSON. -/
def jsonTexts (texts : List String) : Json := .array (texts.map .text)

/-- `sorted(texts)`. -/
def sortedTexts (texts : Finset String) : List String := texts.sort (· ≤ ·)

/-- `sorted(agent.value for agent in agents)`. -/
def sortedAgents (agents : Finset AgentRole) : List String :=
  sortedTexts (agents.image AgentRole.value)

/-- `_principal_document`. -/
def principalDocument (principal : Principal) : Json :=
  .object [
    ("tenant_id", .text principal.tenantId),
    ("subject_id", .text principal.subjectId),
    ("roles", jsonTexts (Principal.sortedRoles principal.roles)),
    ("agent_role",
      match principal.agentRole with
      | some agentRole => .text agentRole.value
      | none => .null),
    ("clearance", .text principal.clearance.value)]

/-- `_capability_document`. -/
def capabilityDocument (capability : Capability) : Json :=
  .object [
    ("server", .text capability.server.val),
    ("name", .text capability.name.val),
    ("kind", .text capability.kind.value),
    ("required_roles", jsonTexts (Principal.sortedRoles capability.requiredRoles)),
    ("allowed_agents", jsonTexts (sortedAgents capability.allowedAgents)),
    ("max_access_class", .text capability.maxAccessClass.value),
    ("side_effecting", .bool capability.sideEffecting),
    ("requires_approval", .bool capability.requiresApproval),
    ("tenant_scope", jsonTexts (sortedTexts capability.tenantScope))]

/-- `build_policy_input`. -/
def buildPolicyInput (request : AuthorizationRequest) : Json :=
  .object [
    ("input", .object [
      ("principal", principalDocument request.principal),
      ("capability", capabilityDocument request.capability),
      ("job_id", .text request.jobId.str),
      ("task_id", .text request.taskId.str),
      ("argument_names",
        jsonTexts ((request.arguments.entries.map Prod.fst).insertionSort (· ≤ ·)))])]

/-! ## The calls -/

/-- `UNAVAILABLE_VERSION`. -/
def unavailableVersion : String := "opa-unavailable"

/-- What comes of `client.post`, `raise_for_status` and `json`. -/
inductive OpaResponse where
  | timedOut
  | statusError (code : Nat)
  | unreachable
  | document (document : Json)

/-- The calls of one evaluation.  An engine is named by its place; `keepVersion` and
`policyVersion` write and read its `_policy_version`, which all requests share. -/
inductive PolicyCall where
  | post (engine : Nat) (input : Json)
  | keepVersion (engine : Nat) (version : String)
  | policyVersion (engine : Nat)
  deriving DecidableEq

abbrev PolicyCall.Answer : PolicyCall → Type
  | post .. => OpaResponse
  | keepVersion .. => Unit
  | policyVersion _ => String

/-- An exception that no engine catches. -/
structure PolicyFault where
  message : String
  deriving DecidableEq

abbrev Deciding (α : Type) : Type := Program PolicyCall PolicyCall.Answer PolicyFault α

abbrev PolicyEvent : Type := Event PolicyCall PolicyCall.Answer PolicyFault

/-! ## Open Policy Agent -/

namespace OpaPolicyEngine

/-- `document.get`. -/
def member (name : String) (members : List (String × Json)) : Option Json :=
  (members.find? (·.1 = name)).map Prod.snd

/-- `_unavailable`. -/
def unavailable (reason : String) : PolicyDecision := .deny reason unavailableVersion

/-- The text of a member, unless it is empty. -/
def textMember (name fallback : String) (members : List (String × Json)) : String :=
  match member name members with
  | some (.text value) => if value = "" then fallback else value
  | _ => fallback

/-- `_read_decision`. -/
def readDecision : Json → PolicyDecision
  | .object members =>
      match member "result" members with
      | some (.object result) =>
          match member "allow" result with
          | some (.bool allowed) =>
              let policyVersion := textMember "policy_version" unavailableVersion result
              if allowed then
                .allow policyVersion
              else
                .deny (textMember "reason" "no reason was given" result) policyVersion
          | _ => unavailable "the authorization service returned no decision"
      | _ => unavailable "the authorization service returned no decision"
  | _ => unavailable "the authorization service returned an unreadable decision"

/-- The decision that a response comes to. -/
def read : OpaResponse → PolicyDecision
  | .timedOut => unavailable "the authorization service did not respond in time"
  | .statusError code => unavailable ("the authorization service returned " ++ toString code)
  | .unreachable => unavailable "the authorization service could not be reached"
  | .document document => readDecision document

/-- `evaluate`.  Every path keeps the version of its decision before it returns. -/
def evaluate (engine : Nat) (request : AuthorizationRequest) : Deciding PolicyDecision := do
  let response ← perform (.post engine (buildPolicyInput request))
  let _ ← perform (PolicyCall.keepVersion engine (read response).policyVersion)
  return read response

end OpaPolicyEngine

/-! ## All engines together -/

/-- An engine of one version, which all its decisions carry. -/
structure FixedPolicyEngine where
  policyVersion : String
  evaluate : AuthorizationRequest → Except PolicyFault PolicyDecision
  carries : ∀ request decision, evaluate request = .ok decision →
    decision.policyVersion = policyVersion

/-- The registry's engine is one of those. -/
def RegistryPolicyEngine.fixed (engine : RegistryPolicyEngine) : FixedPolicyEngine where
  policyVersion := engine.policyVersion
  evaluate request := .ok (engine.evaluate request)
  carries := by
    rintro request decision same
    rw [← Except.ok.inj same]
    unfold RegistryPolicyEngine.evaluate
    dsimp only
    split
    · rfl
    · split
      · rfl
      · split <;> rfl

inductive PolicyEngine where
  | fixed (engine : FixedPolicyEngine)
  | opa

namespace PolicyEngine

/-- `evaluate` of the engine at a place. -/
def evaluate (request : AuthorizationRequest) : PolicyEngine × Nat → Deciding PolicyDecision
  | (fixed engine, _) => lift (engine.evaluate request)
  | (opa, place) => OpaPolicyEngine.evaluate place request

/-- `policy_version` of the engine at a place. -/
def policyVersion : PolicyEngine × Nat → Deciding String
  | (fixed engine, _) => return engine.policyVersion
  | (opa, place) => perform (PolicyCall.policyVersion place)

end PolicyEngine

/-- `AllOfPolicyEngine`. -/
structure AllOfPolicyEngine where
  engines : List PolicyEngine
  someEngine : engines ≠ []

namespace AllOfPolicyEngine

variable (engine : AllOfPolicyEngine)

/-- The loop of `evaluate`: every engine is consulted, even after a refusal. -/
def decisions (request : AuthorizationRequest) :
    List (PolicyEngine × Nat) → Deciding (List PolicyDecision)
  | [] => return []
  | first :: rest => do
      let decision ← PolicyEngine.evaluate request first
      let others ← decisions request rest
      return decision :: others

/-- The versions that the engines keep. -/
def versions : List (PolicyEngine × Nat) → Deciding (List String)
  | [] => return []
  | first :: rest => do
      let version ← PolicyEngine.policyVersion first
      let others ← versions rest
      return version :: others

/-- `policy_version`. -/
def policyVersion : Deciding String := do
  let versions ← versions engine.engines.zipIdx
  return "+".intercalate versions

/-- The combined decision. -/
def combined (decisions : List PolicyDecision) (version : String) : PolicyDecision :=
  let refusals := (decisions.filter fun decision => !decision.allowed).map (·.reason)
  if refusals = [] then .allow version else .deny ("; ".intercalate refusals) version

/-- `evaluate`, with the decisions of the engines. -/
def decide (request : AuthorizationRequest) :
    Deciding (List PolicyDecision × PolicyDecision) := do
  let decisions ← decisions request engine.engines.zipIdx
  let version ← engine.policyVersion
  return (decisions, combined decisions version)

/-- `evaluate`. -/
def evaluate (request : AuthorizationRequest) : Deciding PolicyDecision := do
  let decided ← engine.decide request
  return decided.2

end AllOfPolicyEngine

end ResearchPlatform
