import ResearchPlatform.Domain.Invocations
import ResearchPlatform.Mcp.Registry

/-!
# Authorization decisions

`PolicyDecision` is what any engine answers.  `RegistryPolicyEngine` decides from
the registered boundary alone.
-/

namespace ResearchPlatform

/-- `LOCAL_POLICY_VERSION`. -/
def localPolicyVersion : String := "local-2026-08-01"

structure AuthorizationRequest where
  principal : Principal
  capability : Capability
  jobId : UUID
  taskId : UUID
  arguments : Arguments
  deriving DecidableEq

structure PolicyDecision where
  allowed : Bool
  reason : String
  policyVersion : String
  deriving DecidableEq

namespace PolicyDecision

/-- `PolicyDecision.allow`. -/
def allow (policyVersion : String := localPolicyVersion) : PolicyDecision :=
  ⟨true, "permitted by policy", policyVersion⟩

/-- `PolicyDecision.deny`. -/
def deny (reason : String) (policyVersion : String := localPolicyVersion) :
    PolicyDecision :=
  ⟨false, reason, policyVersion⟩

end PolicyDecision

structure RegistryPolicyEngine where
  policyVersion : String := localPolicyVersion

namespace RegistryPolicyEngine

/-- `_describe`. -/
def describe (principal : Principal) : String :=
  match principal.agentRole with
  | some agentRole => "agent role " ++ agentRole.value
  | none =>
      "roles [" ++
        ", ".intercalate
          ((Principal.sortedRoles principal.roles).map fun role => "'" ++ role ++ "'") ++
        "]"

/-- `RegistryPolicyEngine.evaluate`. -/
def evaluate (engine : RegistryPolicyEngine) (request : AuthorizationRequest) :
    PolicyDecision :=
  let capability := request.capability
  let principal := request.principal
  if !capability.isAvailableToTenant principal.tenantId then
    .deny ("capability is not offered to tenant " ++ principal.tenantId)
      engine.policyVersion
  else if !clearanceCovers principal.clearance capability.maxAccessClass then
    .deny
      ("clearance " ++ principal.clearance.value ++ " cannot reach " ++
        capability.maxAccessClass.value ++ " data")
      engine.policyVersion
  else if !capability.isExecutableBy principal then
    .deny (describe principal ++ " may not execute " ++ capability.name.val)
      engine.policyVersion
  else
    .allow engine.policyVersion

/-- The engine allows exactly what the capability says is executable. -/
theorem evaluate_allowed_iff {engine : RegistryPolicyEngine}
    {request : AuthorizationRequest} :
    (engine.evaluate request).allowed = true ↔
      request.capability.isExecutableBy request.principal = true := by
  constructor
  · intro allowed
    by_contra refused
    have denied : (engine.evaluate request).allowed = false := by
      simp only [evaluate, Bool.not_eq_true] at refused ⊢
      rw [refused]
      split
      · rfl
      · split <;> rfl
    rw [denied] at allowed
    cases allowed
  · intro executable
    have visible := Capability.isVisibleTo_of_isExecutableBy executable
    have available :
        request.capability.isAvailableToTenant request.principal.tenantId = true := by
      by_contra unavailable
      simp [Capability.isVisibleTo, unavailable] at visible
    have covered :
        clearanceCovers request.principal.clearance
          request.capability.maxAccessClass = true :=
      clearanceCovers_iff.mpr (Capability.le_clearance_of_isVisibleTo visible)
    simp [evaluate, executable, available, covered, PolicyDecision.allow]

end RegistryPolicyEngine

end ResearchPlatform
