import ResearchPlatform.Mcp.Authz

/-!
# The two policies

The Rego policy and `RegistryPolicyEngine` decide alike, except that the policy also
refuses an agent that asks for a side-effecting capability.
-/

namespace ResearchPlatform

open Rego

namespace Authz

/-- The `input` that the policy sees of a request. -/
def inputOf (request : AuthorizationRequest) : Term :=
  field (some (buildPolicyInput request)) "input"

variable (request : AuthorizationRequest)

/-! ## What the rules read -/

@[simp]
theorem tenantId_inputOf :
    tenantId (inputOf request) = some (.text request.principal.tenantId) := rfl

@[simp]
theorem clearance_inputOf :
    clearance (inputOf request) = some (.text request.principal.clearance.value) := rfl

@[simp]
theorem agentRole_inputOf :
    agentRole (inputOf request) =
      some (match request.principal.agentRole with
        | some agentRole => .text agentRole.value
        | none => .null) := rfl

@[simp]
theorem capability_inputOf :
    capability (inputOf request) = some (capabilityDocument request.capability) := rfl

@[simp]
theorem tenantScope_inputOf :
    field (some (capabilityDocument request.capability)) "tenant_scope" =
      some (jsonTexts (sortedTexts request.capability.tenantScope)) := rfl

@[simp]
theorem maxAccessClass_inputOf :
    field (some (capabilityDocument request.capability)) "max_access_class" =
      some (.text request.capability.maxAccessClass.value) := rfl

@[simp]
theorem allowedAgents_inputOf :
    field (some (capabilityDocument request.capability)) "allowed_agents" =
      some (jsonTexts (sortedAgents request.capability.allowedAgents)) := rfl

@[simp]
theorem requiredRoles_inputOf :
    field (some (capabilityDocument request.capability)) "required_roles" =
      some (jsonTexts (Principal.sortedRoles request.capability.requiredRoles)) := rfl

@[simp]
theorem sideEffecting_inputOf :
    field (some (capabilityDocument request.capability)) "side_effecting" =
      some (.bool request.capability.sideEffecting) := rfl

@[simp]
theorem roles_inputOf :
    field (field (inputOf request) "principal") "roles" =
      some (jsonTexts (Principal.sortedRoles request.principal.roles)) := rfl

/-- A text is in a list of texts as it is in the list. -/
@[simp]
theorem holds_isIn_jsonTexts {text : String} {texts : List String} :
    Holds (isIn (some (.text text)) (some (jsonTexts texts))) ↔ text ∈ texts := by
  simp [jsonTexts]

/-! ## What the rules decide -/

theorem hasTenant_inputOf : HasTenant (inputOf request) := by
  simp [HasTenant, request.principal.tenantGiven]

theorem isAgent_inputOf :
    IsAgent (inputOf request) ↔ request.principal.agentRole.isSome = true := by
  cases found : request.principal.agentRole <;> simp [IsAgent, found]

theorem tenantPermitted_inputOf :
    TenantPermitted (inputOf request) ↔
      request.capability.isAvailableToTenant request.principal.tenantId = true := by
  rw [Capability.isAvailableToTenant_iff]
  simp only [TenantPermitted, allTenants, capability_inputOf, tenantScope_inputOf,
    tenantId_inputOf, holds_isIn_jsonTexts, sortedTexts, Finset.mem_sort]

theorem rank_value (accessClass : AccessClass) :
    rank (some (.text accessClass.value)) = some accessClass.rank := by
  cases accessClass <;> rfl

theorem clearanceSufficient_inputOf :
    ClearanceSufficient (inputOf request) ↔
      request.capability.maxAccessClass ≤ request.principal.clearance := by
  simp only [ClearanceSufficient, clearance_inputOf, capability_inputOf,
    maxAccessClass_inputOf, rank_value, Option.mem_def, Option.some.injEq,
    exists_eq_left']
  rfl

theorem agentRole_value_injective : Function.Injective AgentRole.value := by
  intro first second same
  cases first <;> cases second <;> first | rfl | (revert same; decide)

theorem mem_sortedAgents {agentRole : AgentRole} {agents : Finset AgentRole} :
    agentRole.value ∈ sortedAgents agents ↔ agentRole ∈ agents := by
  rw [sortedAgents, sortedTexts, Finset.mem_sort, agentRole_value_injective.mem_finset_image]

theorem role_value_injective : Function.Injective Role.value := by
  intro first second same
  cases first <;> cases second <;> first | rfl | (revert same; decide)

theorem mem_sortedRoles {role : Role} {roles : Finset Role} :
    role.value ∈ Principal.sortedRoles roles ↔ role ∈ roles := by
  rw [Principal.sortedRoles, List.mem_map_of_injective role_value_injective, List.mem_filter]
  cases role <;> simp

/-- A text of a sorted list of roles is the value of one of them. -/
theorem exists_of_mem_sortedRoles {text : String} {roles : Finset Role}
    (member : text ∈ Principal.sortedRoles roles) : ∃ role ∈ roles, role.value = text := by
  obtain ⟨role, kept, rfl⟩ := List.mem_map.mp member
  exact ⟨role, of_decide_eq_true (List.mem_filter.mp kept).2, rfl⟩

theorem hasAnyRole_iff {principal : Principal} {roles : Finset Role} :
    principal.hasAnyRole roles = true ↔ ∃ role ∈ principal.roles, role ∈ roles := by
  simp [Principal.hasAnyRole, ← Finset.nonempty_iff_ne_empty, Finset.Nonempty]

theorem grantedRoles_inputOf :
    (grantedRoles (inputOf request)).length = 0 ↔
      ¬ request.principal.hasAnyRole request.capability.requiredRoles = true := by
  rw [List.length_eq_zero_iff, grantedRoles, List.filter_eq_nil_iff, hasAnyRole_iff]
  have items : itemsOf (field (field (inputOf request) "principal") "roles") =
      (Principal.sortedRoles request.principal.roles).map .text := rfl
  rw [items]
  constructor
  · rintro noneGranted ⟨role, held, required⟩
    apply noneGranted (.text role.value)
    · exact List.mem_map_of_mem (mem_sortedRoles.mpr held)
    · exact decide_eq_true (holds_isIn_jsonTexts.mpr (mem_sortedRoles.mpr required))
  · intro noneHeld item member granted
    obtain ⟨text, held, rfl⟩ := List.mem_map.mp member
    obtain ⟨role, isHeld, rfl⟩ := exists_of_mem_sortedRoles held
    have isGranted := holds_isIn_jsonTexts.mp (of_decide_eq_true granted)
    exact noneHeld ⟨role, isHeld, mem_sortedRoles.mp isGranted⟩

/-- Nothing is refused exactly when no rule's body holds. -/
theorem allow_inputOf :
    allow (inputOf request) = true ↔
      TenantPermitted (inputOf request) ∧ ClearanceSufficient (inputOf request) ∧
        ¬ (IsAgent (inputOf request) ∧
          ¬ Holds (isIn (agentRole (inputOf request))
            (field (capability (inputOf request)) "allowed_agents"))) ∧
        ¬ (¬ IsAgent (inputOf request) ∧ (grantedRoles (inputOf request)).length = 0) ∧
        ¬ (IsAgent (inputOf request) ∧
          Holds (field (capability (inputOf request)) "side_effecting")) := by
  have named : unnamedCapability (inputOf request) = ∅ := by
    rw [unnamedCapability, contains_eq_empty_iff rfl, capability_inputOf]
    simp [capabilityDocument]
  have owned : unnamedTenant (inputOf request) = ∅ := by
    rw [unnamedTenant, contains_eq_empty_iff rfl]
    exact not_not_intro (hasTenant_inputOf request)
  rw [allow, decide_eq_true_iff, Finset.card_eq_zero]
  simp only [deny, Finset.union_eq_empty, named, owned, true_and]
  rw [foreignTenant, insufficientClearance, foreignAgent, missingRole, agentSideEffect,
    contains_eq_empty_iff rfl, contains_eq_empty_iff rfl, contains_eq_empty_iff rfl,
    contains_eq_empty_iff rfl, contains_eq_empty_iff rfl, not_not, not_not]
  simp only [and_assoc]

end Authz

/-- The Rego policy allows a request exactly when the Python boundary does and it is
not an agent's for a side-effecting capability. -/
theorem authz_allow_iff (engine : RegistryPolicyEngine) (request : AuthorizationRequest) :
    Authz.allow (Authz.inputOf request) = true ↔
      (engine.evaluate request).allowed = true ∧
        ¬ (request.principal.agentRole.isSome = true ∧
          request.capability.sideEffecting = true) := by
  rw [Authz.allow_inputOf, RegistryPolicyEngine.evaluate_allowed_iff,
    Capability.isExecutableBy_iff, Authz.tenantPermitted_inputOf,
    Authz.clearanceSufficient_inputOf, Authz.isAgent_inputOf, Authz.grantedRoles_inputOf]
  cases agent : request.principal.agentRole with
  | none => simp
  | some agentRole =>
      have allowed : Holds (isIn (Authz.agentRole (Authz.inputOf request))
            (field (Authz.capability (Authz.inputOf request)) "allowed_agents")) ↔
          agentRole ∈ request.capability.allowedAgents := by
        rw [Authz.agentRole_inputOf, agent, Authz.capability_inputOf,
          Authz.allowedAgents_inputOf, Authz.holds_isIn_jsonTexts, Authz.mem_sortedAgents]
      rw [allowed]
      simp [and_assoc]

end ResearchPlatform
