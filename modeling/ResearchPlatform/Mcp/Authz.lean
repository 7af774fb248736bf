import ResearchPlatform.Mcp.Opa
import ResearchPlatform.Mcp.Rego

/-!
# The authorization policy

The package `research.authz` of `policy/research/authz.rego`, rule by rule.  The
argument of each rule is the value of `input`.
-/

namespace ResearchPlatform

namespace Authz

open Rego

/-- `version`. -/
def version : String := "opa-2026-08-01"

variable (input : Term)

/-! ## Supporting rules -/

/-- `input.principal.tenant_id`. -/
def tenantId : Term := field (field input "principal") "tenant_id"

/-- `input.principal.agent_role`. -/
def agentRole : Term := field (field input "principal") "agent_role"

/-- `input.capability`. -/
def capability : Term := field input "capability"

/-- `has_tenant`. -/
def HasTenant : Prop :=
  Holds (notEqual (tenantId input) (some .null)) ∧
    Holds (notEqual (tenantId input) (some (.text "")))

/-- `is_agent`. -/
def IsAgent : Prop := Holds (notEqual (agentRole input) (some .null))

/-- `tenant_permitted`. -/
def TenantPermitted : Prop :=
  Holds (isIn (some (.text "*")) (field (capability input) "tenant_scope")) ∨
    Holds (isIn (tenantId input) (field (capability input) "tenant_scope"))

/-- `clearance`. -/
def clearance : Term := field (field input "principal") "clearance"

/-- `rank[term]`. -/
def rank : Term → Option Nat
  | some (.text "public") => some 0
  | some (.text "internal") => some 1
  | some (.text "restricted") => some 2
  | _ => none

/-- `clearance_sufficient`. -/
def ClearanceSufficient : Prop :=
  ∃ held ∈ rank (clearance input),
    ∃ required ∈ rank (field (capability input) "max_access_class"), held ≥ required

/-- `granted_roles`. -/
def grantedRoles : List Json :=
  (itemsOf (field (field input "principal") "roles")).filter fun role =>
    Holds (isIn (some role) (field (capability input) "required_roles"))

instance : Decidable (HasTenant input) := inferInstanceAs (Decidable (_ ∧ _))

instance : Decidable (IsAgent input) := inferInstanceAs (Decidable (Holds _))

instance : Decidable (TenantPermitted input) := inferInstanceAs (Decidable (_ ∨ _))

instance : Decidable (ClearanceSufficient input) :=
  inferInstanceAs (Decidable (∃ held ∈ rank (clearance input),
    ∃ required ∈ rank (field (capability input) "max_access_class"), held ≥ required))

/-! ## Refusals -/

def unnamedCapability : Finset String :=
  contains (¬ Holds (capability input)) (some "the request does not name a capability")

def unnamedTenant : Finset String :=
  contains (¬ HasTenant input) (some "the request does not name a tenant")

def foreignTenant : Finset String :=
  contains (¬ TenantPermitted input)
    (sprintf "capability is not offered to tenant %v" [tenantId input])

def insufficientClearance : Finset String :=
  contains (¬ ClearanceSufficient input)
    (sprintf "clearance %v cannot reach %v data"
      [clearance input, field (capability input) "max_access_class"])

def foreignAgent : Finset String :=
  contains
    (IsAgent input ∧
      ¬ Holds (isIn (agentRole input) (field (capability input) "allowed_agents")))
    (sprintf "agent role %v may not execute this capability" [agentRole input])

def missingRole : Finset String :=
  contains (¬ IsAgent input ∧ (grantedRoles input).length = 0)
    (some "no held role permits this capability")

def agentSideEffect : Finset String :=
  contains (IsAgent input ∧ Holds (field (capability input) "side_effecting"))
    (some "an agent may not execute a side-effecting capability")

/-- `deny`, the set that the seven rules contribute to. -/
def deny : Finset String :=
  unnamedCapability input ∪ unnamedTenant input ∪ foreignTenant input ∪
    insufficientClearance input ∪ foreignAgent input ∪ missingRole input ∪
    agentSideEffect input

/-! ## The decision -/

/-- `allow`. -/
def allow : Bool := (deny input).card = 0

/-- `reason`. -/
def reason : String :=
  if allow input then "permitted by policy"
  else "; ".intercalate (sortedTexts (deny input))

/-- `decision`. -/
def decision : PolicyDecision := ⟨allow input, reason input, version⟩

end Authz

end ResearchPlatform
