import Mathlib.Data.Finset.Basic
import ResearchPlatform.Domain.Tasks

/-!
# Identities

The `Principal` that every discovery and authorization decision is made against.
-/

namespace ResearchPlatform

inductive Role where
  | requester
  | reviewer
  | administrator
  deriving DecidableEq, Repr

/-- `role.value`. -/
def Role.value : Role → String
  | requester => "requester"
  | reviewer => "reviewer"
  | administrator => "administrator"

/-- A caller of one tenant: a person, or an agent that acts for one. -/
structure Principal where
  tenantId : String
  subjectId : String
  roles : Finset Role := ∅
  agentRole : Option AgentRole := none
  clearance : AccessClass := .publicClass
  tenantGiven : tenantId ≠ ""
  subjectGiven : subjectId ≠ ""
  deriving DecidableEq

namespace Principal

/-- `has_any_role`. -/
def hasAnyRole (principal : Principal) (roles : Finset Role) : Bool :=
  (principal.roles ∩ roles) ≠ ∅

/-- `for_agent`. -/
def forAgent (principal : Principal) (agentRole : AgentRole) : Principal :=
  { principal with agentRole := some agentRole }

/-- `sorted(role.value for role in roles)`. -/
def sortedRoles (roles : Finset Role) : List String :=
  ([.administrator, .requester, .reviewer].filter (· ∈ roles)).map Role.value

end Principal

end ResearchPlatform
