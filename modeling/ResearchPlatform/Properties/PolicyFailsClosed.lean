import ResearchPlatform.Properties.PolicyAgreement

/-!
# What the policy lets through

A rule whose message mentions something undefined adds no refusal.  The policy
refuses every input that it should not allow, except one that leaves out the
clearance of the principal or the class of the capability and that no other rule
refuses.
-/

namespace ResearchPlatform

open Rego

namespace Authz

variable (input : Term)

/-! ## What an allowed request should have -/

def tenantScope : Term := field (capability input) "tenant_scope"

def maxAccessClass : Term := field (capability input) "max_access_class"

def allowedAgents : Term := field (capability input) "allowed_agents"

def sideEffecting : Term := field (capability input) "side_effecting"

def requiredRoles : Term := field (capability input) "required_roles"

def roles : Term := field (field input "principal") "roles"

/-- An expression has a value other than `null` and the empty text. -/
def IsGiven (term : Term) : Prop :=
  ∃ value, term = some value ∧ value ≠ .null ∧ value ≠ .text ""

/-- An expression has a value that is one of the items of a collection. -/
def IsListed (item collection : Term) : Prop :=
  ∃ value, item = some value ∧ value ∈ itemsOf collection

/-- The principal is an agent of an allowed role, and the capability has no side
effect. -/
structure AgentPermitted : Prop where
  agent : ∃ role, agentRole input = some role ∧ role ≠ .null
  listed : IsListed (agentRole input) (allowedAgents input)
  harmless : ¬ Holds (sideEffecting input)

/-- A request that the policy should allow, whatever else its document holds. -/
structure Permitted : Prop where
  capabilityNamed : ∃ members, capability input = some (.object members)
  tenantGiven : IsGiven (tenantId input)
  tenantScoped : IsListed (some (.text "*")) (tenantScope input) ∨
    IsListed (tenantId input) (tenantScope input)
  cleared : ∃ held required : AccessClass, clearance input = some (.text held.value) ∧
    maxAccessClass input = some (.text required.value) ∧ required ≤ held
  authorized : AgentPermitted input ∨
    ∃ role ∈ itemsOf (roles input), role ∈ itemsOf (requiredRoles input)

/-! ## The condition -/

/-- Both classes that `clearance_sufficient` compares are there, of whatever type. -/
def ClassesGiven : Prop :=
  (clearance input).isSome = true ∧ (maxAccessClass input).isSome = true

/-- The body of another rule than the one about clearance holds. -/
inductive RefusedAnyway : Prop
  | unnamedTenant (absent : ¬ HasTenant input)
  | foreignTenant (outside : ¬ TenantPermitted input)
  | foreignAgent (agent : IsAgent input)
      (unlisted : ¬ Holds (isIn (agentRole input) (allowedAgents input)))
  | agentSideEffect (agent : IsAgent input) (effect : Holds (sideEffecting input))
  | missingRole (human : ¬ IsAgent input) (none : grantedRoles input = [])

/-! ## What the rules say -/

variable {input}

theorem holds_notEqual {term : Term} {value : Json} :
    Holds (notEqual term (some value)) ↔ ∃ given, term = some given ∧ given ≠ value := by
  cases term with
  | none => simp [notEqual]
  | some given => simp

theorem hasTenant_iff : HasTenant input ↔ IsGiven (tenantId input) := by
  simp only [HasTenant, IsGiven, holds_notEqual]
  constructor
  · rintro ⟨⟨value, found, notNull⟩, other, foundToo, notEmpty⟩
    obtain rfl := Option.some.inj (found.symm.trans foundToo)
    exact ⟨value, found, notNull, notEmpty⟩
  · rintro ⟨value, found, notNull, notEmpty⟩
    exact ⟨⟨value, found, notNull⟩, value, found, notEmpty⟩

theorem holds_isIn {item collection : Term} :
    Holds (isIn item collection) ↔ IsListed item collection := by
  cases item with
  | none => simp [isIn, IsListed]
  | some value =>
      cases collection with
      | none => simp [isIn, IsListed, itemsOf]
      | some document => cases document <;> simp [isIn, IsListed, itemsOf]

theorem tenantPermitted_iff :
    TenantPermitted input ↔ IsListed (some (.text "*")) (tenantScope input) ∨
      IsListed (tenantId input) (tenantScope input) := by
  rw [TenantPermitted, holds_isIn, holds_isIn]
  rfl

/-- A scope that lists anything belongs to a capability that is an object. -/
theorem object_of_isListed {item : Term} {name : String}
    (listed : IsListed item (field (capability input) name)) :
    ∃ members, capability input = some (.object members) := by
  obtain ⟨value, -, member⟩ := listed
  cases named : capability input with
  | none =>
      rw [named] at member
      cases member
  | some document =>
      rw [named] at member
      cases document with
      | object members => exact ⟨members, rfl⟩
      | _ => cases member

theorem capability_object_of_tenantPermitted (permitted : TenantPermitted input) :
    ∃ members, capability input = some (.object members) := by
  rcases tenantPermitted_iff.mp permitted with everyTenant | ownTenant
  · exact object_of_isListed everyTenant
  · exact object_of_isListed ownTenant

theorem mem_rank_iff {term : Term} {position : Nat} :
    position ∈ rank term ↔
      ∃ accessClass : AccessClass,
        term = some (.text accessClass.value) ∧ accessClass.rank = position := by
  constructor
  · intro ranked
    unfold rank at ranked
    split at ranked
    · exact ⟨.publicClass, rfl, Option.some.inj ranked⟩
    · exact ⟨.internal, rfl, Option.some.inj ranked⟩
    · exact ⟨.restricted, rfl, Option.some.inj ranked⟩
    · cases ranked
  · rintro ⟨accessClass, rfl, rfl⟩
    exact rank_value accessClass

theorem clearanceSufficient_iff :
    ClearanceSufficient input ↔
      ∃ held required : AccessClass, clearance input = some (.text held.value) ∧
        maxAccessClass input = some (.text required.value) ∧ required ≤ held := by
  simp only [ClearanceSufficient, mem_rank_iff]
  constructor
  · rintro ⟨_, ⟨held, isHeld, rfl⟩, _, ⟨required, isRequired, rfl⟩, covers⟩
    exact ⟨held, required, isHeld, isRequired, covers⟩
  · rintro ⟨held, required, isHeld, isRequired, covers⟩
    exact ⟨_, ⟨held, isHeld, rfl⟩, _, ⟨required, isRequired, rfl⟩, covers⟩

theorem grantedRoles_ne_nil_iff :
    grantedRoles input ≠ [] ↔
      ∃ role ∈ itemsOf (roles input), role ∈ itemsOf (requiredRoles input) := by
  simp only [grantedRoles, ne_eq, List.filter_eq_nil_iff, decide_eq_true_eq, holds_isIn,
    not_forall, not_not, exists_prop]
  apply exists_congr
  intro role
  apply and_congr_right
  intro held
  constructor
  · rintro ⟨other, same, required⟩
    rw [Option.some.inj same]
    exact required
  · intro required
    exact ⟨role, rfl, required⟩

/-! ## What the policy refuses -/

/-- A message is undefined exactly where an expression that it mentions is. -/
theorem sprintf_eq_none_iff {format : String} {arguments : List Term} :
    sprintf format arguments = none ↔ none ∈ arguments := by
  rw [sprintf, Option.map_eq_none_iff]
  induction arguments with
  | nil => simp
  | cons argument rest inductionHypothesis =>
      rw [List.mem_cons, ← inductionHypothesis, List.mapM_cons]
      cases argument with
      | none => simp
      | some value => cases rest.mapM id <;> simp

/-- The rule about clearance refuses only where both classes are given. -/
theorem insufficientClearance_eq_empty_iff :
    insufficientClearance input = ∅ ↔
      ClearanceSufficient input ∨ ¬ ClassesGiven input := by
  have undefinedMessage : sprintf "clearance %v cannot reach %v data"
      [clearance input, field (capability input) "max_access_class"] = none ↔
        ¬ ClassesGiven input := by
    rw [sprintf_eq_none_iff, ClassesGiven, maxAccessClass, ← Option.ne_none_iff_isSome,
      ← Option.ne_none_iff_isSome]
    simp only [List.mem_cons, List.not_mem_nil, or_false, not_and_or, not_not]
    exact or_congr eq_comm eq_comm
  rw [insufficientClearance, contains_eq_empty, undefinedMessage, or_iff_not_imp_left]

theorem foreignTenant_eq_empty_iff (hasTenant : HasTenant input) :
    foreignTenant input = ∅ ↔ TenantPermitted input := by
  obtain ⟨tenant, found, -⟩ := hasTenant_iff.mp hasTenant
  rw [foreignTenant, contains_eq_empty, sprintf_eq_none_iff, found]
  simp

theorem foreignAgent_eq_empty_iff :
    foreignAgent input = ∅ ↔
      ¬ (IsAgent input ∧ ¬ Holds (isIn (agentRole input) (allowedAgents input))) := by
  rw [foreignAgent, contains_eq_empty, sprintf_eq_none_iff]
  constructor
  · intro undefinedRole refused
    obtain ⟨role, found, -⟩ := holds_notEqual.mp refused.1
    have absent := undefinedRole refused
    rw [found] at absent
    simp at absent
  · intro permitted refused
    exact absurd refused permitted

/-- Nothing is refused exactly when no other rule refuses and the clearance is
sufficient or not told. -/
theorem allow_iff :
    allow input = true ↔
      ¬ RefusedAnyway input ∧ (ClearanceSufficient input ∨ ¬ ClassesGiven input) := by
  rw [allow, decide_eq_true_iff, Finset.card_eq_zero]
  simp only [deny, Finset.union_eq_empty]
  rw [insufficientClearance_eq_empty_iff, foreignAgent_eq_empty_iff, unnamedCapability,
    unnamedTenant, missingRole, agentSideEffect, contains_eq_empty_iff rfl,
    contains_eq_empty_iff rfl, contains_eq_empty_iff rfl, contains_eq_empty_iff rfl,
    not_not, not_not, List.length_eq_zero_iff]
  constructor
  · rintro ⟨⟨⟨⟨⟨⟨-, hasTenant⟩, inScope⟩, cleared⟩, listed⟩, holdsRole⟩, harmless⟩
    refine ⟨?_, cleared⟩
    intro refused
    cases refused with
    | unnamedTenant absent => exact absent hasTenant
    | foreignTenant outside =>
        exact outside ((foreignTenant_eq_empty_iff hasTenant).mp inScope)
    | foreignAgent agent unlisted => exact listed ⟨agent, unlisted⟩
    | agentSideEffect agent effect => exact harmless ⟨agent, effect⟩
    | missingRole human noRole => exact holdsRole ⟨human, noRole⟩
  · rintro ⟨accepted, cleared⟩
    have hasTenant : HasTenant input := by
      by_contra absent
      exact accepted (.unnamedTenant absent)
    have permitted : TenantPermitted input := by
      by_contra outside
      exact accepted (.foreignTenant outside)
    obtain ⟨members, named⟩ := capability_object_of_tenantPermitted permitted
    refine ⟨⟨⟨⟨⟨⟨?_, hasTenant⟩, (foreignTenant_eq_empty_iff hasTenant).mpr permitted⟩,
      cleared⟩, ?_⟩, ?_⟩, ?_⟩
    · rw [named]
      exact holds_object
    · rintro ⟨agent, unlisted⟩
      exact accepted (.foreignAgent agent unlisted)
    · rintro ⟨human, noRole⟩
      exact accepted (.missingRole human noRole)
    · rintro ⟨agent, effect⟩
      exact accepted (.agentSideEffect agent effect)

/-- What no other rule refuses is permitted, as far as clearance does not matter. -/
theorem authorized_of_accepted (accepted : ¬ RefusedAnyway input) :
    AgentPermitted input ∨
      ∃ role ∈ itemsOf (roles input), role ∈ itemsOf (requiredRoles input) := by
  by_cases agent : IsAgent input
  · left
    obtain ⟨role, found, given⟩ := holds_notEqual.mp agent
    refine ⟨⟨role, found, given⟩, ?_, ?_⟩
    · by_contra unlisted
      exact accepted (.foreignAgent agent (mt holds_isIn.mp unlisted))
    · intro effect
      exact accepted (.agentSideEffect agent effect)
  · right
    apply grantedRoles_ne_nil_iff.mp
    intro noRole
    exact accepted (.missingRole agent noRole)

theorem permitted_of_accepted (accepted : ¬ RefusedAnyway input)
    (sufficient : ClearanceSufficient input) : Permitted input := by
  have hasTenant : HasTenant input := by
    by_contra absent
    exact accepted (.unnamedTenant absent)
  have inScope : TenantPermitted input := by
    by_contra outside
    exact accepted (.foreignTenant outside)
  exact {
    capabilityNamed := capability_object_of_tenantPermitted inScope
    tenantGiven := hasTenant_iff.mp hasTenant
    tenantScoped := tenantPermitted_iff.mp inScope
    cleared := clearanceSufficient_iff.mp sufficient
    authorized := authorized_of_accepted accepted }

end Authz

open Authz

/-- Whatever the input, the policy allows only what it should exactly when the input
gives both classes or another rule refuses it. -/
theorem authz_failsClosed_iff (input : Term) :
    (allow input = true → Permitted input) ↔ ClassesGiven input ∨ RefusedAnyway input := by
  rw [allow_iff]
  constructor
  · intro failsClosed
    by_contra neither
    obtain ⟨untold, accepted⟩ := not_or.mp neither
    have permitted := failsClosed ⟨accepted, Or.inr untold⟩
    obtain ⟨held, required, isHeld, isRequired, -⟩ := permitted.cleared
    apply untold
    rw [ClassesGiven, isHeld, isRequired]
    exact ⟨rfl, rfl⟩
  · rintro closed ⟨accepted, sufficient | untold⟩
    · exact permitted_of_accepted accepted sufficient
    · exact absurd closed (not_or.mpr ⟨untold, accepted⟩)

/-- An analyst with no clearance, and a capability that names the class of its data. -/
def Authz.unclearedInput : Term :=
  some (.object [
    ("principal", .object [("tenant_id", .text "acme"), ("agent_role", .text "analyst")]),
    ("capability", .object [
      ("tenant_scope", .array [.text "*"]),
      ("allowed_agents", .array [.text "analyst"]),
      ("max_access_class", .text "restricted"),
      ("side_effecting", .bool false)])])

/-- The policy allows an agent without a clearance to reach restricted data. -/
theorem authz_allows_uncleared :
    ¬ (allow unclearedInput = true → Permitted unclearedInput) := by
  intro failsClosed
  have permitted := failsClosed (by decide)
  obtain ⟨held, -, isHeld, -⟩ := permitted.cleared
  cases isHeld

end ResearchPlatform
