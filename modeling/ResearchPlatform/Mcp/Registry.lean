import Mathlib.Data.List.Sort
import ResearchPlatform.Foundation.Dict
import ResearchPlatform.Identity

/-!
# The capability registry

A `Capability` carries the boundary it must be used within.  The registry names
a capability to a caller only where that boundary lets the caller see it.
-/

namespace ResearchPlatform

open Foundation

/-- `ALL_TENANTS`. -/
def allTenants : String := "*"

/-- `METADATA_ONLY_AGENTS`. -/
def metadataOnlyAgents : Finset AgentRole := {.planner}

/-- A character of `[a-z0-9]`. -/
def isNameStart (char : Char) : Bool :=
  ('a' ≤ char ∧ char ≤ 'z') ∨ ('0' ≤ char ∧ char ≤ '9')

/-- A text that matches `^[a-z0-9][a-z0-9_-]*$`. -/
def isName : List Char → Bool
  | [] => false
  | first :: rest =>
      isNameStart first &&
        rest.all fun char => isNameStart char || char == '_' || char == '-'

/-- The name of a server or of a capability. -/
abbrev Name : Type :=
  { text : String // 1 ≤ text.length ∧ text.length ≤ 100 ∧ isName text.toList = true }

inductive CapabilityKind where
  | tool
  | resource
  | prompt
  deriving DecidableEq, Repr

/-- `kind.value`. -/
def CapabilityKind.value : CapabilityKind → String
  | tool => "tool"
  | resource => "resource"
  | prompt => "prompt"

/-! The defaults of a capability pass its own checks. -/

theorem defaultResultBytes_inRange : 1024 ≤ 262144 ∧ 262144 ≤ 8388608 := by decide

theorem defaultScope_given : ({allTenants} : Finset String) ≠ ∅ := by decide

/-- One capability of an MCP server.  The last three fields are its limits and
`side_effecting_capabilities_need_approval`. -/
structure Capability where
  server : Name
  name : Name
  kind : CapabilityKind := .tool
  requiredRoles : Finset Role := {.requester}
  allowedAgents : Finset AgentRole := ∅
  maxAccessClass : AccessClass := .publicClass
  sideEffecting : Bool := false
  requiresApproval : Bool := false
  tenantScope : Finset String := {allTenants}
  maxResultBytes : Nat := 262144
  resultBytesInRange : 1024 ≤ maxResultBytes ∧ maxResultBytes ≤ 8388608 := by
    first | exact defaultResultBytes_inRange | decide
  sideEffectsApproved : sideEffecting = true → requiresApproval = true := by
    first | exact fun same => same | decide
  hasScope : tenantScope ≠ ∅ := by
    first | exact defaultScope_given | decide
  deriving DecidableEq

namespace Capability

/-- The server and the name, under which a capability is known. -/
def key (capability : Capability) : String × String :=
  (capability.server.val, capability.name.val)

/-- `qualified_name`. -/
def qualifiedName (capability : Capability) : String :=
  capability.server.val ++ "." ++ capability.name.val

/-- `is_available_to_tenant`. -/
def isAvailableToTenant (capability : Capability) (tenantId : String) : Bool :=
  allTenants ∈ capability.tenantScope || tenantId ∈ capability.tenantScope

/-- `is_visible_to`. -/
def isVisibleTo (capability : Capability) (principal : Principal) : Bool :=
  if !capability.isAvailableToTenant principal.tenantId then
    false
  else if !clearanceCovers principal.clearance capability.maxAccessClass then
    false
  else
    match principal.agentRole with
    | some agentRole =>
        agentRole ∈ capability.allowedAgents || agentRole ∈ metadataOnlyAgents
    | none => principal.hasAnyRole capability.requiredRoles

/-- `is_executable_by`. -/
def isExecutableBy (capability : Capability) (principal : Principal) : Bool :=
  if !capability.isVisibleTo principal then
    false
  else
    match principal.agentRole with
    | some agentRole => agentRole ∈ capability.allowedAgents
    | none => principal.hasAnyRole capability.requiredRoles

theorem isAvailableToTenant_iff {capability : Capability} {tenantId : String} :
    capability.isAvailableToTenant tenantId = true ↔
      allTenants ∈ capability.tenantScope ∨ tenantId ∈ capability.tenantScope := by
  simp [isAvailableToTenant]

/-- What may be executed, check by check. -/
theorem isExecutableBy_iff {capability : Capability} {principal : Principal} :
    capability.isExecutableBy principal = true ↔
      capability.isAvailableToTenant principal.tenantId = true ∧
        capability.maxAccessClass ≤ principal.clearance ∧
        (∀ agentRole ∈ principal.agentRole, agentRole ∈ capability.allowedAgents) ∧
        (principal.agentRole = none →
          principal.hasAnyRole capability.requiredRoles = true) := by
  rw [← clearanceCovers_iff]
  by_cases available : capability.isAvailableToTenant principal.tenantId = true
  · by_cases covered :
        clearanceCovers principal.clearance capability.maxAccessClass = true
    · cases agent : principal.agentRole with
      | none => simp [isExecutableBy, isVisibleTo, available, covered, agent]
      | some agentRole =>
          by_cases allowed : agentRole ∈ capability.allowedAgents <;>
            simp [isExecutableBy, isVisibleTo, available, covered, agent, allowed]
    · simp [isExecutableBy, isVisibleTo, covered]
  · simp [isExecutableBy, isVisibleTo, available]

/-- What a principal sees is within its clearance. -/
theorem le_clearance_of_isVisibleTo {capability : Capability} {principal : Principal}
    (visible : capability.isVisibleTo principal = true) :
    capability.maxAccessClass ≤ principal.clearance := by
  by_contra above
  have uncovered :
      clearanceCovers principal.clearance capability.maxAccessClass = false := by
    rw [← Bool.not_eq_true, clearanceCovers_iff]
    exact above
  simp [isVisibleTo, uncovered] at visible

theorem isVisibleTo_of_isExecutableBy {capability : Capability} {principal : Principal}
    (executable : capability.isExecutableBy principal = true) :
    capability.isVisibleTo principal = true := by
  by_contra hidden
  simp [isExecutableBy, hidden] at executable

end Capability

/-! ## The registry -/

/-- `CapabilityNotFound`. -/
structure CapabilityNotFound where
  server : String
  name : String
  deriving DecidableEq

/-- `DuplicateCapability`. -/
structure DuplicateCapability where
  message : String
  deriving DecidableEq

theorem noCapability_keyed {key : String × String} {capability : Capability}
    (found : (∅ : Dict (String × String) Capability).get? key = some capability) :
    (capability.server.val, capability.name.val) = key := by
  cases found

/-- The registered capabilities, each under its own server and name. -/
structure CapabilityRegistry where
  capabilities : Dict (String × String) Capability := ∅
  keyed :
    ∀ {key capability}, capabilities.get? key = some capability →
      (capability.server.val, capability.name.val) = key := by
      first | exact noCapability_keyed | simp

namespace CapabilityRegistry

/-- `CapabilityRegistry.register`. -/
def register (registry : CapabilityRegistry) (capability : Capability) :
    Except DuplicateCapability CapabilityRegistry :=
  let key := (capability.server.val, capability.name.val)
  match registry.capabilities.get? key with
  | some _ =>
      .error ⟨capability.qualifiedName ++ " is already registered"⟩
  | none =>
      .ok {
        capabilities := registry.capabilities.set key capability
        keyed := by
          intro other registered found
          rw [Dict.get?_set] at found
          split at found
          · rename_i same
            rw [same, ← Option.some.inj found]
          · exact registry.keyed found }

/-- `CapabilityRegistry(capabilities)`. -/
def ofList (capabilities : List Capability) :
    Except DuplicateCapability CapabilityRegistry :=
  capabilities.foldlM register {}

/-- `CapabilityRegistry.get`. -/
def get (registry : CapabilityRegistry) (server name : String) :
    Except CapabilityNotFound Capability :=
  match registry.capabilities.get? (server, name) with
  | some capability => .ok capability
  | none => .error ⟨server, name⟩

/-- `resolve_for`: an invisible capability is reported as missing. -/
def resolveFor (registry : CapabilityRegistry) (principal : Principal)
    (server name : String) : Except CapabilityNotFound Capability := do
  let capability ← registry.get server name
  if !capability.isVisibleTo principal then
    throw ⟨server, name⟩
  else
    return capability

/-- `discover`. -/
def discover (registry : CapabilityRegistry) (principal : Principal) :
    List Capability :=
  ((registry.capabilities.entries.map Prod.snd).filter
      (·.isVisibleTo principal)).insertionSort
    fun first second => first.qualifiedName ≤ second.qualifiedName

variable {registry : CapabilityRegistry} {principal : Principal}
  {server name : String} {capability : Capability}

theorem get_eq_ok_iff :
    registry.get server name = .ok capability ↔
      registry.capabilities.get? (server, name) = some capability := by
  unfold get
  cases registry.capabilities.get? (server, name) <;> simp

/-- What is resolved is registered under the asked name and visible. -/
theorem resolveFor_eq_ok_iff :
    registry.resolveFor principal server name = .ok capability ↔
      registry.get server name = .ok capability ∧
        capability.isVisibleTo principal = true := by
  unfold resolveFor
  cases found : registry.get server name with
  | error missing => simp [bind, Except.bind]
  | ok registered =>
      by_cases visible : registered.isVisibleTo principal = true
      · simp only [bind, Except.bind, visible, Bool.not_true, Bool.false_eq_true,
          if_false, pure, Except.pure, Except.ok.injEq]
        constructor
        · intro same
          exact ⟨same, same ▸ visible⟩
        · exact And.left
      · simp only [bind, Except.bind, visible, Bool.not_false, if_true, Except.ok.injEq]
        constructor
        · intro refused
          cases refused
        · intro both
          exact absurd (both.1 ▸ both.2) visible

/-- A refused resolution names what was asked for, whether or not it exists. -/
theorem resolveFor_eq_error {missing : CapabilityNotFound}
    (refused : registry.resolveFor principal server name = .error missing) :
    missing = ⟨server, name⟩ := by
  unfold resolveFor get at refused
  cases found : registry.capabilities.get? (server, name) with
  | none =>
      rw [found] at refused
      exact (Except.error.inj refused).symm
  | some registered =>
      rw [found] at refused
      by_cases visible : registered.isVisibleTo principal = true
      · simp [bind, Except.bind, visible, pure, Except.pure] at refused
      · simp only [bind, Except.bind, visible, Bool.not_false, if_true] at refused
        exact (Except.error.inj refused).symm

theorem names_of_resolveFor
    (resolved : registry.resolveFor principal server name = .ok capability) :
    capability.server.val = server ∧ capability.name.val = name := by
  have found := get_eq_ok_iff.mp (resolveFor_eq_ok_iff.mp resolved).1
  exact Prod.mk.inj (registry.keyed found)

theorem le_clearance_of_resolveFor
    (resolved : registry.resolveFor principal server name = .ok capability) :
    capability.maxAccessClass ≤ principal.clearance :=
  Capability.le_clearance_of_isVisibleTo (resolveFor_eq_ok_iff.mp resolved).2

end CapabilityRegistry

section Example

def calculatorName : Name := ⟨"calculator", by decide⟩

def addName : Name := ⟨"add", by decide⟩

def readName : Name := ⟨"read", by decide⟩

/-- The analyst of the first job. -/
def exampleAnalyst : Principal where
  tenantId := "acme"
  subjectId := "job:1"
  agentRole := some .analyst
  tenantGiven := by decide
  subjectGiven := by decide

end Example

end ResearchPlatform
