import Mathlib.Data.List.Infix
import ResearchPlatform.Domain.Json
import ResearchPlatform.Domain.Models
import ResearchPlatform.Foundation.Dict

/-!
# Audit records

`ToolInvocation` is the record of one capability call.  Its arguments are kept
sanitized, and a digest binds the record to the arguments as they were given.
-/

namespace ResearchPlatform

open Foundation

/-- The named arguments of a call. -/
abbrev Arguments : Type := Dict String Json

/-! ## Sanitized arguments -/

/-- `REDACTED`. -/
def redacted : Json := .text "[redacted]"

/-- `SENSITIVE_ARGUMENT_NAMES`. -/
def sensitiveArgumentNames : List String :=
  ["api_key", "authorization", "credential", "password", "secret", "token"]

/-- `name.lower()` as far as a marker can tell: no other character has a lower
case with an ASCII letter in it. -/
def lowerChar (char : Char) : List Char :=
  if 'A' ≤ char ∧ char ≤ 'Z' then [Char.ofNat (char.toNat + 32)]
  else if char.toNat = 0x212A then ['k']
  else if char.toNat = 0x130 then ['i', Char.ofNat 0x307]
  else [char]

/-- `is_sensitive_argument`. -/
def isSensitiveArgument (name : String) : Bool :=
  let lowered := name.toList.flatMap lowerChar
  sensitiveArgumentNames.any fun marker => marker.toList <:+: lowered

/-- `sanitize_arguments`. -/
def sanitizeArguments (arguments : Arguments) : Arguments :=
  arguments.mapValues fun name value =>
    if isSensitiveArgument name then redacted else value

/-- Sanitizing twice is sanitizing once. -/
theorem sanitizeArguments_idempotent (arguments : Arguments) :
    sanitizeArguments (sanitizeArguments arguments) = sanitizeArguments arguments := by
  unfold sanitizeArguments
  rw [Dict.mapValues_mapValues]
  congr 1
  funext name value
  by_cases sensitive : isSensitiveArgument name = true <;> simp [sensitive]

/-- `argument_digest`. -/
def argumentDigest (arguments : Arguments) : DigestText :=
  sha256Text (String.ofList (Json.object arguments.entries).dumps)

/-! ## The record -/

inductive AuthorizationDecision where
  | allow
  | deny
  deriving DecidableEq, Repr

inductive InvocationOutcome where
  | pending
  | succeeded
  | failed
  | denied
  deriving DecidableEq, Repr

inductive ErrorClass where
  | none
  | policyDenied
  | invalidArguments
  | upstreamUnavailable
  | timeout
  | resultTooLarge
  | budgetExhausted
  | unexpected
  deriving DecidableEq, Repr

/-- The fields of an audit record before its validators have run. -/
structure InvocationFields where
  id : UUID
  jobId : UUID
  taskId : UUID
  tenantId : String
  mcpServer : String
  capability : String
  sanitizedArguments : Arguments
  argumentDigest : DigestText
  policyVersion : String
  authorizationDecision : AuthorizationDecision
  outcome : InvocationOutcome
  errorClass : ErrorClass
  startedAt : Timestamp
  durationMs : Option Nat
  deriving DecidableEq

/-- The rules of `denied_calls_cannot_report_success` on decision, outcome and
error class. -/
structure OutcomeConsistent (decision : AuthorizationDecision)
    (outcome : InvocationOutcome) (errorClass : ErrorClass) : Prop where
  denyIsDenied :
    decision = .deny → outcome = .denied ∧ errorClass = .policyDenied
  deniedSaysWhy : outcome = .denied → errorClass ≠ .none
  succeededIsClean : outcome = .succeeded → errorClass = .none
  failedSaysWhy : outcome = .failed → errorClass ≠ .none

instance (decision : AuthorizationDecision) (outcome : InvocationOutcome)
    (errorClass : ErrorClass) :
    Decidable (OutcomeConsistent decision outcome errorClass) :=
  decidable_of_iff
    ((decision = .deny → outcome = .denied ∧ errorClass = .policyDenied) ∧
      (outcome = .denied → errorClass ≠ .none) ∧
      (outcome = .succeeded → errorClass = .none) ∧
      (outcome = .failed → errorClass ≠ .none))
    ⟨fun ⟨deny, denied, succeeded, failed⟩ => ⟨deny, denied, succeeded, failed⟩,
      fun rules =>
        ⟨rules.denyIsDenied, rules.deniedSaysWhy, rules.succeededIsClean,
          rules.failedSaysWhy⟩⟩

/-- The limit of `duration_ms`: one day. -/
def durationLimitMs : Nat := 86400000

/-- The field limits and the validator of `ToolInvocation`. -/
structure InvocationFields.Valid (fields : InvocationFields) : Prop where
  tenantInRange : 1 ≤ fields.tenantId.length ∧ fields.tenantId.length ≤ 100
  serverInRange : 1 ≤ fields.mcpServer.length ∧ fields.mcpServer.length ≤ 4000
  capabilityInRange :
    1 ≤ fields.capability.length ∧ fields.capability.length ≤ 4000
  versionInRange :
    1 ≤ fields.policyVersion.length ∧ fields.policyVersion.length ≤ 4000
  durationInRange : ∀ duration ∈ fields.durationMs, duration ≤ durationLimitMs
  consistent :
    OutcomeConsistent fields.authorizationDecision fields.outcome fields.errorClass
  sanitized :
    fields.sanitizedArguments = sanitizeArguments fields.sanitizedArguments

instance (fields : InvocationFields) : Decidable fields.Valid :=
  decidable_of_iff
    ((1 ≤ fields.tenantId.length ∧ fields.tenantId.length ≤ 100) ∧
      (1 ≤ fields.mcpServer.length ∧ fields.mcpServer.length ≤ 4000) ∧
      (1 ≤ fields.capability.length ∧ fields.capability.length ≤ 4000) ∧
      (1 ≤ fields.policyVersion.length ∧ fields.policyVersion.length ≤ 4000) ∧
      (∀ duration ∈ fields.durationMs, duration ≤ durationLimitMs) ∧
      OutcomeConsistent fields.authorizationDecision fields.outcome
        fields.errorClass ∧
      fields.sanitizedArguments = sanitizeArguments fields.sanitizedArguments)
    ⟨fun ⟨tenant, server, capability, version, duration, consistent, sanitized⟩ =>
        ⟨tenant, server, capability, version, duration, consistent, sanitized⟩,
      fun valid =>
        ⟨valid.tenantInRange, valid.serverInRange, valid.capabilityInRange,
          valid.versionInRange, valid.durationInRange, valid.consistent,
          valid.sanitized⟩⟩

/-- One audited call. -/
structure ToolInvocation extends InvocationFields where
  valid : toInvocationFields.Valid
  deriving DecidableEq

def ToolInvocation.key (invocation : ToolInvocation) : JobKey :=
  (invocation.tenantId, invocation.jobId)

/-- `ToolInvocation(...)`: construct a record or raise. -/
def ToolInvocation.validate (fields : InvocationFields) :
    Except ValidationError ToolInvocation :=
  if valid : fields.Valid then .ok ⟨fields, valid⟩
  else .error ⟨"an audit record breaks its own validators"⟩

theorem ToolInvocation.validate_eq_ok {fields : InvocationFields}
    (valid : fields.Valid) :
    ToolInvocation.validate fields = .ok ⟨fields, valid⟩ :=
  dif_pos valid

/-- A record refused on policy grounds was not executed. -/
theorem ToolInvocation.denied_of_deny (invocation : ToolInvocation)
    (deny : invocation.authorizationDecision = .deny) :
    invocation.outcome = .denied :=
  (invocation.valid.consistent.denyIsDenied deny).1

end ResearchPlatform
