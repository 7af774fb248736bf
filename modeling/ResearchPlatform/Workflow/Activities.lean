import ResearchPlatform.Agents.Tools
import ResearchPlatform.Application.Jobs

/-!
# The activities of the workflow

The identity that agents work under, and `JobActivities`: each activity
recognises a delivery that has already landed.
-/

namespace ResearchPlatform

open Foundation

/-- `principal_for`: the job's tenant and the job's clearance. -/
def principalFor (job : ResearchJob) (role : AgentRole) : Except ValueError Principal :=
  if unnamed : job.tenantId = "" then
    .error ⟨"a principal must belong to a tenant"⟩
  else
    .ok (Principal.forAgent
      { tenantId := job.tenantId
        subjectId := "job:" ++ job.id.str
        clearance := job.clearance
        tenantGiven := unnamed
        subjectGiven := by
          intro empty
          have length := congrArg String.length empty
          rw [String.length_append] at length
          have tag : "job:".length = 4 := by decide
          have none : "".length = 0 := by decide
          omega }
      role)

theorem principalFor_eq_ok {job : ResearchJob} {role : AgentRole} {principal : Principal}
    (made : principalFor job role = .ok principal) :
    principal.tenantId = job.tenantId ∧ principal.clearance = job.clearance := by
  unfold principalFor at made
  split at made
  · cases made
  · cases made
    exact ⟨rfl, rfl⟩

namespace JobActivities

/-- `JobActivities.transition`; `usage` is what the ledger says, if there is one. -/
def transition (repository : InMemoryJobRepository) (tenantId : String) (jobId : UUID)
    (target : JobStatus) (detail : Option String) (usage : Option JobUsage)
    (now : Timestamp) : Except ServiceError (ResearchJob × InMemoryJobRepository) := do
  let current ← repository.get tenantId jobId
  if current.status = target then
    return (current, repository)
  else
    ResearchJobService.transition repository tenantId jobId target detail usage now

/-- A record is the same record when the same task captured the same content from
the same source through the same tool call. -/
def isSameRecord (command : EvidenceRecordCreate) (existing : EvidenceRecord) : Bool :=
  existing.contentHash = command.contentHash ∧
    existing.producingTaskId = command.producingTaskId ∧
    existing.toolInvocationId = command.toolInvocationId ∧
    existing.sourceUri = command.sourceUri

/-- `JobActivities.add_evidence`. -/
def addEvidence (repository : InMemoryJobRepository) (tenantId : String) (jobId : UUID)
    (command : EvidenceRecordCreate) (id : UUID) (now : Timestamp) :
    Except ServiceError (EvidenceRecord × InMemoryJobRepository) := do
  let stored ← repository.listEvidence tenantId jobId
  match stored.find? (isSameRecord command) with
  | some existing => return (existing, repository)
  | none => ResearchJobService.addEvidence repository tenantId jobId command id now

/-- `JobActivities.record_findings`: replacing the set makes a redelivery
harmless. -/
def recordFindings (repository : InMemoryJobRepository) (tenantId : String)
    (jobId : UUID) (findings : List Finding) (stamp : Nat → UUID × Timestamp) :
    Except ServiceError (List FindingRecord × InMemoryJobRepository) :=
  ResearchJobService.recordFindings repository tenantId jobId findings stamp

/-- A record is found stored, or it is added by the service. -/
theorem added_of_addEvidence {repository updated : InMemoryJobRepository}
    {tenantId : String} {jobId id : UUID} {command : EvidenceRecordCreate}
    {now : Timestamp} {record : EvidenceRecord}
    (adds : addEvidence repository tenantId jobId command id now = .ok (record, updated)) :
    (record ∈ repository.evidenceOf (tenantId, jobId) ∧ updated = repository) ∨
      ResearchJobService.addEvidence repository tenantId jobId command id now =
        .ok (record, updated) := by
  obtain ⟨stored, listed, adds⟩ := bind_eq_ok.mp adds
  obtain ⟨_, -, rfl⟩ := map_eq_ok.mp listed
  cases found : (repository.evidenceOf (tenantId, jobId)).find? (isSameRecord command) with
  | some existing =>
      rw [found] at adds
      obtain ⟨rfl, rfl⟩ := Prod.mk.inj (Except.ok.inj adds)
      exact Or.inl ⟨List.mem_of_find?_eq_some found, rfl⟩
  | none =>
      rw [found] at adds
      exact Or.inr adds

/-- Findings are replaced and nothing else. -/
theorem eq_of_recordFindings {repository updated : InMemoryJobRepository}
    {tenantId : String} {jobId : UUID} {findings : List Finding}
    {stamp : Nat → UUID × Timestamp} {records : List FindingRecord}
    (stores : recordFindings repository tenantId jobId findings stamp =
      .ok (records, updated)) :
    updated = { repository with
      findings := repository.findings.set (tenantId, jobId) records } := by
  obtain ⟨_, -, stores⟩ := bind_eq_ok.mp stores
  obtain ⟨_, replaces, stores⟩ := bind_eq_ok.mp stores
  obtain ⟨rfl, rfl⟩ := Prod.mk.inj (Except.ok.inj stores)
  obtain ⟨_, -, rfl⟩ := map_eq_ok.mp replaces
  rfl

end JobActivities

end ResearchPlatform
