import ResearchPlatform.Application.Publication

/-!
# The system of record

`InMemoryJobRepository` and the rules of `ResearchJobService` over it.  Fresh
identifiers and clock readings are arguments.
-/

namespace ResearchPlatform

open Foundation

/-- What a repository or the service raises. -/
inductive ServiceError where
  | jobNotFound (jobId : UUID)
  | invalidStateTransition (refusal : InvalidStateTransition)
  | invalidEvidence (error : ValidationError)
  deriving DecidableEq

/-! ## Jobs -/

theorem noJob_keyed {key : JobKey} {job : ResearchJob}
    (found : (∅ : Dict JobKey ResearchJob).get? key = some job) : job.key = key := by
  cases found

/-- The stored jobs, each under its own tenant and identifier. -/
structure JobTable where
  rows : Dict JobKey ResearchJob := ∅
  keyed : ∀ {key job}, rows.get? key = some job → job.key = key := by
    first | exact noJob_keyed | simp

namespace JobTable

/-- `InMemoryJobRepository.add`. -/
def add (table : JobTable) (job : ResearchJob) : JobTable where
  rows := table.rows.set job.key job
  keyed := by
    intro key stored found
    rw [Dict.get?_set] at found
    split at found
    · rename_i same
      rw [same, Option.some.inj found]
    · exact table.keyed found

/-- `get`: only a job of the asking tenant is found. -/
def get (table : JobTable) (tenantId : String) (jobId : UUID) :
    Except ServiceError ResearchJob :=
  match table.rows.get? (tenantId, jobId) with
  | some job => .ok job
  | none => .error (.jobNotFound jobId)

/-- `list`: the tenant's jobs, the latest first. -/
def list (table : JobTable) (tenantId : String) : List ResearchJob :=
  ((table.rows.entries.filter (·.1.1 = tenantId)).map Prod.snd).insertionSort
    fun first second => second.createdAt ≤ first.createdAt

/-- `InMemoryJobRepository.update`: replace the whole row. -/
def update (table : JobTable) (job : ResearchJob) : Except ServiceError JobTable :=
  match table.rows.get? job.key with
  | some _ => .ok (table.add job)
  | none => .error (.jobNotFound job.id)

variable {table : JobTable} {tenantId : String} {jobId : UUID} {job : ResearchJob}

theorem get_eq_ok_iff :
    table.get tenantId jobId = .ok job ↔
      table.rows.get? (tenantId, jobId) = some job := by
  unfold get
  cases table.rows.get? (tenantId, jobId) <;> simp

/-- A job that was found is the job asked for. -/
theorem key_of_get (found : table.get tenantId jobId = .ok job) :
    job.key = (tenantId, jobId) :=
  table.keyed (get_eq_ok_iff.mp found)

theorem update_eq_ok {moved : ResearchJob}
    (found : table.get tenantId jobId = .ok job)
    (sameKey : moved.key = (tenantId, jobId)) :
    table.update moved = .ok (table.add moved) := by
  unfold update
  rw [sameKey, get_eq_ok_iff.mp found]

theorem get_add_self : (table.add job).get job.tenantId job.id = .ok job :=
  get_eq_ok_iff.mpr (Dict.get?_set_self table.rows job.key job)

theorem get_add_of_ne (different : (tenantId, jobId) ≠ job.key) :
    (table.add job).get tenantId jobId = table.get tenantId jobId := by
  unfold get add
  rw [Dict.get?_set_of_ne table.rows job different]

/-- The later of two writes to one row is the one that stays. -/
theorem add_add {later : ResearchJob} (sameKey : later.key = job.key) :
    (table.add job).add later = table.add later := by
  simp only [add, JobTable.mk.injEq]
  rw [sameKey, Dict.set_set]

end JobTable

/-! ## The repository -/

theorem noEvidence_keyed {key : JobKey} {record : EvidenceRecord}
    (member : record ∈ ((∅ : Dict JobKey (List EvidenceRecord)).get? key).getD []) :
    record.key = key := by
  cases member

theorem noInvocation_keyed {key : JobKey} {invocation : ToolInvocation}
    (member : invocation ∈ ((∅ : Dict JobKey (List ToolInvocation)).get? key).getD []) :
    invocation.key = key := by
  cases member

/-- `InMemoryJobRepository`.  What is kept under a tenant and a job belongs to
them. -/
structure InMemoryJobRepository where
  jobs : JobTable := {}
  evidence : Dict JobKey (List EvidenceRecord) := ∅
  invocations : Dict JobKey (List ToolInvocation) := ∅
  findings : Dict JobKey (List FindingRecord) := ∅
  publications : Dict JobKey ReportPublication := ∅
  evidenceKeyed :
    ∀ {key record}, record ∈ (evidence.get? key).getD [] → record.key = key := by
      first | exact noEvidence_keyed | simp
  invocationsKeyed :
    ∀ {key invocation}, invocation ∈ (invocations.get? key).getD [] →
      invocation.key = key := by
      first | exact noInvocation_keyed | simp

namespace InMemoryJobRepository

def get (repository : InMemoryJobRepository) (tenantId : String) (jobId : UUID) :
    Except ServiceError ResearchJob :=
  repository.jobs.get tenantId jobId

def add (repository : InMemoryJobRepository) (job : ResearchJob) :
    InMemoryJobRepository :=
  { repository with jobs := repository.jobs.add job }

def update (repository : InMemoryJobRepository) (job : ResearchJob) :
    Except ServiceError InMemoryJobRepository :=
  (repository.jobs.update job).map fun jobs => { repository with jobs := jobs }

/-- The evidence kept under a key, whether or not its job is stored. -/
def evidenceOf (repository : InMemoryJobRepository) (key : JobKey) :
    List EvidenceRecord :=
  (repository.evidence.get? key).getD []

/-- The audit records kept under a key. -/
def invocationsOf (repository : InMemoryJobRepository) (key : JobKey) :
    List ToolInvocation :=
  (repository.invocations.get? key).getD []

/-- The findings kept under a key. -/
def findingsOf (repository : InMemoryJobRepository) (key : JobKey) :
    List FindingRecord :=
  (repository.findings.get? key).getD []

/-- Append one evidence record under its own key. -/
def appendEvidence (repository : InMemoryJobRepository) (record : EvidenceRecord) :
    InMemoryJobRepository :=
  { repository with
    evidence :=
      repository.evidence.set record.key (repository.evidenceOf record.key ++ [record])
    evidenceKeyed := by
      intro key stored member
      rw [Dict.get?_set] at member
      split at member
      · rename_i same
        rcases List.mem_append.mp member with earlier | last
        · rw [same]
          exact repository.evidenceKeyed earlier
        · rw [List.mem_singleton.mp last, same]
      · exact repository.evidenceKeyed member }

def addEvidence (repository : InMemoryJobRepository) (record : EvidenceRecord) :
    Except ServiceError InMemoryJobRepository :=
  (repository.get record.tenantId record.jobId).map fun _ =>
    repository.appendEvidence record

def listEvidence (repository : InMemoryJobRepository) (tenantId : String)
    (jobId : UUID) : Except ServiceError (List EvidenceRecord) :=
  (repository.get tenantId jobId).map fun _ =>
    repository.evidenceOf (tenantId, jobId)

/-- `record_invocation`: idempotent on the record's own identifier, and without
asking for the job. -/
def recordInvocation (repository : InMemoryJobRepository)
    (invocation : ToolInvocation) : InMemoryJobRepository :=
  if invocation.id ∈ (repository.invocationsOf invocation.key).map (·.id) then
    repository
  else
    { repository with
      invocations :=
        repository.invocations.set invocation.key
          (repository.invocationsOf invocation.key ++ [invocation])
      invocationsKeyed := by
        intro key stored member
        rw [Dict.get?_set] at member
        split at member
        · rename_i same
          rcases List.mem_append.mp member with earlier | last
          · rw [same]
            exact repository.invocationsKeyed earlier
          · rw [List.mem_singleton.mp last, same]
        · exact repository.invocationsKeyed member }

/-- `list_invocations`: the oldest first. -/
def listInvocations (repository : InMemoryJobRepository) (tenantId : String)
    (jobId : UUID) : List ToolInvocation :=
  (repository.invocationsOf (tenantId, jobId)).insertionSort
    fun first second => first.startedAt ≤ second.startedAt

/-- `replace_findings`. -/
def replaceFindings (repository : InMemoryJobRepository) (tenantId : String)
    (jobId : UUID) (findings : List FindingRecord) :
    Except ServiceError InMemoryJobRepository :=
  (repository.get tenantId jobId).map fun _ =>
    { repository with
      findings := repository.findings.set (tenantId, jobId) findings }

def listFindings (repository : InMemoryJobRepository) (tenantId : String)
    (jobId : UUID) : Except ServiceError (List FindingRecord) :=
  (repository.get tenantId jobId).map fun _ =>
    repository.findingsOf (tenantId, jobId)

/-- `record_publication`: the latest publication of a job wins. -/
def recordPublication (repository : InMemoryJobRepository)
    (publication : ReportPublication) : Except ServiceError InMemoryJobRepository :=
  (repository.get publication.tenantId publication.jobId).map fun _ =>
    { repository with
      publications :=
        repository.publications.set (publication.tenantId, publication.jobId)
          publication }

def getPublication (repository : InMemoryJobRepository) (tenantId : String)
    (jobId : UUID) : Except ServiceError (Option ReportPublication) :=
  (repository.get tenantId jobId).map fun _ =>
    repository.publications.get? (tenantId, jobId)

/-! What a write leaves in each table. -/

section Frame

variable (repository : InMemoryJobRepository) (record : EvidenceRecord)
  (invocation : ToolInvocation)

theorem evidence_appendEvidence :
    (repository.appendEvidence record).evidence =
      repository.evidence.set record.key (repository.evidenceOf record.key ++ [record]) :=
  rfl

theorem evidenceOf_appendEvidence (key : JobKey) :
    (repository.appendEvidence record).evidenceOf key =
      repository.evidenceOf key ++ if record.key = key then [record] else [] := by
  unfold evidenceOf
  rw [evidence_appendEvidence, Dict.get?_set]
  by_cases isIts : record.key = key
  · rw [if_pos isIts.symm, if_pos isIts, ← isIts]
    rfl
  · rw [if_neg (Ne.symm isIts), if_neg isIts, List.append_nil]

theorem invocations_recordInvocation :
    (repository.recordInvocation invocation).invocations =
      if invocation.id ∈ (repository.invocationsOf invocation.key).map (·.id) then
        repository.invocations
      else
        repository.invocations.set invocation.key
          (repository.invocationsOf invocation.key ++ [invocation]) := by
  unfold recordInvocation
  split <;> rfl

theorem invocationsOf_recordInvocation (key : JobKey) :
    (repository.recordInvocation invocation).invocationsOf key =
      repository.invocationsOf key ++
        if invocation.key = key ∧
            invocation.id ∉ (repository.invocationsOf key).map (·.id) then
          [invocation]
        else [] := by
  change ((repository.recordInvocation invocation).invocations.get? key).getD [] = _
  rw [invocations_recordInvocation]
  by_cases isIts : invocation.key = key
  · subst isIts
    by_cases known : invocation.id ∈ (repository.invocationsOf invocation.key).map (·.id)
    · rw [if_pos known, if_neg fun both => both.2 known, List.append_nil]
      rfl
    · rw [if_neg known, if_pos ⟨rfl, known⟩, Dict.get?_set_self]
      rfl
  · rw [if_neg fun both : _ ∧ _ => isIts both.1, List.append_nil]
    split
    · rfl
    · rw [Dict.get?_set_of_ne _ _ (Ne.symm isIts)]
      rfl

@[simp]
theorem jobs_recordInvocation :
    (repository.recordInvocation invocation).jobs = repository.jobs := by
  unfold recordInvocation
  split <;> rfl

@[simp]
theorem evidence_recordInvocation :
    (repository.recordInvocation invocation).evidence = repository.evidence := by
  unfold recordInvocation
  split <;> rfl

@[simp]
theorem findings_recordInvocation :
    (repository.recordInvocation invocation).findings = repository.findings := by
  unfold recordInvocation
  split <;> rfl

@[simp]
theorem publications_recordInvocation :
    (repository.recordInvocation invocation).publications = repository.publications := by
  unfold recordInvocation
  split <;> rfl

end Frame

end InMemoryJobRepository

/-! ## The service -/

namespace ResearchJobService

variable (repository : InMemoryJobRepository)

/-- `ResearchJobService.create`, with the new job's identifier and creation time. -/
def create (tenantId requesterId : String) (command : ResearchJobCreate)
    (clearance : AccessClass) (id : UUID) (now : Timestamp) :
    ResearchJob × InMemoryJobRepository :=
  let job : ResearchJob :=
    { id := id
      tenantId := tenantId
      requesterId := requesterId
      question := command.question
      constraints := command.constraints
      sourceRequirements := command.sourceRequirements
      budget := command.budget
      clearance := clearance
      createdAt := now
      updatedAt := now }
  (job, repository.add job)

/-- `ResearchJobService.transition`. -/
def transition (tenantId : String) (jobId : UUID) (target : JobStatus)
    (detail : Option String) (usage : Option JobUsage) (now : Timestamp) :
    Except ServiceError (ResearchJob × InMemoryJobRepository) := do
  let job ← repository.get tenantId jobId
  match job.transitionTo target detail usage now with
  | .ok moved =>
      let updated ← repository.update moved
      return (moved, updated)
  | .error refusal => throw (.invalidStateTransition refusal)

/-- `ResearchJobService.record_checkpoint`. -/
def recordCheckpoint (tenantId : String) (jobId : UUID)
    (workflowId workflowRunId : String) (now : Timestamp) :
    Except ServiceError (ResearchJob × InMemoryJobRepository) := do
  let job ← repository.get tenantId jobId
  let marked := job.withCheckpoint workflowId workflowRunId now
  let updated ← repository.update marked
  return (marked, updated)

/-- `ResearchJobService.add_evidence`, with the new record's identifier and the
reading of the clock. -/
def addEvidence (tenantId : String) (jobId : UUID) (command : EvidenceRecordCreate)
    (id : UUID) (now : Timestamp) :
    Except ServiceError (EvidenceRecord × InMemoryJobRepository) := do
  let _ ← repository.get tenantId jobId
  if command.Published now then
    let record : EvidenceRecord :=
      { toEvidenceRecordCreate := command
        id := id
        jobId := jobId
        tenantId := tenantId
        retrievedAt := now }
    let updated ← repository.addEvidence record
    return (record, updated)
  else
    throw (.invalidEvidence
      ⟨"evidence cannot carry a future publication date"⟩)

/-- The records stored for findings, each with its own fresh identifier and
reading of the clock. -/
def findingRecords (tenantId : String) (jobId : UUID) (findings : List Finding)
    (stamp : Nat → UUID × Timestamp) : List FindingRecord :=
  findings.zipIdx.map fun (finding, index) =>
    { toFinding := finding
      id := (stamp index).1
      jobId := jobId
      tenantId := tenantId
      recordedAt := (stamp index).2 }

/-- `ResearchJobService.record_findings`. -/
def recordFindings (tenantId : String) (jobId : UUID) (findings : List Finding)
    (stamp : Nat → UUID × Timestamp) :
    Except ServiceError (List FindingRecord × InMemoryJobRepository) := do
  let _ ← repository.get tenantId jobId
  let records := findingRecords tenantId jobId findings stamp
  let updated ← repository.replaceFindings tenantId jobId records
  return (records, updated)

/-- `ResearchJobService.list_invocations`. -/
def listInvocations (tenantId : String) (jobId : UUID) :
    Except ServiceError (List ToolInvocation) :=
  (repository.get tenantId jobId).map fun _ =>
    repository.listInvocations tenantId jobId

/-- What an accepted record stores. -/
theorem eq_of_addEvidence {repository updated : InMemoryJobRepository} {tenantId : String}
    {jobId id : UUID} {command : EvidenceRecordCreate} {now : Timestamp}
    {record : EvidenceRecord}
    (adds : addEvidence repository tenantId jobId command id now = .ok (record, updated)) :
    record = ⟨command, id, jobId, tenantId, now⟩ ∧
      updated = repository.appendEvidence record := by
  obtain ⟨_, -, adds⟩ := bind_eq_ok.mp adds
  split at adds
  · obtain ⟨_, stores, adds⟩ := bind_eq_ok.mp adds
    obtain ⟨rfl, rfl⟩ := Prod.mk.inj (Except.ok.inj adds)
    obtain ⟨_, -, rfl⟩ := map_eq_ok.mp stores
    exact ⟨rfl, rfl⟩
  · cases adds

end ResearchJobService

end ResearchPlatform
