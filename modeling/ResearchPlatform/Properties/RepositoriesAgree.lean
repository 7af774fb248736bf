import ResearchPlatform.Persistence.JobDatabase
import ResearchPlatform.Persistence.Postgres

/-!
# The two repositories agree

Over calls with fresh identifiers and later and later clock readings, the Postgres
repository answers as the in-memory one does: each table mirrors a dictionary, and
each of the thirteen operations keeps the mirror.
-/

namespace ResearchPlatform

open Foundation JobService

/-! ## Fresh calls -/

/-- What earlier calls have used. -/
structure JobHistory where
  created : List JobKey := []
  ids : List UUID := []
  invocations : List ToolInvocation := []
  latest : Option Timestamp := none

/-- The key of the job that a call creates. -/
def createdBy : RepositoryCall → Stamps → List JobKey
  | .create tenantId requesterId command clearance, stamps =>
      if (newJob tenantId requesterId command clearance stamps).FieldsValid then
        [(tenantId, stamps.id)]
      else []
  | _, _ => []

/-- The identifiers that a call generates. -/
def newIds : RepositoryCall → Stamps → List UUID
  | .create .., stamps => [stamps.id]
  | .addEvidence .., stamps => [stamps.id]
  | .recordFindings tenantId jobId findings, stamps =>
      (ResearchJobService.findingRecords tenantId jobId findings stamps.finding).map (·.id)
  | _, _ => []

/-- The audit record that a call hands over. -/
def newInvocations : RepositoryCall → List ToolInvocation
  | .recordInvocation invocation => [invocation]
  | _ => []

namespace JobHistory

def observe (seen : JobHistory) (call : RepositoryCall × Stamps) : JobHistory where
  created := createdBy call.1 call.2 ++ seen.created
  ids := newIds call.1 call.2 ++ seen.ids
  invocations := newInvocations call.1 ++ seen.invocations
  latest := some call.2.now

/-- The time is not after the latest call. -/
def Reached (seen : JobHistory) (time : Timestamp) : Prop :=
  ∃ latest ∈ seen.latest, time ≤ latest

/-- The call comes later than all before, what it generates is new, and an audit
record it hands over is one that was handed over before, or has an identifier and
a start of its own. -/
structure Fresh (seen : JobHistory) (call : RepositoryCall × Stamps) : Prop where
  later : ∀ latest ∈ seen.latest, latest < call.2.now
  idsDistinct : (newIds call.1 call.2).Nodup
  idsFresh : ∀ identifier ∈ newIds call.1 call.2, identifier ∉ seen.ids
  invocations : ∀ invocation ∈ newInvocations call.1, ∀ earlier ∈ seen.invocations,
    earlier = invocation ∨
      earlier.id ≠ invocation.id ∧ earlier.startedAt ≠ invocation.startedAt

/-- A checkpoint of a stored job keeps to the limits of `workflow_id` and
`workflow_run_id`. -/
def CheckpointFits (seen : JobHistory) : RepositoryCall → Prop
  | .recordCheckpoint tenantId jobId workflowId workflowRunId =>
      (tenantId, jobId) ∈ seen.created →
        workflowId.length ≤ 255 ∧ workflowRunId.length ≤ 255
  | _ => True

variable {seen : JobHistory} {call : RepositoryCall × Stamps} {time : Timestamp}

theorem Reached.observe (fresh : seen.Fresh call) (reached : seen.Reached time) :
    (seen.observe call).Reached time := by
  obtain ⟨latest, isLatest, before⟩ := reached
  exact ⟨call.2.now, rfl, le_trans before (le_of_lt (fresh.later latest isLatest))⟩

theorem Reached.lt_now (fresh : seen.Fresh call) (reached : seen.Reached time) :
    time < call.2.now := by
  obtain ⟨latest, isLatest, before⟩ := reached
  exact lt_of_le_of_lt before (fresh.later latest isLatest)

theorem reached_now : (seen.observe call).Reached call.2.now := ⟨_, rfl, le_refl _⟩

end JobHistory

/-- Calls with fresh identifiers and increasing timestamps. -/
def freshCalls : Service.Guard JobHistory (RepositoryCall × Stamps) where
  observe := JobHistory.observe
  admits := JobHistory.Fresh

/-- Fresh calls whose checkpoints fit. -/
def fittingCalls : Service.Guard JobHistory (RepositoryCall × Stamps) where
  observe := JobHistory.observe
  admits seen call := seen.Fresh call ∧ seen.CheckpointFits call.1

/-! ## Jobs -/

/-- The table of jobs holds the stored jobs, in the order they were created. -/
structure JobsMirrored (seen : JobHistory) (jobs : JobTable) (rows : List JobRow) :
    Prop where
  rows_eq : rows = jobs.rows.entries.map fun entry => jobParameters entry.2
  valid : ∀ entry ∈ jobs.rows.entries, entry.2.FieldsValid
  created : ∀ entry ∈ jobs.rows.entries, entry.1 ∈ seen.created
  ids : ∀ entry ∈ jobs.rows.entries, entry.1.2 ∈ seen.ids
  inOrder : jobs.rows.entries.Pairwise fun first second =>
    first.2.createdAt < second.2.createdAt
  reached : ∀ entry ∈ jobs.rows.entries, seen.Reached entry.2.createdAt

namespace JobsMirrored

variable {seen : JobHistory} {jobs : JobTable} {call : RepositoryCall × Stamps}
  {order : ScanOrder} {database : JobDatabase} {tenantId : String} {jobId : UUID}

theorem observe {rows : List JobRow} (mirrored : JobsMirrored seen jobs rows)
    (fresh : seen.Fresh call) : JobsMirrored (seen.observe call) jobs rows :=
  { mirrored with
    created := fun entry member =>
      List.mem_append_right _ (mirrored.created entry member)
    ids := fun entry member => List.mem_append_right _ (mirrored.ids entry member)
    reached := fun entry member => (mirrored.reached entry member).observe fresh }

theorem key_eq {rows : List JobRow} (_mirrored : JobsMirrored seen jobs rows)
    {entry : JobKey × ResearchJob} (member : entry ∈ jobs.rows.entries) :
    (jobParameters entry.2).key = entry.1 :=
  jobs.keyed (Dict.get?_of_mem_entries member)

/-- The rows of a key. -/
theorem filter_key {rows : List JobRow} (mirrored : JobsMirrored seen jobs rows)
    (key : JobKey) :
    rows.filter (·.key = key) = (jobs.rows.get? key).toList.map jobParameters := by
  have sameTest : jobs.rows.entries.filter
      ((fun row : JobRow => decide (row.key = key)) ∘
        fun entry => jobParameters entry.2) =
      jobs.rows.entries.filter (·.1 = key) := by
    apply List.filter_congr
    intro entry member
    simp [mirrored.key_eq member]
  rw [mirrored.rows_eq, List.filter_map, sameTest]
  cases found : jobs.rows.get? key with
  | none =>
      rw [Dict.filter_key_eq_nil (Dict.get?_eq_none_iff.mp found)]
      rfl
  | some job =>
      rw [Dict.filter_key_eq_singleton jobs.rows.keysDistinct
        (Dict.mem_entries_of_get? found)]
      rfl

variable {repository : InMemoryJobRepository}

theorem get (mirrored : JobsMirrored seen repository.jobs database.researchJobs.rows) :
    JobRepository.inMemory.get repository tenantId jobId =
      (JobRepository.postgres order).get database tenantId jobId := by
  have stored := mirrored.filter_key (tenantId, jobId)
  change (repository.get tenantId jobId).mapError JobError.service =
    PostgresJobRepository.get order database tenantId jobId
  unfold InMemoryJobRepository.get JobTable.get PostgresJobRepository.get
  cases found : repository.jobs.rows.get? (tenantId, jobId) with
  | none =>
      rw [found] at stored
      rw [Table.select_eq_nil stored]
      rfl
  | some job =>
      rw [found] at stored
      have valid := mirrored.valid _ (Dict.mem_entries_of_get? found)
      rw [Table.select_eq_singleton stored]
      change Except.ok job = ResearchJob.ofRow (jobParameters job)
      rw [ResearchJob.ofRow_jobParameters]
      exact (ResearchJob.validate_eq_ok_iff.mpr ⟨valid, rfl⟩).symm

theorem list (mirrored : JobsMirrored seen repository.jobs database.researchJobs.rows) :
    JobRepository.inMemory.list repository tenantId =
      (JobRepository.postgres order).list database tenantId := by
  let owned := (repository.jobs.rows.entries.filter (·.1.1 = tenantId)).map Prod.snd
  have stored : database.researchJobs.rows.filter (·.tenantId = tenantId) =
      owned.map jobParameters := by
    have sameTest : repository.jobs.rows.entries.filter
        ((fun row : JobRow => decide (row.tenantId = tenantId)) ∘
          fun entry => jobParameters entry.2) =
        repository.jobs.rows.entries.filter (·.1.1 = tenantId) := by
      apply List.filter_congr
      intro entry member
      have sameTenant := congrArg Prod.fst (mirrored.key_eq member)
      simp [← sameTenant, JobRow.key]
    rw [mirrored.rows_eq, List.filter_map, sameTest, List.map_map]
    rfl
  have distinct : owned.Pairwise fun first second =>
      first.createdAt ≠ second.createdAt := by
    apply List.pairwise_map.mpr
    apply (mirrored.inOrder.filter _).imp
    intro _ _ earlier
    exact ne_of_lt earlier
  have noTies : ∀ first ∈ owned, ∀ second ∈ owned,
      (jobParameters second).createdAt ≤ (jobParameters first).createdAt →
        (jobParameters first).createdAt ≤ (jobParameters second).createdAt →
          first = second := by
    intro first firstMember second secondMember notBefore notAfter
    exact eq_of_same_rank distinct firstMember secondMember (le_antisymm notAfter notBefore)
  have readable : ∀ job ∈ repository.jobs.list tenantId,
      ResearchJob.ofRow (jobParameters job) = .ok job := by
    intro job member
    have inOwned := (List.mem_insertionSort _).mp member
    obtain ⟨entry, inEntries, rfl⟩ := List.mem_map.mp inOwned
    rw [ResearchJob.ofRow_jobParameters]
    exact ResearchJob.validate_eq_ok_iff.mpr
      ⟨mirrored.valid entry (List.mem_of_mem_filter inEntries), rfl⟩
  have selected : database.researchJobs.selectBy order (·.tenantId = tenantId)
      (fun first second => second.createdAt ≤ first.createdAt) =
        (repository.jobs.list tenantId).map jobParameters :=
    Table.selectBy_eq order
      (fun first second => le_total second.createdAt first.createdAt)
      (fun _ _ _ later earlier => le_trans earlier later) stored noTies
  change Except.ok (repository.jobs.list tenantId) =
    PostgresJobRepository.list order database tenantId
  unfold PostgresJobRepository.list
  rw [selected]
  exact (mapM_map_eq_ok readable).symm

/-- A new job is added to both. -/
theorem add (mirrored : JobsMirrored seen repository.jobs database.researchJobs.rows)
    (fresh : seen.Fresh call) {job : ResearchJob} (valid : job.FieldsValid)
    (isCreated : job.key ∈ createdBy call.1 call.2) (isNew : job.id ∈ newIds call.1 call.2)
    (isNow : job.createdAt = call.2.now) :
    ∃ inserted : Table JobRow JobKey JobRow.key,
      database.researchJobs.insert (jobParameters job) = some inserted ∧
        JobsMirrored (seen.observe call) (repository.jobs.add job) inserted.rows := by
  have absent : job.key ∉ repository.jobs.rows.entries.map Prod.fst := by
    intro present
    obtain ⟨entry, member, same⟩ := List.mem_map.mp present
    have known := mirrored.ids entry member
    rw [same] at known
    exact fresh.idsFresh job.id isNew known
  have keys : database.researchJobs.rows.map JobRow.key =
      repository.jobs.rows.entries.map Prod.fst := by
    rw [mirrored.rows_eq, List.map_map]
    apply List.map_congr_left
    intro entry member
    exact mirrored.key_eq member
  have unkept : (jobParameters job).key ∉ database.researchJobs.rows.map JobRow.key := by
    rw [keys]
    exact absent
  obtain ⟨inserted, inserts, rows⟩ := Table.exists_insert unkept
  have entries : (repository.jobs.add job).rows.entries =
      repository.jobs.rows.entries ++ [(job.key, job)] :=
    Dict.entries_set_of_not_mem job absent
  have still := mirrored.observe fresh
  have each {holds : JobKey × ResearchJob → Prop}
      (before : ∀ entry ∈ repository.jobs.rows.entries, holds entry)
      (last : holds (job.key, job)) :
      ∀ entry ∈ repository.jobs.rows.entries ++ [(job.key, job)], holds entry :=
    List.forall_mem_append.mpr ⟨before, List.forall_mem_singleton.mpr last⟩
  refine ⟨inserted, inserts, ?_⟩
  constructor
  · rw [rows, mirrored.rows_eq, entries, List.map_append]
    rfl
  · rw [entries]
    exact each still.valid valid
  · rw [entries]
    exact each still.created (List.mem_append_left _ isCreated)
  · rw [entries]
    exact each still.ids (List.mem_append_left _ isNew)
  · rw [entries, List.pairwise_append]
    refine ⟨still.inOrder, List.pairwise_singleton _ _, ?_⟩
    intro entry member last isLast
    rw [List.mem_singleton.mp isLast]
    exact isNow ▸ (mirrored.reached entry member).lt_now fresh
  · rw [entries]
    exact each still.reached (isNow ▸ JobHistory.reached_now)

/-- A stored job that makes progress makes it in both. -/
theorem update (mirrored : JobsMirrored seen repository.jobs database.researchJobs.rows)
    {job moved : ResearchJob}
    (found : repository.jobs.get tenantId jobId = .ok job)
    (same : SameAssignment job moved) (valid : moved.FieldsValid) :
    let updated := database.researchJobs.update moved.key
      ((jobParameters moved).setProgress ·) fun _ => rfl
    updated.1 ≠ 0 ∧ JobsMirrored seen (repository.jobs.add moved) updated.2.rows := by
  have stored := JobTable.get_eq_ok_iff.mp found
  have movedKey : moved.key = (tenantId, jobId) :=
    same.key_eq.trans (JobTable.key_of_get found)
  have inEntries := Dict.mem_entries_of_get? stored
  have entries : (repository.jobs.add moved).rows.entries =
      Dict.replace repository.jobs.rows.entries (tenantId, jobId) moved := by
    change (repository.jobs.rows.set moved.key moved).entries = _
    rw [movedKey]
    exact Dict.entries_set_of_mem moved (List.mem_map_of_mem inEntries)
  have onlyJob : ∀ entry ∈ repository.jobs.rows.entries, entry.1 = (tenantId, jobId) →
      entry.2 = job := by
    intro entry member isIts
    have again : repository.jobs.rows.get? entry.1 = some entry.2 :=
      Dict.get?_of_mem_entries member
    rw [isIts, stored] at again
    exact (Option.some.inj again).symm
  have each {holds : JobKey × ResearchJob → Prop}
      (before : ∀ entry ∈ repository.jobs.rows.entries, holds entry)
      (change : holds ((tenantId, jobId), job) → holds ((tenantId, jobId), moved)) :
      ∀ entry ∈ Dict.replace repository.jobs.rows.entries (tenantId, jobId) moved,
        holds entry := by
    intro entry member
    obtain ⟨earlier, earlierMember, rfl⟩ := List.mem_map.mp member
    by_cases isIts : earlier.1 = (tenantId, jobId)
    · rw [if_pos isIts]
      exact change (before _ inEntries)
    · rw [if_neg isIts]
      exact before earlier earlierMember
  have sameCreated : moved.createdAt = job.createdAt := by
    rw [← same]
    rfl
  intro updated
  constructor
  · have inRows : jobParameters job ∈ database.researchJobs.rows := by
      rw [mirrored.rows_eq]
      exact List.mem_map_of_mem inEntries
    have hasKey : (jobParameters job).key = moved.key :=
      (mirrored.key_eq inEntries).trans movedKey.symm
    exact Nat.ne_of_gt (List.countP_pos_iff.mpr ⟨_, inRows, decide_eq_true hasKey⟩)
  · constructor
    · change database.researchJobs.rows.map (fun row =>
        if row.key = moved.key then (jobParameters moved).setProgress row else row) = _
      rw [entries, mirrored.rows_eq, Dict.replace, List.map_map, List.map_map]
      apply List.map_congr_left
      intro entry member
      have rowKey := mirrored.key_eq member
      by_cases isIts : entry.1 = (tenantId, jobId)
      · have isJob := onlyJob entry member isIts
        have progress : (jobParameters moved).setProgress (jobParameters job) =
            jobParameters moved := by
          rw [← same]
          rfl
        have jobKey : (jobParameters job).key = (tenantId, jobId) :=
          mirrored.key_eq inEntries
        simp only [Function.comp_apply, isJob, jobKey, isIts, movedKey, if_true, progress]
      · simp only [Function.comp_apply, rowKey, movedKey, isIts, if_false]
    · rw [entries]
      exact each mirrored.valid fun _ => valid
    · rw [entries]
      exact each mirrored.created id
    · rw [entries]
      exact each mirrored.ids id
    · rw [entries, Dict.replace, List.pairwise_map]
      have createdAs : ∀ entry ∈ repository.jobs.rows.entries,
          (if entry.1 = (tenantId, jobId) then ((tenantId, jobId), moved)
            else entry).2.createdAt = entry.2.createdAt := by
        intro entry member
        by_cases isIts : entry.1 = (tenantId, jobId)
        · rw [if_pos isIts, onlyJob entry member isIts]
          exact sameCreated
        · rw [if_neg isIts]
      apply mirrored.inOrder.imp_of_mem
      intro first second firstMember secondMember earlier
      rw [createdAs first firstMember, createdAs second secondMember]
      exact earlier
    · rw [entries]
      apply each mirrored.reached
      intro reached
      exact sameCreated ▸ reached

end JobsMirrored

/-- The tenant of a job that was found is a tenant that records can have. -/
theorem checkTenant_of_get {seen : JobHistory} {repository : InMemoryJobRepository}
    {rows : List JobRow} {tenantId : String} {jobId : UUID} {job : ResearchJob}
    (mirrored : JobsMirrored seen repository.jobs rows)
    (found : repository.get tenantId jobId = .ok job) : checkTenant tenantId = .ok () := by
  have stored := JobTable.get_eq_ok_iff.mp found
  have valid := mirrored.valid _ (Dict.mem_entries_of_get? stored)
  have sameTenant : job.tenantId = tenantId := congrArg Prod.fst (JobTable.key_of_get found)
  exact checkTenant_eq_ok_iff.mpr (sameTenant ▸ valid.1)

/-- Both repositories ask for the job first. -/
theorem asking_first {Value : Type} {seen : JobHistory} {order : ScanOrder}
    {repository : InMemoryJobRepository} {database : JobDatabase} {tenantId : String}
    {jobId : UUID} {value : Value} {next : Except JobError Value}
    (jobs : JobsMirrored seen repository.jobs database.researchJobs.rows)
    (reads : ∀ job, repository.get tenantId jobId = .ok job → next = .ok value) :
    ((repository.get tenantId jobId).map fun _ => value).mapError JobError.service =
      PostgresJobRepository.get order database tenantId jobId >>= fun _ => next := by
  have gets : (repository.get tenantId jobId).mapError JobError.service =
      PostgresJobRepository.get order database tenantId jobId := jobs.get
  rw [← gets]
  cases found : repository.get tenantId jobId with
  | error error => rfl
  | ok job => exact (reads job found).symm

/-- The rows under a key after one more row. -/
theorem filter_append_singleton {Row : Type} {rows : List Row} {row : Row}
    {jobKey : Row → JobKey} (key : JobKey) :
    (rows ++ [row]).filter (jobKey · = key) =
      rows.filter (jobKey · = key) ++ if jobKey row = key then [row] else [] := by
  rw [List.filter_append]
  by_cases isIts : jobKey row = key <;> simp [isIts]

/-! ## Evidence -/

/-- The table of evidence holds each job's records, in the order they came. -/
structure EvidenceMirrored (seen : JobHistory) (stored : JobKey → List EvidenceRecord)
    (rows : List EvidenceRow) : Prop where
  rows_eq : ∀ key, rows.filter (·.jobKey = key) =
    (stored key).map evidenceParameters
  ids : ∀ row ∈ rows, row.id ∈ seen.ids
  inOrder : rows.Pairwise fun first second => first.retrievedAt < second.retrievedAt
  reached : ∀ row ∈ rows, seen.Reached row.retrievedAt
  published : ∀ row ∈ rows, ∀ date ∈ row.publishedAt, date ≤ row.retrievedAt

namespace EvidenceMirrored

variable {seen : JobHistory} {call : RepositoryCall × Stamps} {order : ScanOrder}
  {repository : InMemoryJobRepository} {database : JobDatabase} {tenantId : String}
  {jobId : UUID}

theorem observe {rows : List EvidenceRow}
    (mirrored : EvidenceMirrored seen repository.evidenceOf rows) (fresh : seen.Fresh call) :
    EvidenceMirrored (seen.observe call) repository.evidenceOf rows :=
  { mirrored with
    ids := fun row member => List.mem_append_right _ (mirrored.ids row member)
    reached := fun row member => (mirrored.reached row member).observe fresh }

theorem mem_rows {rows : List EvidenceRow} {key : JobKey} {record : EvidenceRecord}
    (mirrored : EvidenceMirrored seen repository.evidenceOf rows)
    (member : record ∈ repository.evidenceOf key) : evidenceParameters record ∈ rows := by
  have inFilter : evidenceParameters record ∈
      (repository.evidenceOf key).map evidenceParameters := List.mem_map_of_mem member
  rw [← mirrored.rows_eq] at inFilter
  exact List.mem_of_mem_filter inFilter

theorem list (jobs : JobsMirrored seen repository.jobs database.researchJobs.rows)
    (mirrored : EvidenceMirrored seen repository.evidenceOf database.evidenceRecords.rows)
    (fresh : seen.Fresh call) :
    JobRepository.inMemory.listEvidence repository tenantId jobId call.2.now =
      (JobRepository.postgres order).listEvidence database tenantId jobId call.2.now := by
  apply asking_first jobs
  intro job found
  have ordered : (database.evidenceRecords.rows.filter
      (·.jobKey = (tenantId, jobId))).Pairwise fun first second =>
        first.retrievedAt < second.retrievedAt := mirrored.inOrder.filter _
  rw [mirrored.rows_eq] at ordered
  rw [Table.selectBy_eq_of_ordered order (mirrored.rows_eq (tenantId, jobId)) ordered]
  apply mapM_map_eq_ok
  intro record member
  have inRows := mirrored.mem_rows member
  have sameTenant : record.tenantId = tenantId :=
    congrArg Prod.fst (repository.evidenceKeyed member)
  rw [EvidenceRecord.ofRow_evidenceParameters]
  apply EvidenceRecord.validate_eq_ok_iff.mpr
  refine ⟨sameTenant ▸ checkTenant_of_get jobs found, ?_, rfl⟩
  intro date isDate
  exact le_trans (mirrored.published _ inRows date isDate)
    (le_of_lt ((mirrored.reached _ inRows).lt_now fresh))

/-- A new record is added to both. -/
theorem add (mirrored : EvidenceMirrored seen repository.evidenceOf database.evidenceRecords.rows)
    (fresh : seen.Fresh call) {record : EvidenceRecord}
    (isNew : record.id ∈ newIds call.1 call.2) (isNow : record.retrievedAt = call.2.now)
    (published : record.Published record.retrievedAt) :
    ∃ inserted : Table EvidenceRow JobKey EvidenceRow.key,
      database.evidenceRecords.insert (evidenceParameters record) = some inserted ∧
        EvidenceMirrored (seen.observe call)
          (repository.appendEvidence record).evidenceOf inserted.rows := by
  have absent : (evidenceParameters record).key ∉
      database.evidenceRecords.rows.map EvidenceRow.key := by
    intro present
    obtain ⟨row, member, same⟩ := List.mem_map.mp present
    have known := mirrored.ids row member
    rw [show row.id = record.id from congrArg Prod.snd same] at known
    exact fresh.idsFresh record.id isNew known
  obtain ⟨inserted, inserts, rows⟩ := Table.exists_insert absent
  have still := mirrored.observe fresh
  refine ⟨inserted, inserts, ?_⟩
  rw [rows]
  constructor
  · intro key
    rw [filter_append_singleton, mirrored.rows_eq,
      InMemoryJobRepository.evidenceOf_appendEvidence, List.map_append]
    apply congrArg
    change (if record.key = key then [evidenceParameters record] else []) = _
    by_cases isIts : record.key = key <;> simp [isIts]
  · exact List.forall_mem_append.mpr
      ⟨still.ids, List.forall_mem_singleton.mpr (List.mem_append_left _ isNew)⟩
  · rw [List.pairwise_append]
    refine ⟨still.inOrder, List.pairwise_singleton _ _, ?_⟩
    intro row member last isLast
    rw [List.mem_singleton.mp isLast]
    have earlier := (mirrored.reached row member).lt_now fresh
    rwa [← isNow] at earlier
  · have reached : (seen.observe call).Reached record.retrievedAt :=
      isNow ▸ JobHistory.reached_now
    exact List.forall_mem_append.mpr
      ⟨still.reached, List.forall_mem_singleton.mpr reached⟩
  · exact List.forall_mem_append.mpr
      ⟨still.published, List.forall_mem_singleton.mpr published⟩

end EvidenceMirrored

/-! ## Audit records -/

/-- The table of audit records holds what was handed over. -/
structure InvocationsMirrored (seen : JobHistory)
    (stored : JobKey → List ToolInvocation) (rows : List InvocationRow) : Prop where
  rows_eq : ∀ key, rows.filter (·.jobKey = key) =
    (stored key).map invocationParameters
  recorded : ∀ row ∈ rows, ∃ invocation ∈ seen.invocations,
    invocationParameters invocation = row
  distinct : rows.Pairwise fun first second => first.startedAt ≠ second.startedAt

namespace InvocationsMirrored

variable {seen : JobHistory} {call : RepositoryCall × Stamps} {order : ScanOrder}
  {repository : InMemoryJobRepository} {database : JobDatabase} {tenantId : String}
  {jobId : UUID}

theorem observe {rows : List InvocationRow}
    (mirrored : InvocationsMirrored seen repository.invocationsOf rows) :
    InvocationsMirrored (seen.observe call) repository.invocationsOf rows :=
  { mirrored with
    recorded := by
      intro row member
      obtain ⟨invocation, isSeen, same⟩ := mirrored.recorded row member
      exact ⟨invocation, List.mem_append_right _ isSeen, same⟩ }

theorem list
    (mirrored : InvocationsMirrored seen repository.invocationsOf database.toolInvocations.rows) :
    JobRepository.inMemory.listInvocations repository tenantId jobId =
      (JobRepository.postgres order).listInvocations database tenantId jobId := by
  have distinct : (repository.invocationsOf (tenantId, jobId)).Pairwise
      fun first second => first.startedAt ≠ second.startedAt := by
    have rowsDistinct := mirrored.distinct.filter fun row : InvocationRow =>
      decide (row.jobKey = (tenantId, jobId))
    rw [mirrored.rows_eq] at rowsDistinct
    have pulled := List.pairwise_map.mp rowsDistinct
    exact pulled
  have noTies : ∀ first ∈ repository.invocationsOf (tenantId, jobId),
      ∀ second ∈ repository.invocationsOf (tenantId, jobId),
        (invocationParameters first).startedAt ≤ (invocationParameters second).startedAt →
          (invocationParameters second).startedAt ≤
              (invocationParameters first).startedAt → first = second := by
    intro first firstMember second secondMember notAfter notBefore
    exact eq_of_same_rank distinct firstMember secondMember (le_antisymm notAfter notBefore)
  have selected : database.toolInvocations.selectBy order (·.jobKey = (tenantId, jobId))
      (fun first second => first.startedAt ≤ second.startedAt) =
        (repository.listInvocations tenantId jobId).map invocationParameters :=
    Table.selectBy_eq order
      (fun first second => le_total first.startedAt second.startedAt)
      (fun _ _ _ earlier later => le_trans earlier later)
      (mirrored.rows_eq (tenantId, jobId)) noTies
  change Except.ok (repository.listInvocations tenantId jobId) =
    PostgresJobRepository.listInvocations order database tenantId jobId
  unfold PostgresJobRepository.listInvocations
  rw [selected]
  apply (mapM_map_eq_ok _).symm
  intro invocation _
  exact ToolInvocation.ofRow_invocationParameters invocation

/-- A record that is handed over is kept by both, or was kept by both before. -/
theorem record
    (mirrored : InvocationsMirrored seen repository.invocationsOf database.toolInvocations.rows)
    (fresh : seen.Fresh call) {invocation : ToolInvocation}
    (isRecorded : invocation ∈ newInvocations call.1) :
    InvocationsMirrored (seen.observe call)
      (repository.recordInvocation invocation).invocationsOf
      (database.toolInvocations.insertIfAbsent (invocationParameters invocation)).rows := by
  have still : InvocationsMirrored (seen.observe call) repository.invocationsOf
      database.toolInvocations.rows := mirrored.observe
  have stored {key : JobKey} {other : ToolInvocation}
      (member : other ∈ repository.invocationsOf key) :
      invocationParameters other ∈ database.toolInvocations.rows := by
    have inFilter : invocationParameters other ∈
        (repository.invocationsOf key).map invocationParameters :=
      List.mem_map_of_mem member
    rw [← mirrored.rows_eq] at inFilter
    exact List.mem_of_mem_filter inFilter
  by_cases taken : (invocationParameters invocation).key ∈
      database.toolInvocations.rows.map InvocationRow.key
  · -- The row that is there was written for this very record.
    obtain ⟨row, member, sameKey⟩ := List.mem_map.mp taken
    obtain ⟨earlier, isSeen, rfl⟩ := mirrored.recorded row member
    have sameId : earlier.id = invocation.id := congrArg Prod.snd sameKey
    have same : earlier = invocation := by
      rcases fresh.invocations invocation isRecorded earlier isSeen with same | ⟨apart, -⟩
      · exact same
      · exact absurd sameId apart
    subst same
    have inFilter : invocationParameters earlier ∈
        database.toolInvocations.rows.filter (·.jobKey = earlier.key) :=
      List.mem_filter.mpr ⟨member, decide_eq_true rfl⟩
    rw [mirrored.rows_eq] at inFilter
    obtain ⟨other, isStored, sameRow⟩ := List.mem_map.mp inFilter
    have known : earlier.id ∈ (repository.invocationsOf earlier.key).map (·.id) :=
      List.mem_map.mpr ⟨other, isStored, congrArg InvocationRow.id sameRow⟩
    rw [Table.insertIfAbsent_of_taken taken]
    refine ⟨?_, still.recorded, still.distinct⟩
    intro key
    have unchanged : ¬ (earlier.key = key ∧
        earlier.id ∉ (repository.invocationsOf key).map (·.id)) := by
      rintro ⟨rfl, unknown⟩
      exact unknown known
    rw [InMemoryJobRepository.invocationsOf_recordInvocation, if_neg unchanged,
      List.append_nil]
    exact mirrored.rows_eq key
  · rw [Table.rows_insertIfAbsent taken]
    constructor
    · intro key
      rw [filter_append_singleton, mirrored.rows_eq,
        InMemoryJobRepository.invocationsOf_recordInvocation, List.map_append]
      apply congrArg
      change (if invocation.key = key then [invocationParameters invocation] else []) = _
      by_cases isIts : invocation.key = key
      · have unknown : invocation.id ∉ (repository.invocationsOf key).map (·.id) := by
          intro known
          obtain ⟨other, isStored, sameId⟩ := List.mem_map.mp known
          have sameTenant : other.tenantId = invocation.tenantId := by
            have owner := congrArg Prod.fst (repository.invocationsKeyed isStored)
            exact owner.trans (congrArg Prod.fst isIts).symm
          apply taken
          refine List.mem_map.mpr ⟨_, stored isStored, ?_⟩
          exact Prod.ext sameTenant sameId
        rw [if_pos isIts, if_pos ⟨isIts, unknown⟩]
        rfl
      · rw [if_neg isIts, if_neg fun both : _ ∧ _ => isIts both.1]
        rfl
    · have isLast : ∃ other ∈ (seen.observe call).invocations,
          invocationParameters other = invocationParameters invocation :=
        ⟨invocation, List.mem_append_left _ isRecorded, rfl⟩
      exact List.forall_mem_append.mpr
        ⟨still.recorded, List.forall_mem_singleton.mpr isLast⟩
    · rw [List.pairwise_append]
      refine ⟨still.distinct, List.pairwise_singleton _ _, ?_⟩
      intro row member last isLast
      rw [List.mem_singleton.mp isLast]
      obtain ⟨earlier, isSeen, rfl⟩ := mirrored.recorded row member
      rcases fresh.invocations invocation isRecorded earlier isSeen with rfl | ⟨-, apart⟩
      · exact absurd (List.mem_map_of_mem member) taken
      · exact apart

end InvocationsMirrored

/-! ## Findings -/

/-- The table of findings holds each job's findings, with their positions. -/
structure FindingsMirrored (seen : JobHistory) (stored : JobKey → List FindingRecord)
    (rows : List FindingRow) : Prop where
  rows_eq : ∀ key, rows.filter (·.jobKey = key) =
    PostgresJobRepository.findingRows (stored key)
  ids : ∀ row ∈ rows, row.id ∈ seen.ids

namespace FindingsMirrored

variable {seen : JobHistory} {call : RepositoryCall × Stamps} {order : ScanOrder}
  {repository : InMemoryJobRepository} {database : JobDatabase} {tenantId : String}
  {jobId : UUID} {findings : List FindingRecord}

open PostgresJobRepository (findingRows)

theorem observe {rows : List FindingRow}
    (mirrored : FindingsMirrored seen repository.findingsOf rows) :
    FindingsMirrored (seen.observe call) repository.findingsOf rows :=
  { mirrored with
    ids := fun row member => List.mem_append_right _ (mirrored.ids row member) }

theorem findingRows_inOrder :
    (findingRows findings).Pairwise fun first second => first.position < second.position := by
  have positions : (findings.zipIdx.map Prod.snd).Pairwise (· < ·) := by
    rw [List.zipIdx_map_snd]
    exact List.pairwise_lt_range'
  exact List.pairwise_map.mpr (List.pairwise_map.mp positions)

/-- A row of a list of findings is the row of one of them. -/
theorem exists_of_mem_findingRows {row : FindingRow} (member : row ∈ findingRows findings) :
    ∃ finding ∈ findings, ∃ position, findingParameters finding position = row := by
  obtain ⟨⟨finding, position⟩, indexed, rfl⟩ := List.mem_map.mp member
  exact ⟨finding, List.fst_mem_of_mem_zipIdx indexed, position, rfl⟩

/-- Each finding has its row. -/
theorem exists_mem_findingRows {finding : FindingRecord} (member : finding ∈ findings) :
    ∃ position, findingParameters finding position ∈ findingRows findings := by
  rw [← List.zipIdx_map_fst 0 findings] at member
  obtain ⟨⟨_, position⟩, indexed, rfl⟩ := List.mem_map.mp member
  exact ⟨position, List.mem_map.mpr ⟨_, indexed, rfl⟩⟩

/-- Findings whose tenant can be checked are read back from their rows. -/
theorem mapM_findingRows
    (checked : ∀ finding ∈ findings, checkTenant finding.tenantId = .ok ()) :
    (findingRows findings).mapM FindingRecord.ofRow = .ok findings := by
  have readable : ∀ indexed ∈ findings.zipIdx,
      FindingRecord.ofRow (findingParameters indexed.1 indexed.2) = .ok indexed.1 := by
    intro indexed member
    rw [FindingRecord.ofRow_findingParameters]
    exact FindingRecord.validate_eq_ok_iff.mpr
      ⟨checked _ (List.fst_mem_of_mem_zipIdx member), rfl⟩
  have all : (findingRows findings).mapM FindingRecord.ofRow =
      .ok (findings.zipIdx.map Prod.fst) := by
    apply mapM_eq_ok_iff.mpr
    rw [findingRows, List.forall₂_map_left_iff, List.forall₂_map_right_iff]
    exact List.forall₂_same.mpr readable
  rwa [List.zipIdx_map_fst] at all

theorem list (jobs : JobsMirrored seen repository.jobs database.researchJobs.rows)
    (mirrored : FindingsMirrored seen repository.findingsOf database.findings.rows) :
    JobRepository.inMemory.listFindings repository tenantId jobId =
      (JobRepository.postgres order).listFindings database tenantId jobId := by
  apply asking_first jobs
  intro job found
  have stored := mirrored.rows_eq (tenantId, jobId)
  have tenants : ∀ finding ∈ repository.findingsOf (tenantId, jobId),
      checkTenant finding.tenantId = .ok () := by
    intro finding member
    obtain ⟨position, inRows⟩ := exists_mem_findingRows member
    rw [← stored] at inRows
    have sameTenant : finding.tenantId = tenantId :=
      congrArg Prod.fst (of_decide_eq_true (List.mem_filter.mp inRows).2)
    rw [sameTenant]
    exact checkTenant_of_get jobs found
  unfold findingRows at stored
  rw [Table.selectBy_eq_of_ordered order stored findingRows_inOrder]
  exact mapM_findingRows tenants

/-- A job's findings are replaced in both. -/
theorem replace (mirrored : FindingsMirrored seen repository.findingsOf database.findings.rows)
    (fresh : seen.Fresh call) (areNew : findings.map (·.id) = newIds call.1 call.2)
    (owned : ∀ finding ∈ findings, (finding.tenantId, finding.jobId) = (tenantId, jobId))
    (updated : InMemoryJobRepository)
    (replaced : updated.findings =
      repository.findings.set (tenantId, jobId) findings) :
    ∃ inserted : Table FindingRow JobKey FindingRow.key,
      (database.findings.delete (·.jobKey = (tenantId, jobId))).insertAll
          (findingRows findings) = some inserted ∧
        FindingsMirrored (seen.observe call) updated.findingsOf inserted.rows := by
  have ids : (findingRows findings).map (·.id) = newIds call.1 call.2 := by
    rw [← areNew, findingRows, List.map_map]
    calc
      findings.zipIdx.map (fun indexed => indexed.1.id) =
          (findings.zipIdx.map Prod.fst).map (·.id) := by rw [List.map_map]; rfl
      _ = findings.map (·.id) := by rw [List.zipIdx_map_fst]
  have distinct : ((findingRows findings).map FindingRow.key).Nodup := by
    have idsDistinct := fresh.idsDistinct
    rw [← ids] at idsDistinct
    have keyIds : ((findingRows findings).map FindingRow.key).map Prod.snd =
        (findingRows findings).map (·.id) := by rw [List.map_map]; rfl
    rw [← keyIds] at idsDistinct
    exact idsDistinct.of_map
  have isNew : ∀ row ∈ findingRows findings, row.id ∉ seen.ids := by
    intro row member
    apply fresh.idsFresh
    rw [← ids]
    exact List.mem_map_of_mem member
  have absent : ∀ row ∈ findingRows findings, row.key ∉
      (database.findings.delete (·.jobKey = (tenantId, jobId))).rows.map FindingRow.key := by
    intro row member present
    obtain ⟨other, otherMember, same⟩ := List.mem_map.mp present
    have known := mirrored.ids other (List.mem_of_mem_filter otherMember)
    rw [show other.id = row.id from congrArg Prod.snd same] at known
    exact isNew row member known
  have rowKeys : ∀ row ∈ findingRows findings, row.jobKey = (tenantId, jobId) := by
    intro row member
    obtain ⟨finding, isIts, position, rfl⟩ := exists_of_mem_findingRows member
    exact owned finding isIts
  obtain ⟨inserted, inserts, rows⟩ := Table.exists_insertAll distinct absent
  refine ⟨inserted, inserts, ?_⟩
  rw [rows]
  constructor
  · intro key
    have kept : updated.findingsOf key =
        if key = (tenantId, jobId) then findings else repository.findingsOf key := by
      unfold InMemoryJobRepository.findingsOf
      rw [replaced, Dict.get?_set]
      split <;> rfl
    rw [List.filter_append, kept]
    change (database.findings.rows.filter _).filter _ ++ _ = _
    rw [List.filter_filter]
    by_cases isIts : key = (tenantId, jobId)
    · subst isIts
      rw [if_pos rfl, List.filter_eq_self.mpr
        fun row member => decide_eq_true (rowKeys row member)]
      have none : database.findings.rows.filter (fun row =>
          decide (row.jobKey = (tenantId, jobId)) &&
            !decide (row.jobKey = (tenantId, jobId))) = [] :=
        List.filter_eq_nil_iff.mpr fun row _ => by simp
      rw [none, List.nil_append]
    · have others : (findingRows findings).filter (fun row => decide (row.jobKey = key)) =
          [] := by
        apply List.filter_eq_nil_iff.mpr
        intro row member
        rw [rowKeys row member, decide_eq_true_iff]
        exact Ne.symm isIts
      rw [if_neg isIts, others, List.append_nil, ← mirrored.rows_eq]
      apply List.filter_congr
      intro row _
      by_cases same : row.jobKey = key <;> simp [same, isIts]
  · intro row member
    rcases List.mem_append.mp member with earlier | added
    · exact List.mem_append_right _ (mirrored.ids row (List.mem_of_mem_filter earlier))
    · apply List.mem_append_left
      rw [← ids]
      exact List.mem_map_of_mem added

end FindingsMirrored

/-! ## Publications -/

/-- The table of publications holds each job's publication. -/
def PublicationsMirrored (stored : Dict JobKey ReportPublication)
    (rows : List PublicationRow) : Prop :=
  ∀ key, rows.filter (·.key = key) =
    (stored.get? key).toList.map publicationParameters

namespace PublicationsMirrored

variable {seen : JobHistory} {call : RepositoryCall × Stamps} {order : ScanOrder}
  {repository : InMemoryJobRepository} {database : JobDatabase} {tenantId : String}
  {jobId : UUID}

theorem key_of_published {rows : List PublicationRow} {key : JobKey}
    {publication : ReportPublication} (mirrored : PublicationsMirrored repository.publications rows)
    (published : repository.publications.get? key = some publication) :
    publicationParameters publication ∈ rows ∧
      (publicationParameters publication).key = key := by
  have inFilter : publicationParameters publication ∈ rows.filter (·.key = key) := by
    rw [mirrored key, published]
    exact List.mem_singleton_self _
  obtain ⟨inRows, isIts⟩ := List.mem_filter.mp inFilter
  exact ⟨inRows, of_decide_eq_true isIts⟩

/-- A key is taken exactly when its job is published. -/
theorem taken_iff {rows : List PublicationRow} {key : JobKey}
    (mirrored : PublicationsMirrored repository.publications rows) :
    key ∈ rows.map PublicationRow.key ↔
      ∃ publication, repository.publications.get? key = some publication := by
  constructor
  · intro taken
    obtain ⟨row, member, same⟩ := List.mem_map.mp taken
    have inFilter : row ∈ rows.filter (·.key = key) :=
      List.mem_filter.mpr ⟨member, decide_eq_true same⟩
    rw [mirrored key] at inFilter
    obtain ⟨publication, isIts, -⟩ := List.mem_map.mp inFilter
    exact ⟨publication, Option.mem_toList.mp isIts⟩
  · rintro ⟨publication, published⟩
    obtain ⟨inRows, sameKey⟩ := mirrored.key_of_published published
    exact List.mem_map.mpr ⟨_, inRows, sameKey⟩

theorem get (jobs : JobsMirrored seen repository.jobs database.researchJobs.rows)
    (mirrored : PublicationsMirrored repository.publications database.reportPublications.rows) :
    JobRepository.inMemory.getPublication repository tenantId jobId =
      (JobRepository.postgres order).getPublication database tenantId jobId := by
  apply asking_first jobs
  intro job found
  have stored := mirrored (tenantId, jobId)
  cases published : repository.publications.get? (tenantId, jobId) with
  | none =>
      rw [published] at stored
      rw [Table.select_eq_nil stored]
      rfl
  | some publication =>
      rw [published] at stored
      have sameTenant : publication.tenantId = tenantId :=
        congrArg Prod.fst (mirrored.key_of_published published).2
      have checked : checkTenant publication.tenantId = .ok () :=
        sameTenant ▸ checkTenant_of_get jobs found
      rw [Table.select_eq_singleton stored]
      change (ReportPublication.ofRow (publicationParameters publication)).map some = _
      rw [ReportPublication.ofRow_publicationParameters checked]
      rfl

/-- The latest publication of a job is the one that both keep. -/
theorem record (mirrored : PublicationsMirrored repository.publications database.reportPublications.rows)
    (publication : ReportPublication) (updated : InMemoryJobRepository)
    (recorded : updated.publications =
      repository.publications.set (publication.tenantId, publication.jobId) publication) :
    PublicationsMirrored updated.publications
      (database.reportPublications.upsert (publicationParameters publication)).rows := by
  let written := publicationParameters publication
  intro key
  rw [recorded, Dict.get?_set]
  change _ = (if key = written.key then some publication else
    repository.publications.get? key).toList.map publicationParameters
  by_cases taken : written.key ∈ database.reportPublications.rows.map PublicationRow.key
  · obtain ⟨earlier, published⟩ := mirrored.taken_iff.mp taken
    have sameTest : database.reportPublications.rows.filter
        ((fun row : PublicationRow => decide (row.key = key)) ∘
          fun present => if present.key = written.key then written else present) =
        database.reportPublications.rows.filter (·.key = key) := by
      apply List.filter_congr
      intro row _
      by_cases isIts : row.key = written.key <;> simp [isIts]
    rw [Table.rows_upsert_of_taken taken, List.filter_map, sameTest, mirrored]
    by_cases isIts : key = written.key
    · rw [if_pos isIts, isIts, published]
      change [if (publicationParameters earlier).key = written.key then written
        else publicationParameters earlier] = [written]
      rw [if_pos (mirrored.key_of_published published).2]
    · rw [if_neg isIts, ← mirrored]
      have others : ∀ row ∈ database.reportPublications.rows.filter (·.key = key),
          (if row.key = written.key then written else row) = row := by
        intro row member
        have rowKey : row.key = key := of_decide_eq_true (List.mem_filter.mp member).2
        exact if_neg (rowKey ▸ isIts)
      exact (List.map_congr_left others).trans (List.map_id _)
  · rw [Table.rows_upsert_of_fresh taken, filter_append_singleton, mirrored]
    by_cases isIts : key = written.key
    · have unpublished : repository.publications.get? key = none := by
        apply Option.eq_none_iff_forall_ne_some.mpr
        intro earlier published
        exact taken (isIts ▸ mirrored.taken_iff.mpr ⟨earlier, published⟩)
      rw [unpublished, if_pos isIts, if_pos isIts.symm]
      rfl
    · rw [if_neg isIts, if_neg (Ne.symm isIts), List.append_nil]

end PublicationsMirrored

/-! ## Both repositories -/

/-- The database mirrors the repository. -/
structure Mirrored (seen : JobHistory) (repository : InMemoryJobRepository)
    (database : JobDatabase) : Prop where
  jobs : JobsMirrored seen repository.jobs database.researchJobs.rows
  evidence : EvidenceMirrored seen repository.evidenceOf database.evidenceRecords.rows
  invocations : InvocationsMirrored seen repository.invocationsOf database.toolInvocations.rows
  findings : FindingsMirrored seen repository.findingsOf database.findings.rows
  publications : PublicationsMirrored repository.publications database.reportPublications.rows

namespace Mirrored

variable {seen : JobHistory} {call : RepositoryCall × Stamps} {order : ScanOrder}
  {repository : InMemoryJobRepository} {database : JobDatabase} {tenantId : String}
  {jobId : UUID}

theorem observe (mirrored : Mirrored seen repository database)
    (fresh : seen.Fresh call) : Mirrored (seen.observe call) repository database where
  jobs := mirrored.jobs.observe fresh
  evidence := mirrored.evidence.observe fresh
  invocations := mirrored.invocations.observe
  findings := mirrored.findings.observe
  publications := mirrored.publications

theorem empty : Mirrored {} {} {} where
  jobs := ⟨rfl, by simp, by simp, by simp, List.Pairwise.nil, by simp⟩
  evidence := ⟨fun _ => rfl, by simp, List.Pairwise.nil, by simp, by simp⟩
  invocations := ⟨fun _ => rfl, by simp, List.Pairwise.nil⟩
  findings := ⟨fun _ => rfl, by simp⟩
  publications := fun _ => rfl

/-- The job that is found is referenced. -/
theorem references (mirrored : Mirrored seen repository database) {job : ResearchJob}
    (found : repository.get tenantId jobId = .ok job) :
    database.References (tenantId, jobId) := by
  have member := Dict.mem_entries_of_get? (JobTable.get_eq_ok_iff.mp found)
  unfold JobDatabase.References
  rw [mirrored.jobs.rows_eq, List.map_map]
  exact List.mem_map.mpr ⟨_, member, mirrored.jobs.key_eq member⟩

theorem create (mirrored : Mirrored seen repository database) (fresh : seen.Fresh call)
    {job : ResearchJob} (valid : job.FieldsValid)
    (isCreated : job.key ∈ createdBy call.1 call.2) (isNew : job.id ∈ newIds call.1 call.2)
    (isNow : job.createdAt = call.2.now) :
    Alike (Mirrored (seen.observe call)) (JobRepository.inMemory.add repository job)
      ((JobRepository.postgres order).add database job) := by
  obtain ⟨inserted, inserts, still⟩ := mirrored.jobs.add fresh valid isCreated isNew isNow
  have added : (JobRepository.postgres order).add database job =
      .ok { database with researchJobs := inserted } := by
    change PostgresJobRepository.add database job = _
    unfold PostgresJobRepository.add
    rw [inserts]
  rw [added]
  exact Alike.ok { mirrored.observe fresh with jobs := still }

theorem update (mirrored : Mirrored seen repository database) (fresh : seen.Fresh call)
    {job moved : ResearchJob}
    (found : JobRepository.inMemory.get repository tenantId jobId = .ok job)
    (same : SameAssignment job moved) (valid : moved.FieldsValid) :
    Alike (Mirrored (seen.observe call)) (JobRepository.inMemory.update repository moved)
      ((JobRepository.postgres order).update database moved) := by
  have stored : repository.jobs.get tenantId jobId = .ok job := mapError_eq_ok.mp found
  have movedKey : moved.key = (tenantId, jobId) :=
    same.key_eq.trans (JobTable.key_of_get stored)
  obtain ⟨someRow, still⟩ := mirrored.jobs.update stored same valid
  have inMemory : JobRepository.inMemory.update repository moved =
      .ok (repository.add moved) := by
    change ((repository.jobs.update moved).map _).mapError _ = _
    rw [JobTable.update_eq_ok stored movedKey]
    rfl
  rw [inMemory]
  change Alike _ _ (PostgresJobRepository.update database moved)
  unfold PostgresJobRepository.update
  simp only [someRow, if_false]
  exact Alike.ok { mirrored.observe fresh with jobs := still.observe fresh }

/-- The job that one repository finds is found by the other. -/
theorem get (mirrored : Mirrored seen repository database) {job : ResearchJob}
    (found : JobRepository.inMemory.get repository tenantId jobId = .ok job) :
    PostgresJobRepository.get order database tenantId jobId = .ok job :=
  mirrored.jobs.get.symm.trans found

theorem addEvidence (mirrored : Mirrored seen repository database)
    (fresh : seen.Fresh call) {record : EvidenceRecord} {job : ResearchJob}
    (found : JobRepository.inMemory.get repository record.tenantId record.jobId = .ok job)
    (isNew : record.id ∈ newIds call.1 call.2) (isNow : record.retrievedAt = call.2.now)
    (published : record.Published record.retrievedAt) :
    Alike (Mirrored (seen.observe call))
      (JobRepository.inMemory.addEvidence repository record)
      ((JobRepository.postgres order).addEvidence database record) := by
  have stored : repository.get record.tenantId record.jobId = .ok job :=
    mapError_eq_ok.mp found
  obtain ⟨inserted, inserts, still⟩ := mirrored.evidence.add fresh isNew isNow published
  have inMemory : JobRepository.inMemory.addEvidence repository record =
      .ok (repository.appendEvidence record) := by
    change ((repository.get _ _).map _).mapError _ = _
    rw [stored]
    rfl
  have added : (JobRepository.postgres order).addEvidence database record =
      .ok { database with evidenceRecords := inserted } := by
    change PostgresJobRepository.addEvidence order database record = _
    unfold PostgresJobRepository.addEvidence
    rw [mirrored.get found]
    have referenced : database.References record.key := mirrored.references stored
    change (if database.References record.key then _ else _) = _
    rw [if_pos referenced, inserts]
  rw [inMemory, added]
  exact Alike.ok { mirrored.observe fresh with evidence := still }

theorem recordInvocation (mirrored : Mirrored seen repository database)
    (fresh : seen.Fresh call) {invocation : ToolInvocation}
    (isRecorded : invocation ∈ newInvocations call.1) :
    Alike (Mirrored (seen.observe call))
      (JobRepository.inMemory.recordInvocation repository invocation)
      ((JobRepository.postgres order).recordInvocation database invocation) := by
  have still := mirrored.observe fresh
  apply Alike.ok
  constructor
  · rw [InMemoryJobRepository.jobs_recordInvocation]
    exact still.jobs
  · have sameEvidence : (repository.recordInvocation invocation).evidenceOf =
        repository.evidenceOf := by
      funext key
      simp [InMemoryJobRepository.evidenceOf]
    rw [sameEvidence]
    exact still.evidence
  · exact mirrored.invocations.record fresh isRecorded
  · have sameFindings : (repository.recordInvocation invocation).findingsOf =
        repository.findingsOf := by
      funext key
      simp [InMemoryJobRepository.findingsOf]
    rw [sameFindings]
    exact still.findings
  · rw [InMemoryJobRepository.publications_recordInvocation]
    exact still.publications

theorem replaceFindings (mirrored : Mirrored seen repository database)
    (fresh : seen.Fresh call) {findings : List FindingRecord} {job : ResearchJob}
    (found : JobRepository.inMemory.get repository tenantId jobId = .ok job)
    (areNew : findings.map (·.id) = newIds call.1 call.2)
    (owned : ∀ finding ∈ findings, (finding.tenantId, finding.jobId) = (tenantId, jobId)) :
    Alike (Mirrored (seen.observe call))
      (JobRepository.inMemory.replaceFindings repository tenantId jobId findings)
      ((JobRepository.postgres order).replaceFindings database tenantId jobId findings) := by
  have stored : repository.get tenantId jobId = .ok job := mapError_eq_ok.mp found
  have referenced : ∀ row ∈ PostgresJobRepository.findingRows findings,
      database.References row.jobKey := by
    intro row member
    obtain ⟨finding, isIts, _, rfl⟩ := FindingsMirrored.exists_of_mem_findingRows member
    change database.References (finding.tenantId, finding.jobId)
    rw [owned finding isIts]
    exact mirrored.references stored
  let updated : InMemoryJobRepository :=
    { repository with findings := repository.findings.set (tenantId, jobId) findings }
  obtain ⟨inserted, inserts, still⟩ :=
    mirrored.findings.replace fresh areNew owned updated rfl
  have inMemory : JobRepository.inMemory.replaceFindings repository tenantId jobId findings =
      .ok updated := by
    change ((repository.get _ _).map _).mapError _ = _
    rw [stored]
    rfl
  have replaced : (JobRepository.postgres order).replaceFindings database tenantId jobId
      findings = .ok { database with findings := inserted } := by
    change PostgresJobRepository.replaceFindings order database tenantId jobId findings = _
    unfold PostgresJobRepository.replaceFindings
    rw [mirrored.get found]
    change (if ∀ row ∈ PostgresJobRepository.findingRows findings,
      database.References row.jobKey then _ else _) = _
    rw [if_pos referenced, inserts]
  rw [inMemory, replaced]
  exact Alike.ok { mirrored.observe fresh with findings := still }

theorem recordPublication (mirrored : Mirrored seen repository database)
    (fresh : seen.Fresh call) (publication : ReportPublication) :
    Alike (Mirrored (seen.observe call))
      (JobRepository.inMemory.recordPublication repository publication)
      ((JobRepository.postgres order).recordPublication database publication) := by
  have gets : JobRepository.inMemory.get repository publication.tenantId
      publication.jobId = PostgresJobRepository.get order database publication.tenantId
        publication.jobId := mirrored.jobs.get
  change Alike _ (((repository.get _ _).map _).mapError _)
    (PostgresJobRepository.get order database _ _ >>= _)
  rw [← gets]
  cases stored : repository.get publication.tenantId publication.jobId with
  | error error =>
      change Alike _ _ ((repository.get _ _).mapError _ >>= _)
      rw [stored]
      exact Alike.error _
  | ok job =>
      change Alike _ _ ((repository.get _ _).mapError _ >>= _)
      rw [stored]
      change Alike _ (Except.ok _)
        (if database.References (publication.tenantId, publication.jobId) then _ else _)
      rw [if_pos (mirrored.references stored)]
      exact Alike.ok { mirrored.observe fresh with
        publications := mirrored.publications.record publication _ rfl }

end Mirrored

/-! ## The service -/

/-- A status detail is kept within its limit. -/
theorem length_le_of_keptDetail {detail : Option String} {kept : String}
    (isKept : keptDetail detail = some kept) : kept.length ≤ statusDetailLimit := by
  cases detail with
  | none => cases isKept
  | some text =>
      change (if text = "" then none else
        some (String.ofList (text.toList.take statusDetailLimit))) = some kept at isKept
      by_cases empty : text = ""
      · rw [if_pos empty] at isKept
        cases isKept
      · rw [if_neg empty] at isKept
        rw [← Option.some.inj isKept, String.length_ofList]
        exact List.length_take_le _ _

theorem fieldsValid_of_transitionTo {job moved : ResearchJob} {target : JobStatus}
    {detail : Option String} {usage : Option JobUsage} {now : Timestamp}
    (valid : job.FieldsValid)
    (moves : job.transitionTo target detail usage now = .ok moved) : moved.FieldsValid := by
  obtain ⟨-, rfl⟩ := ResearchJob.transitionTo_eq_ok_iff.mp moves
  obtain ⟨tenant, requester, -, workflow, run⟩ := valid
  exact ⟨tenant, requester, fun _ isKept => length_le_of_keptDetail isKept, workflow, run⟩

theorem fieldsValid_of_withCheckpoint {job : ResearchJob}
    {workflowId workflowRunId : String} {now : Timestamp} (valid : job.FieldsValid)
    (fits : workflowId.length ≤ 255 ∧ workflowRunId.length ≤ 255) :
    (job.withCheckpoint workflowId workflowRunId now).FieldsValid := by
  obtain ⟨tenant, requester, detail, -, -⟩ := valid
  refine ⟨tenant, requester, detail, ?_, ?_⟩
  · rintro _ ⟨⟩
    exact fits.1
  · rintro _ ⟨⟩
    exact fits.2

section Service

variable {seen : JobHistory} {call : RepositoryCall} {stamps : Stamps} {order : ScanOrder}
  {repository : InMemoryJobRepository} {database : JobDatabase} {tenantId : String}
  {jobId : UUID}

/-- The entry of a job that was found. -/
theorem Mirrored.entry_of_get (mirrored : Mirrored seen repository database)
    {job : ResearchJob}
    (found : JobRepository.inMemory.get repository tenantId jobId = .ok job) :
    job.FieldsValid ∧ (tenantId, jobId) ∈ seen.created := by
  have stored : repository.jobs.get tenantId jobId = .ok job := mapError_eq_ok.mp found
  have member := Dict.mem_entries_of_get? (JobTable.get_eq_ok_iff.mp stored)
  exact ⟨mirrored.jobs.valid _ member, mirrored.jobs.created _ member⟩

/-- One call is answered alike, and leaves the database a mirror. -/
theorem Mirrored.serve (mirrored : Mirrored seen repository database)
    (fresh : seen.Fresh (call, stamps)) (fits : seen.CheckpointFits call) :
    (JobRepository.inMemory.serve repository (call, stamps)).1 =
        ((JobRepository.postgres order).serve database (call, stamps)).1 ∧
      Mirrored (seen.observe (call, stamps))
        (JobRepository.inMemory.serve repository (call, stamps)).2
        ((JobRepository.postgres order).serve database (call, stamps)).2 := by
  have later := mirrored.observe fresh
  cases call with
  | create tenantId requesterId command clearance =>
      apply writing_alike later
      apply create_alike
      intro valid
      have isCreated : (tenantId, stamps.id) ∈
          createdBy (.create tenantId requesterId command clearance) stamps := by
        change _ ∈ if (newJob tenantId requesterId command clearance stamps).FieldsValid
          then [(tenantId, stamps.id)] else []
        rw [if_pos valid]
        exact List.mem_singleton_self _
      exact mirrored.create fresh valid isCreated (List.mem_singleton_self _) rfl
  | get tenantId jobId => exact reading_alike later mirrored.jobs.get
  | list tenantId => exact reading_alike later mirrored.jobs.list
  | transition tenantId jobId target detail usage =>
      apply writing_alike later
      apply transition_alike mirrored.jobs.get
      intro job moved found moves
      have valid := (mirrored.entry_of_get found).1
      exact mirrored.update fresh found (ResearchJob.sameAssignment_transitionTo moves)
        (fieldsValid_of_transitionTo valid moves)
  | recordCheckpoint tenantId jobId workflowId workflowRunId =>
      apply writing_alike later
      apply recordCheckpoint_alike mirrored.jobs.get
      intro job found
      obtain ⟨valid, isCreated⟩ := mirrored.entry_of_get found
      exact mirrored.update fresh found
        (job.sameAssignment_withCheckpoint workflowId workflowRunId stamps.now)
        (fieldsValid_of_withCheckpoint valid (fits isCreated))
  | addEvidence tenantId jobId command =>
      apply writing_alike later
      apply addEvidence_alike mirrored.jobs.get
      intro job found published
      exact mirrored.addEvidence fresh found (List.mem_singleton_self _) rfl published
  | listEvidence tenantId jobId =>
      exact reading_alike later (mirrored.evidence.list mirrored.jobs fresh)
  | recordInvocation invocation =>
      apply writing_alike later
      apply recordInvocation_alike
      exact mirrored.recordInvocation fresh (List.mem_singleton_self _)
  | listInvocations tenantId jobId =>
      apply reading_alike later
      exact listInvocations_same mirrored.jobs.get mirrored.invocations.list
  | recordFindings tenantId jobId findings =>
      apply writing_alike later
      apply recordFindings_alike mirrored.jobs.get
      intro job found
      apply mirrored.replaceFindings fresh found rfl
      intro finding member
      obtain ⟨_, _, rfl⟩ := List.mem_map.mp member
      rfl
  | listFindings tenantId jobId =>
      exact reading_alike later (mirrored.findings.list mirrored.jobs)
  | recordPublication publication =>
      apply writing_alike later
      apply recordPublication_alike
      exact mirrored.recordPublication fresh publication
  | getPublication tenantId jobId =>
      exact reading_alike later (mirrored.publications.get mirrored.jobs)

end Service

/-- The two repositories answer alike, whatever the calls, where each checkpoint of a
stored job fits. -/
theorem repositories_answer_alike (order : ScanOrder)
    (calls : List (RepositoryCall × Stamps)) (admitted : fittingCalls.Admits {} calls) :
    JobRepository.inMemory.serve.answers {} calls =
      (JobRepository.postgres order).serve.answers {} calls := by
  have kept : ∀ seen repository database (call : RepositoryCall × Stamps),
      Mirrored seen repository database → fittingCalls.admits seen call →
        (JobRepository.inMemory.serve repository call).1 =
            ((JobRepository.postgres order).serve database call).1 ∧
          Mirrored (fittingCalls.observe seen call)
            (JobRepository.inMemory.serve.next repository call)
            ((JobRepository.postgres order).serve.next database call) := by
    rintro seen repository database ⟨call, stamps⟩ mirrored ⟨fresh, fits⟩
    exact mirrored.serve fresh fits
  have alike := Service.forall₂_answers kept Mirrored.empty admitted
  exact List.forall₂_eq_eq_eq ▸ alike

/-- A job is created, checkpointed and read, at three successive times. -/
def checkpointedJob (workflowId : String) : List (RepositoryCall × Stamps) :=
  let stamps (now : Timestamp) : Stamps := ⟨1, now, fun _ => (1, now)⟩
  let command : ResearchJobCreate := { question := ⟨"why", by decide⟩ }
  [(.create "acme" "ada" command .internal, stamps 0),
    (.recordCheckpoint "acme" 1 workflowId "run-1", stamps 1),
    (.get "acme" 1, stamps 2)]

theorem fresh_checkpointedJob (workflowId : String) :
    freshCalls.Admits {} (checkpointedJob workflowId) := by
  refine ⟨⟨?_, ?_, ?_, ?_⟩, ⟨?_, ?_, ?_, ?_⟩, ⟨?_, ?_, ?_, ?_⟩, trivial⟩ <;>
    simp [freshCalls, newIds, newInvocations, JobHistory.observe]

theorem repositories_answer_alike_at_checkpointedJob :
    JobRepository.inMemory.serve.answers {} (checkpointedJob "research-1") =
      (JobRepository.postgres .inserted).serve.answers {} (checkpointedJob "research-1") := by
  apply repositories_answer_alike
  obtain ⟨first, second, third, -⟩ := fresh_checkpointedJob "research-1"
  exact ⟨⟨first, trivial⟩, ⟨second, fun _ => by decide⟩, ⟨third, trivial⟩, trivial⟩

/-- A workflow identifier one character longer than the field allows. -/
def overlongWorkflowId : String := String.ofList (List.replicate 256 'w')

theorem overlongCheckpoint_diverges :
    freshCalls.Admits {} (checkpointedJob overlongWorkflowId) ∧
      JobRepository.inMemory.serve.answers {} (checkpointedJob overlongWorkflowId) ≠
        (JobRepository.postgres .inserted).serve.answers {}
          (checkpointedJob overlongWorkflowId) := by
  refine ⟨fresh_checkpointedJob overlongWorkflowId, ?_⟩
  intro same
  have lastAnswers := congrArg (fun answers => answers.map Except.isOk) same
  revert lastAnswers
  decide +kernel

end ResearchPlatform
