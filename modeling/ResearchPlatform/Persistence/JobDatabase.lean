import ResearchPlatform.Foundation.Sql
import ResearchPlatform.Persistence.Columns

/-!
# The Postgres repository

`PostgresJobRepository`, statement by statement, over the tables of the schema.
The policies of the tables repeat the tenant predicates of the statements.
-/

namespace ResearchPlatform

open Foundation

/-- The tables of `SCHEMA_STATEMENTS`. -/
structure JobDatabase where
  researchJobs : Table JobRow JobKey JobRow.key := {}
  evidenceRecords : Table EvidenceRow JobKey EvidenceRow.key := {}
  toolInvocations : Table InvocationRow JobKey InvocationRow.key := {}
  findings : Table FindingRow JobKey FindingRow.key := {}
  reportPublications : Table PublicationRow JobKey PublicationRow.key := {}

/-- `FOREIGN KEY (tenant_id, job_id) REFERENCES research_jobs (tenant_id, id)`. -/
def JobDatabase.References (database : JobDatabase) (key : JobKey) : Prop :=
  key ∈ database.researchJobs.rows.map JobRow.key

instance (database : JobDatabase) (key : JobKey) : Decidable (database.References key) :=
  inferInstanceAs (Decidable (_ ∈ _))

/-- The columns that `update` sets. -/
def JobRow.setProgress (parameters row : JobRow) : JobRow :=
  { row with
    status := parameters.status
    statusDetail := parameters.statusDetail
    usage := parameters.usage
    workflowId := parameters.workflowId
    workflowRunId := parameters.workflowRunId
    updatedAt := parameters.updatedAt }

namespace PostgresJobRepository

variable (order : ScanOrder) (database : JobDatabase)

def add (job : ResearchJob) : Except JobError JobDatabase :=
  match database.researchJobs.insert (jobParameters job) with
  | some inserted => .ok { database with researchJobs := inserted }
  | none => .error (.integrity "research_jobs_pkey")

def get (tenantId : String) (jobId : UUID) : Except JobError ResearchJob :=
  match (database.researchJobs.select order (·.key = (tenantId, jobId))).head? with
  | some row => ResearchJob.ofRow row
  | none => .error (.service (.jobNotFound jobId))

/-- `list`: `ORDER BY created_at DESC`. -/
def list (tenantId : String) : Except JobError (List ResearchJob) :=
  (database.researchJobs.selectBy order (·.tenantId = tenantId)
    fun first second => second.createdAt ≤ first.createdAt).mapM ResearchJob.ofRow

def update (job : ResearchJob) : Except JobError JobDatabase :=
  let parameters := jobParameters job
  let (rowcount, updated) :=
    database.researchJobs.update job.key (parameters.setProgress ·) fun _ => rfl
  if rowcount = 0 then
    .error (.service (.jobNotFound job.id))
  else
    .ok { database with researchJobs := updated }

def addEvidence (evidence : EvidenceRecord) : Except JobError JobDatabase := do
  let _ ← get order database evidence.tenantId evidence.jobId
  if database.References evidence.key then
    match database.evidenceRecords.insert (evidenceParameters evidence) with
    | some inserted => .ok { database with evidenceRecords := inserted }
    | none => .error (.integrity "evidence_records_pkey")
  else
    .error (.integrity "evidence_records_tenant_id_job_id_fkey")

/-- `list_evidence`: `ORDER BY retrieved_at`. -/
def listEvidence (tenantId : String) (jobId : UUID) (now : Timestamp) :
    Except JobError (List EvidenceRecord) := do
  let _ ← get order database tenantId jobId
  (database.evidenceRecords.selectBy order (·.jobKey = (tenantId, jobId))
    fun first second => first.retrievedAt ≤ second.retrievedAt).mapM
      (EvidenceRecord.ofRow now)

/-- `record_invocation`: `ON CONFLICT (tenant_id, id) DO NOTHING`, without a
reference to the job. -/
def recordInvocation (invocation : ToolInvocation) : Except JobError JobDatabase :=
  .ok { database with
    toolInvocations :=
      database.toolInvocations.insertIfAbsent (invocationParameters invocation) }

/-- `list_invocations`: `ORDER BY started_at`. -/
def listInvocations (tenantId : String) (jobId : UUID) :
    Except JobError (List ToolInvocation) :=
  (database.toolInvocations.selectBy order (·.jobKey = (tenantId, jobId))
    fun first second => first.startedAt ≤ second.startedAt).mapM ToolInvocation.ofRow

/-- The rows of a job's findings, each with its position. -/
def findingRows (findings : List FindingRecord) : List FindingRow :=
  findings.zipIdx.map fun (finding, position) => findingParameters finding position

/-- `replace_findings`: delete and insert in one transaction. -/
def replaceFindings (tenantId : String) (jobId : UUID) (findings : List FindingRecord) :
    Except JobError JobDatabase := do
  let _ ← get order database tenantId jobId
  let emptied := database.findings.delete (·.jobKey = (tenantId, jobId))
  if ∀ row ∈ findingRows findings, database.References row.jobKey then
    match emptied.insertAll (findingRows findings) with
    | some inserted => .ok { database with findings := inserted }
    | none => .error (.integrity "findings_pkey")
  else
    .error (.integrity "findings_tenant_id_job_id_fkey")

/-- `list_findings`: `ORDER BY position`. -/
def listFindings (tenantId : String) (jobId : UUID) :
    Except JobError (List FindingRecord) := do
  let _ ← get order database tenantId jobId
  (database.findings.selectBy order (·.jobKey = (tenantId, jobId))
    fun first second => first.position ≤ second.position).mapM FindingRecord.ofRow

/-- `record_publication`: `ON CONFLICT (tenant_id, job_id) DO UPDATE`. -/
def recordPublication (publication : ReportPublication) :
    Except JobError JobDatabase := do
  let _ ← get order database publication.tenantId publication.jobId
  if database.References (publication.tenantId, publication.jobId) then
    .ok { database with
      reportPublications :=
        database.reportPublications.upsert (publicationParameters publication) }
  else
    .error (.integrity "report_publications_tenant_id_job_id_fkey")

def getPublication (tenantId : String) (jobId : UUID) :
    Except JobError (Option ReportPublication) := do
  let _ ← get order database tenantId jobId
  match (database.reportPublications.select order (·.key = (tenantId, jobId))).head? with
  | some row => (ReportPublication.ofRow row).map some
  | none => .ok none

end PostgresJobRepository

/-- `PostgresJobRepository` behind the port. -/
def JobRepository.postgres (order : ScanOrder) : JobRepository JobDatabase where
  add := PostgresJobRepository.add
  get := PostgresJobRepository.get order
  list := PostgresJobRepository.list order
  update := PostgresJobRepository.update
  addEvidence := PostgresJobRepository.addEvidence order
  listEvidence := PostgresJobRepository.listEvidence order
  recordInvocation := PostgresJobRepository.recordInvocation
  listInvocations := PostgresJobRepository.listInvocations order
  replaceFindings := PostgresJobRepository.replaceFindings order
  listFindings := PostgresJobRepository.listFindings order
  recordPublication := PostgresJobRepository.recordPublication order
  getPublication := PostgresJobRepository.getPublication order

end ResearchPlatform
