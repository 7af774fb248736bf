import ResearchPlatform.Application.JobService

/-!
# Rows

What `_job_parameters` and its siblings write into the columns of each table, and
how pydantic reads a row back.  An enumeration is stored as the text of its value
and a list of identifiers as an array of texts; the other columns hold the values
themselves.
-/

namespace ResearchPlatform

open Foundation

/-! ## Columns -/

/-- `trust_level.value`. -/
def TrustLevel.value : TrustLevel → String
  | primary => "primary"
  | secondary => "secondary"
  | unverified => "unverified"

/-- `critic_verdict.value`. -/
def CriticVerdict.value : CriticVerdict → String
  | pending => "pending"
  | supported => "supported"
  | unsupported => "unsupported"
  | contradicted => "contradicted"

/-- `reviewer_status.value`. -/
def ReviewerStatus.value : ReviewerStatus → String
  | notRequired => "not_required"
  | pending => "pending"
  | approved => "approved"
  | rejected => "rejected"

/-- `authorization_decision.value`. -/
def AuthorizationDecision.value : AuthorizationDecision → String
  | allow => "allow"
  | deny => "deny"

/-- `outcome.value`. -/
def InvocationOutcome.value : InvocationOutcome → String
  | pending => "pending"
  | succeeded => "succeeded"
  | failed => "failed"
  | denied => "denied"

/-- `error_class.value`. -/
def ErrorClass.value : ErrorClass → String
  | none => "none"
  | policyDenied => "policy_denied"
  | invalidArguments => "invalid_arguments"
  | upstreamUnavailable => "upstream_unavailable"
  | timeout => "timeout"
  | resultTooLarge => "result_too_large"
  | budgetExhausted => "budget_exhausted"
  | unexpected => "unexpected"

/-- One of the listed values, by the text it is stored as. -/
def readEnum {Value : Type} (values : List Value) (value : Value → String)
    (text : String) : Except JobError Value :=
  match values.find? fun candidate => value candidate = text with
  | some found => .ok found
  | none => .error (.invalidModel ⟨"a column holds no value of its enumeration"⟩)

def readStatus : String → Except JobError JobStatus :=
  readEnum [.created, .planning, .researching, .analyzing, .reviewRequired, .reporting,
    .completed, .failed, .partialResult] JobStatus.value

def readAccessClass : String → Except JobError AccessClass :=
  readEnum [.publicClass, .internal, .restricted] AccessClass.value

def readTrustLevel : String → Except JobError TrustLevel :=
  readEnum [.primary, .secondary, .unverified] TrustLevel.value

def readVerdict : String → Except JobError CriticVerdict :=
  readEnum [.pending, .supported, .unsupported, .contradicted] CriticVerdict.value

def readReviewerStatus : String → Except JobError ReviewerStatus :=
  readEnum [.notRequired, .pending, .approved, .rejected] ReviewerStatus.value

def readDecision : String → Except JobError AuthorizationDecision :=
  readEnum [.allow, .deny] AuthorizationDecision.value

def readOutcome : String → Except JobError InvocationOutcome :=
  readEnum [.pending, .succeeded, .failed, .denied] InvocationOutcome.value

def readErrorClass : String → Except JobError ErrorClass :=
  readEnum [.none, .policyDenied, .invalidArguments, .upstreamUnavailable, .timeout,
    .resultTooLarge, .budgetExhausted, .unexpected] ErrorClass.value

/-- A column of identifiers: `[str(item) for item in identifiers]`. -/
def writeIds (identifiers : List UUID) : List String := identifiers.map UUID.str

def readIds (texts : List String) : Except JobError (List UUID) :=
  texts.mapM fun text =>
    match UUID.parse text with
    | some identifier => .ok identifier
    | none => .error (.invalidModel ⟨"a column holds no identifier"⟩)

@[simp]
theorem readStatus_value (status : JobStatus) : readStatus status.value = .ok status := by
  cases status <;> rfl

@[simp]
theorem readAccessClass_value (accessClass : AccessClass) :
    readAccessClass accessClass.value = .ok accessClass := by
  cases accessClass <;> rfl

@[simp]
theorem readTrustLevel_value (level : TrustLevel) :
    readTrustLevel level.value = .ok level := by
  cases level <;> rfl

@[simp]
theorem readVerdict_value (verdict : CriticVerdict) :
    readVerdict verdict.value = .ok verdict := by
  cases verdict <;> rfl

@[simp]
theorem readReviewerStatus_value (status : ReviewerStatus) :
    readReviewerStatus status.value = .ok status := by
  cases status <;> rfl

@[simp]
theorem readDecision_value (decision : AuthorizationDecision) :
    readDecision decision.value = .ok decision := by
  cases decision <;> rfl

@[simp]
theorem readOutcome_value (outcome : InvocationOutcome) :
    readOutcome outcome.value = .ok outcome := by
  cases outcome <;> rfl

@[simp]
theorem readErrorClass_value (error : ErrorClass) :
    readErrorClass error.value = .ok error := by
  cases error <;> rfl

@[simp]
theorem readIds_writeIds (identifiers : List UUID) :
    readIds (writeIds identifiers) = .ok identifiers := by
  apply mapM_eq_ok_iff.mpr
  rw [writeIds, List.forall₂_map_left_iff]
  apply List.forall₂_same.mpr
  intro identifier _
  rw [UUID.parse_str]

/-! ## Jobs -/

structure JobRow where
  id : UUID
  tenantId : String
  requesterId : String
  question : NonEmptyText
  constraints : List NonEmptyText
  sourceRequirements : List NonEmptyText
  budget : ResearchBudget
  clearance : String
  usage : JobUsage
  status : String
  statusDetail : Option String
  workflowId : Option String
  workflowRunId : Option String
  createdAt : Timestamp
  updatedAt : Timestamp

/-- `PRIMARY KEY (tenant_id, id)`. -/
def JobRow.key (row : JobRow) : JobKey := (row.tenantId, row.id)

/-- `_job_parameters`. -/
def jobParameters (job : ResearchJob) : JobRow where
  id := job.id
  tenantId := job.tenantId
  requesterId := job.requesterId
  question := job.question
  constraints := job.constraints
  sourceRequirements := job.sourceRequirements
  budget := job.budget
  clearance := job.clearance.value
  usage := job.usage
  status := job.status.value
  statusDetail := job.statusDetail
  workflowId := job.workflowId
  workflowRunId := job.workflowRunId
  createdAt := job.createdAt
  updatedAt := job.updatedAt

/-- `ResearchJob.model_validate(row)`. -/
def ResearchJob.ofRow (row : JobRow) : Except JobError ResearchJob := do
  let clearance ← readAccessClass row.clearance
  let status ← readStatus row.status
  ResearchJob.validate
    { id := row.id
      tenantId := row.tenantId
      requesterId := row.requesterId
      question := row.question
      constraints := row.constraints
      sourceRequirements := row.sourceRequirements
      budget := row.budget
      clearance := clearance
      usage := row.usage
      status := status
      statusDetail := row.statusDetail
      workflowId := row.workflowId
      workflowRunId := row.workflowRunId
      createdAt := row.createdAt
      updatedAt := row.updatedAt }

/-- A job within its field limits is read back as it was written. -/
theorem ResearchJob.ofRow_jobParameters (job : ResearchJob) :
    ResearchJob.ofRow (jobParameters job) = job.validate := by
  simp only [ofRow, jobParameters, readAccessClass_value, readStatus_value]
  rfl

/-! ## Evidence -/

structure EvidenceRow where
  id : UUID
  tenantId : String
  jobId : UUID
  excerpt : NonEmptyText
  sourceUri : NonEmptyText
  title : Option (BoundedText 500)
  author : Option (BoundedText 200)
  publishedAt : Option Timestamp
  trustLevel : String
  accessClass : String
  contentHash : DigestText
  producingTaskId : UUID
  toolInvocationId : UUID
  retrievedAt : Timestamp

/-- `PRIMARY KEY (tenant_id, id)`. -/
def EvidenceRow.key (row : EvidenceRow) : JobKey := (row.tenantId, row.id)

/-- The job that a row belongs to. -/
def EvidenceRow.jobKey (row : EvidenceRow) : JobKey := (row.tenantId, row.jobId)

/-- `_evidence_parameters`. -/
def evidenceParameters (evidence : EvidenceRecord) : EvidenceRow where
  id := evidence.id
  tenantId := evidence.tenantId
  jobId := evidence.jobId
  excerpt := evidence.excerpt
  sourceUri := evidence.sourceUri
  title := evidence.title
  author := evidence.author
  publishedAt := evidence.publishedAt
  trustLevel := evidence.trustLevel.value
  accessClass := evidence.accessClass.value
  contentHash := evidence.contentHash
  producingTaskId := evidence.producingTaskId
  toolInvocationId := evidence.toolInvocationId
  retrievedAt := evidence.retrievedAt

/-- `EvidenceRecord.model_validate(row)`, with the clock its validator reads. -/
def EvidenceRecord.ofRow (now : Timestamp) (row : EvidenceRow) :
    Except JobError EvidenceRecord := do
  let trustLevel ← readTrustLevel row.trustLevel
  let accessClass ← readAccessClass row.accessClass
  EvidenceRecord.validate
    { excerpt := row.excerpt
      sourceUri := row.sourceUri
      title := row.title
      author := row.author
      publishedAt := row.publishedAt
      trustLevel := trustLevel
      accessClass := accessClass
      contentHash := row.contentHash
      producingTaskId := row.producingTaskId
      toolInvocationId := row.toolInvocationId
      id := row.id
      jobId := row.jobId
      tenantId := row.tenantId
      retrievedAt := row.retrievedAt } now

theorem EvidenceRecord.ofRow_evidenceParameters (evidence : EvidenceRecord)
    (now : Timestamp) :
    EvidenceRecord.ofRow now (evidenceParameters evidence) = evidence.validate now := by
  simp only [ofRow, evidenceParameters, readTrustLevel_value, readAccessClass_value]
  rfl

/-! ## Audit records -/

structure InvocationRow where
  id : UUID
  tenantId : String
  jobId : UUID
  taskId : UUID
  mcpServer : String
  capability : String
  sanitizedArguments : Arguments
  argumentDigest : DigestText
  policyVersion : String
  authorizationDecision : String
  outcome : String
  errorClass : String
  startedAt : Timestamp
  durationMs : Option Nat

/-- `PRIMARY KEY (tenant_id, id)`. -/
def InvocationRow.key (row : InvocationRow) : JobKey := (row.tenantId, row.id)

def InvocationRow.jobKey (row : InvocationRow) : JobKey := (row.tenantId, row.jobId)

/-- `_invocation_parameters`. -/
def invocationParameters (invocation : ToolInvocation) : InvocationRow where
  id := invocation.id
  tenantId := invocation.tenantId
  jobId := invocation.jobId
  taskId := invocation.taskId
  mcpServer := invocation.mcpServer
  capability := invocation.capability
  sanitizedArguments := invocation.sanitizedArguments
  argumentDigest := invocation.argumentDigest
  policyVersion := invocation.policyVersion
  authorizationDecision := invocation.authorizationDecision.value
  outcome := invocation.outcome.value
  errorClass := invocation.errorClass.value
  startedAt := invocation.startedAt
  durationMs := invocation.durationMs

/-- `ToolInvocation.model_validate(row)`. -/
def ToolInvocation.ofRow (row : InvocationRow) : Except JobError ToolInvocation := do
  let decision ← readDecision row.authorizationDecision
  let outcome ← readOutcome row.outcome
  let errorClass ← readErrorClass row.errorClass
  (ToolInvocation.validate
    { id := row.id
      jobId := row.jobId
      taskId := row.taskId
      tenantId := row.tenantId
      mcpServer := row.mcpServer
      capability := row.capability
      sanitizedArguments := row.sanitizedArguments
      argumentDigest := row.argumentDigest
      policyVersion := row.policyVersion
      authorizationDecision := decision
      outcome := outcome
      errorClass := errorClass
      startedAt := row.startedAt
      durationMs := row.durationMs }).mapError .invalidModel

theorem ToolInvocation.ofRow_invocationParameters (invocation : ToolInvocation) :
    ToolInvocation.ofRow (invocationParameters invocation) = .ok invocation := by
  simp only [ofRow, invocationParameters, readDecision_value, readOutcome_value,
    readErrorClass_value]
  have valid : ToolInvocation.validate invocation.toInvocationFields = .ok invocation :=
    validate_eq_ok invocation.valid
  exact congrArg (Except.mapError JobError.invalidModel) valid

/-! ## Findings -/

structure FindingRow where
  id : UUID
  tenantId : String
  jobId : UUID
  claim : NonEmptyText
  supportingEvidenceIds : List String
  contradictingEvidenceIds : List String
  calculationIds : List String
  confidence : ℚ
  criticVerdict : String
  reviewerStatus : String
  recordedAt : Timestamp
  position : Nat

/-- `PRIMARY KEY (tenant_id, id)`. -/
def FindingRow.key (row : FindingRow) : JobKey := (row.tenantId, row.id)

def FindingRow.jobKey (row : FindingRow) : JobKey := (row.tenantId, row.jobId)

/-- `_finding_parameters`. -/
def findingParameters (finding : FindingRecord) (position : Nat) : FindingRow where
  id := finding.id
  tenantId := finding.tenantId
  jobId := finding.jobId
  claim := finding.claim
  supportingEvidenceIds := writeIds finding.supportingEvidenceIds
  contradictingEvidenceIds := writeIds finding.contradictingEvidenceIds
  calculationIds := writeIds finding.calculationIds
  confidence := finding.confidence
  criticVerdict := finding.criticVerdict.value
  reviewerStatus := finding.reviewerStatus.value
  recordedAt := finding.recordedAt
  position := position

/-- `FindingRecord.model_validate(row)`. -/
def FindingRecord.ofRow (row : FindingRow) : Except JobError FindingRecord := do
  let supporting ← readIds row.supportingEvidenceIds
  let contradicting ← readIds row.contradictingEvidenceIds
  let calculations ← readIds row.calculationIds
  let verdict ← readVerdict row.criticVerdict
  let reviewerStatus ← readReviewerStatus row.reviewerStatus
  let finding ← (Finding.validate
    { claim := row.claim
      supportingEvidenceIds := supporting
      contradictingEvidenceIds := contradicting
      calculationIds := calculations
      confidence := row.confidence
      criticVerdict := verdict
      reviewerStatus := reviewerStatus }).mapError .invalidModel
  FindingRecord.validate
    { toFinding := finding
      id := row.id
      jobId := row.jobId
      tenantId := row.tenantId
      recordedAt := row.recordedAt }

theorem FindingRecord.ofRow_findingParameters (finding : FindingRecord)
    (position : Nat) :
    FindingRecord.ofRow (findingParameters finding position) = finding.validate := by
  have valid : Finding.validate finding.toFindingFields = .ok finding.toFinding :=
    dif_pos finding.valid
  simp only [ofRow, findingParameters, readIds_writeIds, readVerdict_value,
    readReviewerStatus_value]
  change ((Finding.validate finding.toFindingFields).mapError JobError.invalidModel >>=
    fun _ => _) = _
  rw [valid]
  rfl

/-! ## Publications -/

structure PublicationRow where
  tenantId : String
  jobId : UUID
  publishedAt : Timestamp
  reportKey : String
  markdownKey : String
  manifestKey : String
  evidenceKey : String
  reportSha256 : DigestText
  isPartial : Bool
  driftedEvidenceIds : List String
  reportAccessClass : String
  manifestAccessClass : String

/-- `PRIMARY KEY (tenant_id, job_id)`. -/
def PublicationRow.key (row : PublicationRow) : JobKey := (row.tenantId, row.jobId)

/-- The parameters of `record_publication`. -/
def publicationParameters (publication : ReportPublication) : PublicationRow where
  tenantId := publication.tenantId
  jobId := publication.jobId
  publishedAt := publication.publishedAt
  reportKey := publication.reportKey
  markdownKey := publication.markdownKey
  manifestKey := publication.manifestKey
  evidenceKey := publication.evidenceKey
  reportSha256 := publication.reportSha256
  isPartial := publication.isPartial
  driftedEvidenceIds := writeIds publication.driftedEvidenceIds
  reportAccessClass := publication.reportAccessClass.value
  manifestAccessClass := publication.manifestAccessClass.value

/-- `ReportPublication.model_validate(row)`. -/
def ReportPublication.ofRow (row : PublicationRow) :
    Except JobError ReportPublication := do
  checkTenant row.tenantId
  let drifted ← readIds row.driftedEvidenceIds
  let reportAccessClass ← readAccessClass row.reportAccessClass
  let manifestAccessClass ← readAccessClass row.manifestAccessClass
  return {
    jobId := row.jobId
    tenantId := row.tenantId
    publishedAt := row.publishedAt
    reportKey := row.reportKey
    markdownKey := row.markdownKey
    manifestKey := row.manifestKey
    evidenceKey := row.evidenceKey
    reportSha256 := row.reportSha256
    isPartial := row.isPartial
    driftedEvidenceIds := drifted
    reportAccessClass := reportAccessClass
    manifestAccessClass := manifestAccessClass }

theorem ReportPublication.ofRow_publicationParameters {publication : ReportPublication}
    (tenantInRange : checkTenant publication.tenantId = .ok ()) :
    ReportPublication.ofRow (publicationParameters publication) = .ok publication := by
  simp only [ofRow, publicationParameters, tenantInRange, readIds_writeIds,
    readAccessClass_value]
  rfl

end ResearchPlatform
