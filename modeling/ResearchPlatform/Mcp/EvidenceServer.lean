import ResearchPlatform.Application.Jobs
import ResearchPlatform.Foundation.Whitespace
import ResearchPlatform.Mcp.Gateway

/-!
# The evidence server

`EvidenceService.retrieve` over the system of record, and the way a call of
`evidence.retrieve` reaches it through `FastMCPExecutor.execute`.
-/

namespace ResearchPlatform

open Foundation

/-- What `retrieve` tells of one record.  The times are given before
`isoformat`. -/
structure EvidenceView where
  id : String
  excerpt : NonEmptyText
  sourceUri : NonEmptyText
  title : Option (BoundedText 500)
  publishedAt : Option Timestamp
  retrievedAt : Timestamp
  trustLevel : TrustLevel
  contentHash : DigestText
  deriving DecidableEq

def EvidenceRecord.view (record : EvidenceRecord) : EvidenceView where
  id := record.id.str
  excerpt := record.excerpt
  sourceUri := record.sourceUri
  title := record.title
  publishedAt := record.publishedAt
  retrievedAt := record.retrievedAt
  trustLevel := record.trustLevel
  contentHash := record.contentHash

namespace EvidenceService

/-- The identifier that `evidence_id` asks for, if it asks for one. -/
def wanted : Option String → Option (Option UUID)
  | none => some none
  | some text => if text = "" then some none else (UUID.parse text).map some

/-- `EvidenceService.retrieve`: the records it returns, each as its `view`. -/
def retrieve (repository : InMemoryJobRepository) (tenantId jobId : String)
    (evidenceId : Option String) : Except ValueError (List EvidenceRecord) :=
  if strip tenantId = "" then
    .error ⟨"an evidence call must identify its tenant"⟩
  else
    match UUID.parse jobId, wanted evidenceId with
    | some job, some only =>
        match repository.listEvidence tenantId job with
        | .ok records => .ok (records.filter fun record => only.all (record.id = ·))
        | .error _ => .error ⟨"no evidence is recorded for job " ++ jobId⟩
    | _, _ => .error ⟨"job_id and evidence_id must be identifiers"⟩

/-- What is retrieved is kept under the tenant and the job that were named. -/
theorem mem_evidenceOf_of_retrieve {repository : InMemoryJobRepository}
    {tenantId jobId : String} {evidenceId : Option String}
    {records : List EvidenceRecord}
    (found : retrieve repository tenantId jobId evidenceId = .ok records) :
    ∃ job, UUID.parse jobId = some job ∧
      ∀ record ∈ records, record ∈ repository.evidenceOf (tenantId, job) := by
  unfold retrieve at found
  split at found
  · cases found
  · split at found
    · rename_i job only parsed asked
      refine ⟨job, parsed, ?_⟩
      unfold InMemoryJobRepository.listEvidence at found
      cases stored : repository.get tenantId job with
      | error missing => simp [stored, Except.map] at found
      | ok row =>
          simp only [stored, Except.map, Except.ok.injEq] at found
          rw [← found]
          intro record member
          exact List.mem_of_mem_filter member
    · cases found

end EvidenceService

/-! ## Through the executor -/

/-- The arguments `FastMCPExecutor.execute` sends: the tenant is the principal's,
whatever the agent wrote. -/
def ExecutionRequest.sent (request : ExecutionRequest) : Arguments :=
  request.arguments.set "tenant_id" (.text request.principal.tenantId)

/-- A text argument, or `none` where it is absent or no text. -/
def textArgument (arguments : Arguments) (name : String) : Option String :=
  match arguments.get? name with
  | some (.text value) => some value
  | _ => none

/-- `evidence_id: str | None = None`: `none` where it is neither a text nor
null. -/
def evidenceIdArgument (arguments : Arguments) : Option (Option String) :=
  match arguments.get? "evidence_id" with
  | none => some none
  | some .null => some none
  | some (.text value) => some (some value)
  | some _ => none

/-- The records that a call of the `retrieve` tool returns, as the executor sees
it: arguments of the wrong type and the refusals of the service are upstream
errors. -/
def retrieveCall (repository : InMemoryJobRepository) (request : ExecutionRequest) :
    Except UpstreamError (List EvidenceRecord) :=
  match textArgument request.sent "tenant_id", textArgument request.sent "job_id",
      evidenceIdArgument request.sent with
  | some tenantId, some jobId, some evidenceId =>
      (EvidenceService.retrieve repository tenantId jobId evidenceId).mapError fun error =>
        ⟨"validation error: " ++ error.message, .invalidArguments⟩
  | _, _, _ => .error ⟨"validation error for retrieve", .invalidArguments⟩

/-- A call of `retrieve` returns records of the principal's tenant and of the job
it names. -/
theorem mem_evidenceOf_of_retrieveCall {repository : InMemoryJobRepository}
    {request : ExecutionRequest} {jobId : UUID} {records : List EvidenceRecord}
    (named : request.arguments.get? "job_id" = some (.text jobId.str))
    (found : retrieveCall repository request = .ok records) :
    ∀ record ∈ records,
      record ∈ repository.evidenceOf (request.principal.tenantId, jobId) := by
  have tenant : textArgument request.sent "tenant_id" =
      some request.principal.tenantId := by
    simp [textArgument, ExecutionRequest.sent]
  have job : textArgument request.sent "job_id" = some jobId.str := by
    have other : "job_id" ≠ "tenant_id" := by decide
    simp [textArgument, ExecutionRequest.sent, Dict.get?_set_of_ne _ _ other, named]
  unfold retrieveCall at found
  rw [tenant, job] at found
  cases asked : evidenceIdArgument request.sent with
  | none => simp [asked] at found
  | some evidenceId =>
      simp only [asked] at found
      cases matched : EvidenceService.retrieve repository request.principal.tenantId
          jobId.str evidenceId with
      | error refusal => simp [matched, Except.mapError] at found
      | ok kept =>
          simp only [matched, Except.mapError, Except.ok.injEq] at found
          obtain ⟨parsed, same, within⟩ := EvidenceService.mem_evidenceOf_of_retrieve matched
          rw [UUID.parse_str, Option.some.injEq] at same
          rw [← found, same]
          exact within

end ResearchPlatform
