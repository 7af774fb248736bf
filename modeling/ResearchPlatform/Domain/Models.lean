import Mathlib.Algebra.Field.Rat
import Mathlib.Data.NNRat.Defs
import ResearchPlatform.Domain.Identifiers
import ResearchPlatform.Foundation.Sha256

/-!
# The domain model

The records of `domain/models.py`.  Fields that no modelled function reads are
left out.  Amounts that the source keeps as floats are exact rationals here.
-/

namespace ResearchPlatform

open Foundation

/-- A text of 1 to 4000 characters. -/
abbrev NonEmptyText : Type :=
  { text : String // 1 ≤ text.length ∧ text.length ≤ 4000 }

/-- A text of at most `limit` characters. -/
abbrev BoundedText (limit : Nat) : Type :=
  { text : String // text.length ≤ limit }

/-- A text that matches `^sha256:[a-f0-9]{64}$`. -/
abbrev DigestText : Type :=
  { text : String //
    text.toList.take 7 = "sha256:".toList ∧ text.toList.length = 71 ∧
      (text.toList.drop 7).all isLowerHex = true }

/-- `f"sha256:{hashlib.sha256(data).hexdigest()}"`. -/
def sha256Of (data : List UInt8) : DigestText :=
  ⟨String.ofList ("sha256:".toList ++ Sha256.hexdigest data), by
    rw [String.toList_ofList]
    refine ⟨List.take_left' rfl, by simp, List.all_eq_true.mpr ?_⟩
    intro digit member
    exact Sha256.isLowerHex_of_mem_hexdigest member⟩

/-- `"sha256:" + hashlib.sha256(text.encode("utf-8")).hexdigest()`. -/
def sha256Text (text : String) : DigestText :=
  ⟨String.ofList
      ("sha256:".toList ++
        Sha256.hexdigest (text.toList.flatMap String.utf8EncodeChar)),
    (sha256Of _).property⟩

/-- A `datetime` that may lack a time zone. -/
structure DateTime where
  micros : Int
  hasZone : Bool
  deriving DecidableEq

/-- What constructing a model from inadmissible values raises. -/
structure ValidationError where
  message : String
  deriving DecidableEq

/-! ## Jobs -/

inductive JobStatus where
  | created
  | planning
  | researching
  | analyzing
  | reviewRequired
  | reporting
  | completed
  | failed
  | partialResult
  deriving DecidableEq, Repr

namespace JobStatus

/-- `status.value`. -/
def value : JobStatus → String
  | created => "created"
  | planning => "planning"
  | researching => "researching"
  | analyzing => "analyzing"
  | reviewRequired => "review_required"
  | reporting => "reporting"
  | completed => "completed"
  | failed => "failed"
  | partialResult => "partial"

/-- `ALLOWED_TRANSITIONS`. -/
def allowedTransitions : JobStatus → List JobStatus
  | created => [planning, failed]
  | planning => [researching, failed]
  | researching => [analyzing, partialResult, failed]
  | analyzing => [reviewRequired, reporting, partialResult, failed]
  | reviewRequired => [researching, reporting, failed]
  | reporting => [completed, partialResult, failed]
  | completed => []
  | failed => []
  | partialResult => []

/-- A status that no transition leaves. -/
def IsTerminal (status : JobStatus) : Prop :=
  allowedTransitions status = []

instance (status : JobStatus) : Decidable status.IsTerminal :=
  inferInstanceAs (Decidable (_ = _))

theorem isTerminal_iff {status : JobStatus} :
    status.IsTerminal ↔
      status = completed ∨ status = failed ∨ status = partialResult := by
  cases status <;> decide

/-- No status is its own successor. -/
theorem not_mem_allowedTransitions_self (status : JobStatus) :
    status ∉ status.allowedTransitions := by
  cases status <;> decide

/-- Every status that is not terminal can still fail. -/
theorem failed_mem_allowedTransitions {status : JobStatus}
    (live : ¬ status.IsTerminal) :
    failed ∈ status.allowedTransitions := by
  cases status <;> first | decide | exact absurd (by decide) live

end JobStatus

/-- `STATUS_DETAIL_LIMIT`. -/
def statusDetailLimit : Nat := 1000

inductive TrustLevel where
  | primary
  | secondary
  | unverified
  deriving DecidableEq, Repr

inductive AccessClass where
  | publicClass
  | internal
  | restricted
  deriving DecidableEq, Repr

namespace AccessClass

/-- `access_class.value`. -/
def value : AccessClass → String
  | publicClass => "public"
  | internal => "internal"
  | restricted => "restricted"

/-- `ACCESS_CLASS_RANK`. -/
def rank : AccessClass → Nat
  | publicClass => 0
  | internal => 1
  | restricted => 2

instance : LE AccessClass where
  le lower upper := lower.rank ≤ upper.rank

instance (lower upper : AccessClass) : Decidable (lower ≤ upper) :=
  inferInstanceAs (Decidable (_ ≤ _))

theorem le_trans {low middle high : AccessClass}
    (first : low ≤ middle) (second : middle ≤ high) : low ≤ high :=
  Nat.le_trans first second

end AccessClass

/-- `clearance_covers`. -/
def clearanceCovers (clearance required : AccessClass) : Bool :=
  required.rank ≤ clearance.rank

@[simp]
theorem clearanceCovers_iff {clearance required : AccessClass} :
    clearanceCovers clearance required = true ↔ required ≤ clearance := by
  unfold clearanceCovers
  exact decide_eq_true_iff

/-! The defaults of a budget are within their ranges. -/

theorem defaultToolCalls_inRange : 1 ≤ 50 ∧ 50 ≤ 10000 := by decide

theorem defaultTokens_inRange : 1000 ≤ 2000000 ∧ 2000000 ≤ 1000000000 := by decide

theorem defaultRuntime_inRange : 30 ≤ 3600 ∧ 3600 ≤ 86400 := by decide

theorem defaultCost_inRange : (0 : ℚ) < 10 ∧ (10 : ℚ) ≤ 10000 := by decide

/-- The four limits of a job. -/
structure ResearchBudget where
  maxToolCalls : Nat := 50
  maxTokens : Nat := 2000000
  maxRuntimeSeconds : Nat := 3600
  maxCostUsd : ℚ := 10
  toolCallsInRange : 1 ≤ maxToolCalls ∧ maxToolCalls ≤ 10000 := by
    first | exact defaultToolCalls_inRange | decide
  tokensInRange : 1000 ≤ maxTokens ∧ maxTokens ≤ 1000000000 := by
    first | exact defaultTokens_inRange | decide
  runtimeInRange : 30 ≤ maxRuntimeSeconds ∧ maxRuntimeSeconds ≤ 86400 := by
    first | exact defaultRuntime_inRange | decide
  costInRange : 0 < maxCostUsd ∧ maxCostUsd ≤ 10000 := by
    first | exact defaultCost_inRange | decide
  deriving DecidableEq

/-- What a job has spent. -/
structure JobUsage where
  toolCalls : Nat := 0
  agentCalls : Nat := 0
  schemaCorrections : Nat := 0
  promptTokens : Nat := 0
  completionTokens : Nat := 0
  costUsd : ℚ≥0 := 0
  activeSeconds : ℚ≥0 := 0
  deriving DecidableEq

structure ResearchJobCreate where
  question : NonEmptyText
  constraints : List NonEmptyText := []
  sourceRequirements : List NonEmptyText := []
  budget : ResearchBudget := {}
  deriving DecidableEq

structure ResearchJob where
  id : UUID
  tenantId : String
  requesterId : String
  question : NonEmptyText
  constraints : List NonEmptyText := []
  sourceRequirements : List NonEmptyText := []
  budget : ResearchBudget := {}
  clearance : AccessClass := .publicClass
  usage : JobUsage := {}
  status : JobStatus := .created
  statusDetail : Option String := none
  workflowId : Option String := none
  workflowRunId : Option String := none
  createdAt : Timestamp
  updatedAt : Timestamp
  deriving DecidableEq

/-- A tenant and a job of that tenant. -/
abbrev JobKey : Type := String × UUID

def ResearchJob.key (job : ResearchJob) : JobKey := (job.tenantId, job.id)

/-- `InvalidStateTransition`. -/
structure InvalidStateTransition where
  current : JobStatus
  target : JobStatus
  deriving DecidableEq, Repr

/-- The text a job keeps of a status detail: an empty one is dropped and a long
one is cut. -/
def keptDetail : Option String → Option String
  | none => none
  | some detail =>
      if detail = "" then none
      else some (String.ofList (detail.toList.take statusDetailLimit))

namespace ResearchJob

/-- `ResearchJob.transition_to`; `now` is the reading of `utc_now`. -/
def transitionTo (job : ResearchJob) (target : JobStatus) (detail : Option String)
    (usage : Option JobUsage) (now : Timestamp) :
    Except InvalidStateTransition ResearchJob :=
  if target ∈ job.status.allowedTransitions then
    .ok { job with
      status := target
      statusDetail := keptDetail detail
      usage := usage.getD job.usage
      updatedAt := now }
  else
    .error ⟨job.status, target⟩

/-- `ResearchJob.with_checkpoint`. -/
def withCheckpoint (job : ResearchJob) (workflowId workflowRunId : String)
    (now : Timestamp) : ResearchJob :=
  { job with
    workflowId := some workflowId
    workflowRunId := some workflowRunId
    updatedAt := now }

/-- What an accepted transition stores. -/
theorem transitionTo_eq_ok_iff {job moved : ResearchJob} {target : JobStatus}
    {detail : Option String} {usage : Option JobUsage} {now : Timestamp} :
    job.transitionTo target detail usage now = .ok moved ↔
      target ∈ job.status.allowedTransitions ∧
        moved = { job with
          status := target
          statusDetail := keptDetail detail
          usage := usage.getD job.usage
          updatedAt := now } := by
  unfold transitionTo
  split
  · rename_i allowed
    simp [allowed, eq_comm]
  · rename_i refused
    simp [refused]

theorem transitionTo_eq_error_iff {job : ResearchJob} {target : JobStatus}
    {detail : Option String} {usage : Option JobUsage} {now : Timestamp}
    {refusal : InvalidStateTransition} :
    job.transitionTo target detail usage now = .error refusal ↔
      target ∉ job.status.allowedTransitions ∧ refusal = ⟨job.status, target⟩ := by
  unfold transitionTo
  split
  · rename_i allowed
    simp [allowed]
  · rename_i refused
    simp [refused, eq_comm]

end ResearchJob

/-! ## Evidence -/

/-- The evidence fields a task submits.  `sourceUri` is the text of the
`HttpUrl` or of the plain string; a publication date was compared with the clock,
so it has a time zone. -/
structure EvidenceRecordCreate where
  excerpt : NonEmptyText
  sourceUri : NonEmptyText
  title : Option (BoundedText 500) := none
  author : Option (BoundedText 200) := none
  publishedAt : Option Timestamp := none
  trustLevel : TrustLevel := .unverified
  accessClass : AccessClass := .publicClass
  contentHash : DigestText
  producingTaskId : UUID
  toolInvocationId : UUID
  deriving DecidableEq

/-- `publication_date_cannot_be_in_the_future`, at the reading `now`. -/
def EvidenceRecordCreate.Published (command : EvidenceRecordCreate)
    (now : Timestamp) : Prop :=
  ∀ date ∈ command.publishedAt, date ≤ now

instance (command : EvidenceRecordCreate) (now : Timestamp) :
    Decidable (command.Published now) :=
  inferInstanceAs (Decidable (∀ date ∈ command.publishedAt, date ≤ now))

structure EvidenceRecord extends EvidenceRecordCreate where
  id : UUID
  jobId : UUID
  tenantId : String
  retrievedAt : Timestamp
  deriving DecidableEq

/-- `EvidenceRecord.is_publishable`. -/
def EvidenceRecord.isPublishable (record : EvidenceRecord) : Bool :=
  record.accessClass = .publicClass || record.accessClass = .internal

theorem EvidenceRecord.isPublishable_iff {record : EvidenceRecord} :
    record.isPublishable = true ↔ record.accessClass ≤ .internal := by
  unfold isPublishable
  cases record.accessClass <;> decide

def EvidenceRecord.key (record : EvidenceRecord) : JobKey :=
  (record.tenantId, record.jobId)

/-! ## Findings -/

inductive CriticVerdict where
  | pending
  | supported
  | unsupported
  | contradicted
  deriving DecidableEq, Repr

inductive ReviewerStatus where
  | notRequired
  | pending
  | approved
  | rejected
  deriving DecidableEq, Repr

/-- The fields of a finding before its validators have run. -/
structure FindingFields where
  claim : NonEmptyText
  supportingEvidenceIds : List UUID
  contradictingEvidenceIds : List UUID := []
  calculationIds : List UUID := []
  confidence : ℚ
  criticVerdict : CriticVerdict := .pending
  reviewerStatus : ReviewerStatus := .notRequired
  deriving DecidableEq

/-- The field limits of `Finding` and `evidence_sets_must_not_overlap`. -/
structure FindingFields.Valid (fields : FindingFields) : Prop where
  hasSupport : fields.supportingEvidenceIds ≠ []
  calculationsBounded : fields.calculationIds.length ≤ 50
  confidenceInRange : 0 ≤ fields.confidence ∧ fields.confidence ≤ 1
  evidenceSetsDisjoint :
    ∀ identifier ∈ fields.supportingEvidenceIds,
      identifier ∉ fields.contradictingEvidenceIds
  supportedUncontradicted :
    fields.criticVerdict = .supported → fields.contradictingEvidenceIds = []

structure Finding extends FindingFields where
  valid : toFindingFields.Valid

structure FindingRecord extends Finding where
  id : UUID
  jobId : UUID
  tenantId : String
  recordedAt : Timestamp

instance (fields : FindingFields) : Decidable fields.Valid :=
  decidable_of_iff
    (fields.supportingEvidenceIds ≠ [] ∧ fields.calculationIds.length ≤ 50 ∧
      (0 ≤ fields.confidence ∧ fields.confidence ≤ 1) ∧
      (∀ identifier ∈ fields.supportingEvidenceIds,
        identifier ∉ fields.contradictingEvidenceIds) ∧
      (fields.criticVerdict = .supported → fields.contradictingEvidenceIds = []))
    ⟨fun ⟨hasSupport, calculations, confidence, disjoint, supported⟩ =>
        ⟨hasSupport, calculations, confidence, disjoint, supported⟩,
      fun valid =>
        ⟨valid.hasSupport, valid.calculationsBounded, valid.confidenceInRange,
          valid.evidenceSetsDisjoint, valid.supportedUncontradicted⟩⟩

/-- `Finding(...)`: construct a finding or raise. -/
def Finding.validate (fields : FindingFields) : Except ValidationError Finding :=
  if valid : fields.Valid then .ok ⟨fields, valid⟩
  else .error ⟨"a finding breaks its own validators"⟩

section Example

def exampleQuestion : NonEmptyText := ⟨"what does the team plan cost?", by decide⟩

end Example

end ResearchPlatform
