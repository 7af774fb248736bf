import ResearchPlatform.Domain.Tasks

/-!
# What every agent must produce

Each contract carries its own validators as fields, so that a value of the type
is one the schema admits.  The sentence rule of `ResearchReport` is not stated
here: a report of this type may leave sentences uncited.
-/

namespace ResearchPlatform

open Foundation

/-- A `ValueError` with its message. -/
structure ValueError where
  message : String
  deriving DecidableEq

/-! ## Defaults -/

theorem noTexts_bounded : ([] : List NonEmptyText).length ≤ 20 := by decide

theorem noIdentifiers_bounded : ([] : List UUID).length ≤ 50 := by decide

theorem noDependencies_bounded : ([] : List Nat).length ≤ 20 := by decide

theorem researcher_notThePlanner : AgentRole.researcher ≠ .planner := by decide

/-- A complete report lists no omissions, so that nothing is missing from it. -/
theorem complete_saysWhy (isPartial : false = true) : ([] : List NonEmptyText) ≠ [] := by
  cases isPartial

theorem complete_omitsNothing (_ : false = false) : ([] : List NonEmptyText) = [] := rfl

/-! ## The plan and the evidence -/

structure PlannedTask where
  objective : NonEmptyText
  assignedAgent : AgentRole
  evidenceRequirements : List NonEmptyText
  sourceRestrictions : List NonEmptyText := []
  dependsOn : List Nat := []
  requirementsInRange :
    1 ≤ evidenceRequirements.length ∧ evidenceRequirements.length ≤ 20
  restrictionsBounded : sourceRestrictions.length ≤ 20
  dependenciesBounded : dependsOn.length ≤ 20
  notThePlanner : assignedAgent ≠ .planner

structure ResearchPlan where
  tasks : List PlannedTask
  rationale : NonEmptyText
  tasksInRange : 1 ≤ tasks.length ∧ tasks.length ≤ 50

/-- A researcher's evidence for one task.  `hashesDistinct` is
`records_must_not_repeat_the_same_excerpt`. -/
structure EvidenceSubmission where
  records : List EvidenceRecordCreate
  unmetRequirements : List NonEmptyText := []
  recordsInRange : 1 ≤ records.length ∧ records.length ≤ 100
  unmetBounded : unmetRequirements.length ≤ 20
  hashesDistinct : (records.map (·.contentHash)).Nodup

/-! ## The analysis and its review -/

structure Calculation where
  id : UUID
  description : NonEmptyText
  expression : NonEmptyText
  result : NonEmptyText
  inputEvidenceIds : List UUID
  inputsInRange : 1 ≤ inputEvidenceIds.length ∧ inputEvidenceIds.length ≤ 50

structure ProposedFinding where
  claim : NonEmptyText
  supportingEvidenceIds : List UUID
  contradictingEvidenceIds : List UUID := []
  calculationIds : List UUID := []
  confidence : ℚ
  supportInRange :
    1 ≤ supportingEvidenceIds.length ∧ supportingEvidenceIds.length ≤ 50
  contradictingBounded : contradictingEvidenceIds.length ≤ 50
  calculationsBounded : calculationIds.length ≤ 20
  confidenceInRange : 0 ≤ confidence ∧ confidence ≤ 1
  evidenceSetsDisjoint :
    ∀ identifier ∈ supportingEvidenceIds, identifier ∉ contradictingEvidenceIds

structure AnalysisResult where
  findings : List ProposedFinding
  calculations : List Calculation := []
  findingsInRange : 1 ≤ findings.length ∧ findings.length ≤ 100
  calculationsBounded : calculations.length ≤ 50
  citedCalculationsPresent :
    ∀ finding ∈ findings, ∀ identifier ∈ finding.calculationIds,
      identifier ∈ calculations.map (·.id)

structure ClaimVerdict where
  claim : NonEmptyText
  verdict : CriticVerdict
  reasoning : NonEmptyText
  conflictingEvidenceIds : List UUID := []
  conflictingBounded : conflictingEvidenceIds.length ≤ 50
  contradictedNamesConflict :
    verdict = .contradicted → conflictingEvidenceIds ≠ []
  verdictReached : verdict ≠ .pending

structure CriticReview where
  verdicts : List ClaimVerdict
  coverageGaps : List NonEmptyText := []
  verdictsInRange : 1 ≤ verdicts.length ∧ verdicts.length ≤ 100
  gapsBounded : coverageGaps.length ≤ 20

namespace CriticReview

/-- `CriticReview.supported_claims`. -/
def supportedClaims (review : CriticReview) : List NonEmptyText :=
  (review.verdicts.filter (·.verdict = .supported)).map (·.claim)

/-- `CriticReview.requires_reviewer`. -/
def requiresReviewer (review : CriticReview) : Bool :=
  !review.coverageGaps.isEmpty ||
    review.verdicts.any (·.verdict = .contradicted)

theorem mem_supportedClaims {review : CriticReview} {claim : NonEmptyText} :
    claim ∈ review.supportedClaims ↔
      ∃ verdict ∈ review.verdicts,
        verdict.verdict = .supported ∧ verdict.claim = claim := by
  simp [supportedClaims, and_assoc]

end CriticReview

/-! ## The report -/

/-- A character of `[0-9a-fA-F-]`. -/
def isIdentifierChar (char : Char) : Bool :=
  char == '-' || (hexValue char).isSome

/-- The identifier of a match of `CITATION` that starts here. -/
def citationAt : List Char → Option (List Char)
  | '[' :: rest =>
      if (rest.take 36).length = 36 ∧ (rest.take 36).all isIdentifierChar ∧
          (rest.drop 36).head? = some ']' then
        some (rest.take 36)
      else
        none
  | _ => none

/-- The identifiers of `CITATION.finditer(text)` in order.  A match holds no
further bracket, so no two matches overlap and each start can be tried. -/
def citations : List Char → List (List Char)
  | [] => []
  | char :: rest => (citationAt (char :: rest)).toList ++ citations rest

structure ReportSection where
  heading : NonEmptyText
  body : NonEmptyText

/-- `ReportSection.cited_evidence_ids`: it raises where a match is no UUID. -/
def ReportSection.citedEvidenceIds (reportSection : ReportSection) :
    Except ValueError (List UUID) :=
  (citations reportSection.body.val.toList).mapM fun identifier =>
    match UUID.parse (String.ofList identifier) with
    | some cited => .ok cited
    | none => .error ⟨"badly formed hexadecimal UUID string"⟩

/-- A report.  The last two fields are
`a_partial_report_must_say_what_is_missing`. -/
structure ResearchReport where
  title : NonEmptyText
  sections : List ReportSection
  isPartial : Bool := false
  omittedBecause : List NonEmptyText := []
  sectionsInRange : 1 ≤ sections.length ∧ sections.length ≤ 50
  omissionsBounded : omittedBecause.length ≤ 20
  partialSaysWhy : isPartial = true → omittedBecause ≠ []
  completeOmitsNothing : isPartial = false → omittedBecause = []

/-- `ResearchReport.cited_evidence_ids`. -/
def ResearchReport.citedEvidenceIds (report : ResearchReport) :
    Except ValueError (List UUID) :=
  (report.sections.mapM ReportSection.citedEvidenceIds).map List.flatten

/-- `unsupported_citations`, as a list without repetition. -/
def unsupportedCitations (report : ResearchReport)
    (availableEvidenceIds : List UUID) : Except ValueError (List UUID) :=
  report.citedEvidenceIds.map fun cited =>
    (cited.filter (· ∉ availableEvidenceIds)).dedup

/-- A report is labelled partial exactly when it lists omissions. -/
theorem ResearchReport.isPartial_iff (report : ResearchReport) :
    report.isPartial = true ↔ report.omittedBecause ≠ [] := by
  constructor
  · exact report.partialSaysWhy
  · intro omissions
    by_contra complete
    exact omissions (report.completeOmitsNothing (by simpa using complete))

/-! ## A claim as an example -/

section Example

def exampleClaim : NonEmptyText := ⟨"the team plan costs 20 USD", by decide⟩

def exampleUri : NonEmptyText := ⟨"https://example.com/plans", by decide⟩

/-- The claim, proposed on this evidence. -/
def exampleAnalysis (evidenceId : UUID) : AnalysisResult where
  findings := [{
    claim := exampleClaim
    supportingEvidenceIds := [evidenceId]
    confidence := 1
    supportInRange := by simp
    contradictingBounded := noIdentifiers_bounded
    calculationsBounded := by decide
    confidenceInRange := by decide
    evidenceSetsDisjoint := by simp }]
  findingsInRange := by simp
  calculationsBounded := by decide
  citedCalculationsPresent := by simp

/-- The critic supports the claim, whether or not it names evidence against it. -/
def exampleSupport (reasoning : NonEmptyText) (conflicting : Option UUID) : ClaimVerdict where
  claim := exampleClaim
  verdict := .supported
  reasoning := reasoning
  conflictingEvidenceIds := conflicting.toList
  conflictingBounded := by cases conflicting <;> simp
  contradictedNamesConflict := nofun
  verdictReached := nofun

/-- The critic contradicts the claim with this evidence. -/
def exampleContradiction (evidenceId : UUID) : ClaimVerdict where
  claim := exampleClaim
  verdict := .contradicted
  reasoning := ⟨"one page gives another price", by decide⟩
  conflictingEvidenceIds := [evidenceId]
  conflictingBounded := by simp
  contradictedNamesConflict := by simp
  verdictReached := nofun

def exampleReport (body : NonEmptyText) : ResearchReport where
  title := ⟨"The team plan", by decide⟩
  sections := [{ heading := ⟨"Price", by decide⟩, body := body }]
  sectionsInRange := by simp
  omissionsBounded := noTexts_bounded
  partialSaysWhy := complete_saysWhy
  completeOmitsNothing := complete_omitsNothing

end Example

end ResearchPlatform
