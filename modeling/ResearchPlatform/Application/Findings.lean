import ResearchPlatform.Agents.Contracts

/-!
# From proposed findings to recorded ones

`deriveFindings` joins each proposed claim with the critic's verdict and the
reviewer's status.  It constructs `Finding` values, whose validators never
refuse what the contracts admit.
-/

namespace ResearchPlatform

/-- The verdict on a claim in `{verdict.claim: verdict for verdict in verdicts}`:
the last one wins. -/
def verdictFor (review : CriticReview) (claim : NonEmptyText) : Option ClaimVerdict :=
  review.verdicts.reverse.find? (·.claim = claim)

/-- The evidence against a claim: the analyst's and the critic's, once each, apart
from what also supports it. -/
def contradictingFor (proposed : ProposedFinding) (verdict : Option ClaimVerdict) :
    List UUID :=
  let conflicting :=
    proposed.contradictingEvidenceIds ++
      match verdict with
      | some judged => judged.conflictingEvidenceIds
      | none => []
  conflicting.eraseDups.filter (· ∉ proposed.supportingEvidenceIds)

/-- The verdict recorded for a claim, given the evidence against it. -/
def recordedVerdict (verdict : Option ClaimVerdict) (contradicting : List UUID) :
    CriticVerdict :=
  let criticVerdict :=
    match verdict with
    | some judged => judged.verdict
    | none => .pending
  if criticVerdict = .supported ∧ contradicting ≠ [] then .contradicted
  else criticVerdict

/-- The fields `derive_findings` gives one finding. -/
def derivedFields (review : CriticReview) (reviewerStatus : ReviewerStatus)
    (proposed : ProposedFinding) : FindingFields :=
  let verdict := verdictFor review proposed.claim
  let contradicting := contradictingFor proposed verdict
  { claim := proposed.claim
    supportingEvidenceIds := proposed.supportingEvidenceIds
    contradictingEvidenceIds := contradicting
    calculationIds := proposed.calculationIds
    confidence := proposed.confidence
    criticVerdict := recordedVerdict verdict contradicting
    reviewerStatus := reviewerStatus }

/-- `derive_findings`: every constructor call may raise. -/
def deriveFindings (analysis : AnalysisResult) (review : CriticReview)
    (reviewerStatus : ReviewerStatus) : Except ValidationError (List Finding) :=
  analysis.findings.mapM fun proposed =>
    Finding.validate (derivedFields review reviewerStatus proposed)

section Verdicts

variable {review : CriticReview} {claim : NonEmptyText} {verdict : ClaimVerdict}

theorem verdictFor_mem (found : verdictFor review claim = some verdict) :
    verdict ∈ review.verdicts := by
  exact List.mem_reverse.mp (List.mem_of_find?_eq_some found)

theorem verdictFor_claim (found : verdictFor review claim = some verdict) :
    verdict.claim = claim := by
  simpa using List.find?_some found

end Verdicts

theorem mem_contradictingFor {proposed : ProposedFinding}
    {verdict : Option ClaimVerdict} {identifier : UUID} :
    identifier ∈ contradictingFor proposed verdict ↔
      (identifier ∈ proposed.contradictingEvidenceIds ∨
        ∃ judged, verdict = some judged ∧
          identifier ∈ judged.conflictingEvidenceIds) ∧
      identifier ∉ proposed.supportingEvidenceIds := by
  cases verdict <;> simp [contradictingFor]

theorem recordedVerdict_eq_supported_iff {verdict : Option ClaimVerdict}
    {contradicting : List UUID} :
    recordedVerdict verdict contradicting = .supported ↔
      (∃ judged, verdict = some judged ∧ judged.verdict = .supported) ∧
        contradicting = [] := by
  cases verdict with
  | none => simp [recordedVerdict]
  | some judged =>
      by_cases supported : judged.verdict = .supported <;>
        by_cases empty : contradicting = [] <;>
        simp [recordedVerdict, supported, empty]

/-- A claim is recorded as contradicted on the critic's word, or because a
supported claim has evidence against it. -/
theorem recordedVerdict_eq_contradicted {verdict : Option ClaimVerdict}
    {contradicting : List UUID}
    (contradicted : recordedVerdict verdict contradicting = .contradicted) :
    ∃ judged, verdict = some judged ∧
      (judged.verdict = .contradicted ∨
        judged.verdict = .supported ∧ contradicting ≠ []) := by
  cases verdict with
  | none => simp [recordedVerdict] at contradicted
  | some judged =>
      refine ⟨judged, rfl, ?_⟩
      by_cases supported : judged.verdict = .supported ∧ contradicting ≠ []
      · exact Or.inr supported
      · simp only [recordedVerdict, if_neg supported] at contradicted
        exact Or.inl contradicted

/-- The fields derived from valid contracts pass the validators of `Finding`. -/
theorem derivedFields_valid (review : CriticReview) (reviewerStatus : ReviewerStatus)
    (proposed : ProposedFinding) :
    (derivedFields review reviewerStatus proposed).Valid where
  hasSupport := by
    have supported := proposed.supportInRange.1
    exact List.length_pos_iff.mp supported
  calculationsBounded := by
    have bounded := proposed.calculationsBounded
    exact Nat.le_trans bounded (by decide)
  confidenceInRange := proposed.confidenceInRange
  evidenceSetsDisjoint := by
    intro identifier supporting contradicting
    exact (mem_contradictingFor.mp contradicting).2 supporting
  supportedUncontradicted := by
    intro supported
    exact (recordedVerdict_eq_supported_iff.mp supported).2

/-- The finding derived from one proposed claim. -/
def derivedFinding (review : CriticReview) (reviewerStatus : ReviewerStatus)
    (proposed : ProposedFinding) : Finding :=
  ⟨derivedFields review reviewerStatus proposed,
    derivedFields_valid review reviewerStatus proposed⟩

/-- `derive_findings` raises nothing on what the contracts admit. -/
theorem deriveFindings_eq_ok (analysis : AnalysisResult) (review : CriticReview)
    (reviewerStatus : ReviewerStatus) :
    deriveFindings analysis review reviewerStatus =
      .ok (analysis.findings.map (derivedFinding review reviewerStatus)) := by
  unfold deriveFindings
  induction analysis.findings with
  | nil => rfl
  | cons proposed rest inductionHypothesis =>
      rw [List.mapM_cons, inductionHypothesis]
      simp only [Finding.validate,
        dif_pos (derivedFields_valid review reviewerStatus proposed)]
      rfl

end ResearchPlatform
