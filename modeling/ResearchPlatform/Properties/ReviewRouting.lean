import ResearchPlatform.Agents.Checks
import ResearchPlatform.Application.Findings

/-!
# Review routing against the recorded findings

Three functions judge one claim: `requiresReviewer` and `supportedClaims` read
the verdict labels, `deriveFindings` also reads the evidence against the claim.
They agree exactly when the labels `supported` stand.
-/

namespace ResearchPlatform

/-- The routing and the reporter agree with the recorded findings: a claim
recorded as contradicted sends the job to a reviewer, and a claim handed to the
reporter as supported is recorded as supported. -/
def RoutingAgrees (analysis : AnalysisResult) (review : CriticReview)
    (reviewerStatus : ReviewerStatus) : Prop :=
  ∃ findings, deriveFindings analysis review reviewerStatus = .ok findings ∧
    ((∃ finding ∈ findings, finding.criticVerdict = .contradicted) →
      review.requiresReviewer = true) ∧
    ∀ claim ∈ review.supportedClaims, ∀ finding ∈ findings,
      finding.claim = claim → finding.criticVerdict = .supported

/-- Every verdict `supported` on a proposed claim stands: the last verdict on
that claim is `supported` too, and what it names as conflicting is evidence the
proposed finding rests on. -/
def SupportedVerdictsStand (analysis : AnalysisResult) (review : CriticReview) :
    Prop :=
  ∀ verdict ∈ review.verdicts, verdict.verdict = .supported →
    ∀ proposed ∈ analysis.findings, proposed.claim = verdict.claim →
      ∃ last, verdictFor review verdict.claim = some last ∧
        last.verdict = .supported ∧
        ∀ identifier ∈ last.conflictingEvidenceIds,
          identifier ∈ proposed.supportingEvidenceIds

section Verdicts

variable {analysis : AnalysisResult} {review : CriticReview}
  {evidence : List EvidenceRecord}

/-- An accepted review supports no claim the analyst has evidence against. -/
theorem contradicting_eq_nil_of_supported
    (accepted : ReviewAccepted review analysis evidence)
    {verdict : ClaimVerdict} (member : verdict ∈ review.verdicts)
    (supported : verdict.verdict = .supported)
    {proposed : ProposedFinding} (isProposed : proposed ∈ analysis.findings)
    (sameClaim : proposed.claim = verdict.claim) :
    proposed.contradictingEvidenceIds = [] := by
  by_contra contradicting
  apply accepted.supportsUncontested verdict member supported
  rw [← sameClaim]
  apply List.mem_map_of_mem
  simpa [List.mem_filter, isProposed] using contradicting

/-- In an accepted review, a claim with a verdict `supported` is recorded as
supported exactly when its last verdict says so too and names no conflicting
evidence outside the finding's support. -/
theorem recorded_supported_iff (reviewerStatus : ReviewerStatus)
    (accepted : ReviewAccepted review analysis evidence)
    {verdict : ClaimVerdict} (member : verdict ∈ review.verdicts)
    (supported : verdict.verdict = .supported)
    {proposed : ProposedFinding} (isProposed : proposed ∈ analysis.findings)
    (sameClaim : proposed.claim = verdict.claim) :
    (derivedFinding review reviewerStatus proposed).criticVerdict = .supported ↔
      ∃ last, verdictFor review verdict.claim = some last ∧
        last.verdict = .supported ∧
        ∀ identifier ∈ last.conflictingEvidenceIds,
          identifier ∈ proposed.supportingEvidenceIds := by
  have uncontested : proposed.contradictingEvidenceIds = [] :=
    contradicting_eq_nil_of_supported accepted member supported isProposed sameClaim
  change recordedVerdict (verdictFor review proposed.claim)
      (contradictingFor proposed (verdictFor review proposed.claim)) = _ ↔ _
  rw [recordedVerdict_eq_supported_iff, sameClaim,
    List.eq_nil_iff_forall_not_mem]
  constructor
  · rintro ⟨⟨last, found, lastSupported⟩, noConflict⟩
    refine ⟨last, found, lastSupported, ?_⟩
    intro identifier conflicting
    by_contra unsupported
    apply noConflict identifier
    exact mem_contradictingFor.mpr
      ⟨Or.inr ⟨last, found, conflicting⟩, unsupported⟩
  · rintro ⟨last, found, lastSupported, covered⟩
    refine ⟨⟨last, found, lastSupported⟩, ?_⟩
    intro identifier contradicting
    obtain ⟨named, unsupported⟩ := mem_contradictingFor.mp contradicting
    rcases named with byAnalyst | ⟨judged, sameVerdict, byCritic⟩
    · simp [uncontested] at byAnalyst
    · obtain rfl : last = judged := by simpa [found] using sameVerdict
      exact unsupported (covered identifier byCritic)

end Verdicts

/-- For every review that `check_review` accepts, the routing and the reporter
agree with the recorded findings exactly when the verdicts `supported` stand. -/
theorem routingAgrees_iff_supportedVerdictsStand
    (analysis : AnalysisResult) (evidence : List EvidenceRecord)
    (review : CriticReview) (reviewerStatus : ReviewerStatus)
    (checked : checkReview review analysis evidence = .ok ()) :
    RoutingAgrees analysis review reviewerStatus ↔
      SupportedVerdictsStand analysis review := by
  have accepted := checkReview_eq_ok_iff.mp checked
  constructor
  · rintro ⟨findings, derived, -, reported⟩ verdict member supported proposed
      isProposed sameClaim
    obtain rfl : analysis.findings.map (derivedFinding review reviewerStatus) =
        findings := by
      simpa [deriveFindings_eq_ok] using derived
    apply (recorded_supported_iff reviewerStatus accepted
      member supported isProposed sameClaim).mp
    apply reported verdict.claim
    · exact CriticReview.mem_supportedClaims.mpr ⟨verdict, member, supported, rfl⟩
    · exact List.mem_map_of_mem isProposed
    · exact sameClaim
  · intro stand
    refine ⟨_, deriveFindings_eq_ok analysis review reviewerStatus, ?_, ?_⟩
    · rintro ⟨finding, derived, contradicted⟩
      obtain ⟨proposed, isProposed, rfl⟩ := List.mem_map.mp derived
      obtain ⟨judged, found, labelled⟩ :=
        recordedVerdict_eq_contradicted contradicted
      have member := verdictFor_mem found
      have sameClaim : proposed.claim = judged.claim :=
        (verdictFor_claim found).symm
      rcases labelled with byCritic | ⟨supported, -⟩
      · simp only [CriticReview.requiresReviewer, Bool.or_eq_true]
        exact Or.inr (List.any_eq_true.mpr ⟨judged, member, by simpa using byCritic⟩)
      · -- A standing verdict is recorded as supported, so not as contradicted.
        have recorded :=
          (recorded_supported_iff reviewerStatus accepted
            member supported isProposed sameClaim).mpr
            (stand judged member supported proposed isProposed sameClaim)
        rw [contradicted] at recorded
        cases recorded
    · intro claim isSupported finding derived ofClaim
      obtain ⟨proposed, isProposed, rfl⟩ := List.mem_map.mp derived
      obtain ⟨verdict, member, supported, rfl⟩ :=
        CriticReview.mem_supportedClaims.mp isSupported
      exact (recorded_supported_iff reviewerStatus accepted member supported isProposed ofClaim).mpr
        (stand verdict member supported proposed isProposed ofClaim)

/-! ## A supported verdict that names a conflict -/

namespace ConflictingSupport

def claim : NonEmptyText := exampleClaim

/-- One claim, proposed on the evidence `1`. -/
def analysis : AnalysisResult := exampleAnalysis 1

/-- The critic supports the claim and names the evidence `2` against it. -/
def review : CriticReview where
  verdicts := [exampleSupport ⟨"another page says otherwise", by decide⟩ (some 2)]
  verdictsInRange := by decide
  gapsBounded := noTexts_bounded

def record (id : UUID) : EvidenceRecord where
  excerpt := claim
  sourceUri := exampleUri
  contentHash := sha256Text "the team plan costs 20 USD"
  producingTaskId := 7
  toolInvocationId := 8
  id := id
  jobId := 9
  tenantId := "acme"
  retrievedAt := 0

theorem checked : checkReview review analysis [record 1, record 2] = .ok () := by
  rfl

end ConflictingSupport

/-- `check_review` accepts a review that supports a claim and names evidence
against it.  The claim is recorded as contradicted, no reviewer is required, and
the reporter is told that the claim is supported. -/
theorem routing_disagrees_on_conflicting_support :
    checkReview ConflictingSupport.review ConflictingSupport.analysis
        [ConflictingSupport.record 1, ConflictingSupport.record 2] = .ok () ∧
      ¬ RoutingAgrees ConflictingSupport.analysis ConflictingSupport.review
        .notRequired := by
  refine ⟨ConflictingSupport.checked, ?_⟩
  rintro ⟨findings, derived, routed, -⟩
  obtain rfl :
      ConflictingSupport.analysis.findings.map
          (derivedFinding ConflictingSupport.review .notRequired) = findings := by
    simpa [deriveFindings_eq_ok] using derived
  have required := routed ⟨_, List.mem_cons_self, by rfl⟩
  exact absurd required (by decide)

/-- The equivalence at the review above. -/
theorem routingAgrees_iff_at_conflicting_support :
    RoutingAgrees ConflictingSupport.analysis ConflictingSupport.review
        .notRequired ↔
      SupportedVerdictsStand ConflictingSupport.analysis
        ConflictingSupport.review :=
  routingAgrees_iff_supportedVerdictsStand ConflictingSupport.analysis
    [ConflictingSupport.record 1, ConflictingSupport.record 2]
    ConflictingSupport.review .notRequired ConflictingSupport.checked

end ResearchPlatform
