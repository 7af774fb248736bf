import ResearchPlatform.Foundation.Dict
import ResearchPlatform.Properties.ReviewRouting

/-!
# What findings keep of a review

`derive_findings` raises nothing, and each finding carries over what was proposed.  Of the
verdicts on a claim only the last one is read, so a finding keeps every conflict exactly when
the last verdict tells of all of them.
-/

namespace ResearchPlatform

open Foundation

/-! ## Nothing is refused -/

/-- The finding carries over what was proposed, and passes its own validators. -/
structure CarriesOver (reviewerStatus : ReviewerStatus) (proposed : ProposedFinding)
    (finding : Finding) : Prop where
  sameClaim : finding.claim = proposed.claim
  sameSupport : finding.supportingEvidenceIds = proposed.supportingEvidenceIds
  sameCalculations : finding.calculationIds = proposed.calculationIds
  sameConfidence : finding.confidence = proposed.confidence
  sameStatus : finding.reviewerStatus = reviewerStatus
  distinct : finding.contradictingEvidenceIds.Nodup
  valid : finding.Valid

theorem contradictingFor_nodup {proposed : ProposedFinding} {verdict : Option ClaimVerdict} :
    (contradictingFor proposed verdict).Nodup :=
  List.Nodup.filter _ (nodup_eraseDups _)

theorem carriesOver_derivedFinding {review : CriticReview} {reviewerStatus : ReviewerStatus}
    {proposed : ProposedFinding} :
    CarriesOver reviewerStatus proposed (derivedFinding review reviewerStatus proposed) where
  sameClaim := rfl
  sameSupport := rfl
  sameCalculations := rfl
  sameConfidence := rfl
  sameStatus := rfl
  distinct := contradictingFor_nodup
  valid := derivedFields_valid review reviewerStatus proposed

/-- `derive_findings` raises nothing, and makes one finding of each proposed one, in
order. -/
theorem deriveFindings_isTotal (analysis : AnalysisResult) (review : CriticReview)
    (reviewerStatus : ReviewerStatus) :
    ∃ findings, deriveFindings analysis review reviewerStatus = .ok findings ∧
      List.Forall₂ (CarriesOver reviewerStatus) analysis.findings findings := by
  refine ⟨_, deriveFindings_eq_ok analysis review reviewerStatus, ?_⟩
  rw [List.forall₂_map_right_iff, List.forall₂_same]
  intro proposed _
  exact carriesOver_derivedFinding

/-! ## The conflicts that are kept -/

/-- The analyst, or a verdict on the claim, names this evidence against it. -/
def NamedAgainst (review : CriticReview) (proposed : ProposedFinding) (identifier : UUID) :
    Prop :=
  identifier ∈ proposed.contradictingEvidenceIds ∨
    ∃ verdict ∈ review.verdicts, verdict.claim = proposed.claim ∧
      identifier ∈ verdict.conflictingEvidenceIds

/-- A finding keeps what was named against it. -/
structure KeepsConflicts (review : CriticReview) (proposed : ProposedFinding)
    (finding : Finding) : Prop where
  unsupported : ∀ identifier, NamedAgainst review proposed identifier →
    finding.criticVerdict ≠ .supported
  contradicted : ∀ identifier, NamedAgainst review proposed identifier →
    identifier ∉ proposed.supportingEvidenceIds →
      identifier ∈ finding.contradictingEvidenceIds

/-- The last verdict on a claim tells of all conflicts: what another verdict names, and the
finding does not rest on, the analyst or the last verdict names; and when the last verdict
is `supported` although some verdict names a conflict, it names one that the finding does
not rest on. -/
structure LastVerdictTells (review : CriticReview) (proposed : ProposedFinding) : Prop where
  named : ∀ verdict ∈ review.verdicts, verdict.claim = proposed.claim →
    ∀ identifier ∈ verdict.conflictingEvidenceIds,
      identifier ∉ proposed.supportingEvidenceIds →
        identifier ∈ proposed.contradictingEvidenceIds ∨
          ∃ last, verdictFor review proposed.claim = some last ∧
            identifier ∈ last.conflictingEvidenceIds
  supported : ∀ last, verdictFor review proposed.claim = some last →
    last.verdict = .supported →
      (∀ verdict ∈ review.verdicts, verdict.claim = proposed.claim →
        verdict.conflictingEvidenceIds = []) ∨
      ∃ identifier ∈ last.conflictingEvidenceIds,
        identifier ∉ proposed.supportingEvidenceIds

section Conflicts

variable {analysis : AnalysisResult} {review : CriticReview} {evidence : List EvidenceRecord}
  {reviewerStatus : ReviewerStatus} {proposed : ProposedFinding} {last : ClaimVerdict}

/-- When the last verdict supports the claim, only its own conflicts count against it. -/
theorem contradictingFor_of_supported (accepted : ReviewAccepted review analysis evidence)
    (isProposed : proposed ∈ analysis.findings)
    (found : verdictFor review proposed.claim = some last)
    (supported : last.verdict = .supported) {identifier : UUID} :
    identifier ∈ contradictingFor proposed (some last) ↔
      identifier ∈ last.conflictingEvidenceIds ∧
        identifier ∉ proposed.supportingEvidenceIds := by
  have uncontested : proposed.contradictingEvidenceIds = [] :=
    contradicting_eq_nil_of_supported accepted (verdictFor_mem found) supported isProposed
      (verdictFor_claim found).symm
  rw [mem_contradictingFor, uncontested]
  simp

theorem keepsConflicts_iff (accepted : ReviewAccepted review analysis evidence)
    (isProposed : proposed ∈ analysis.findings) :
    KeepsConflicts review proposed (derivedFinding review reviewerStatus proposed) ↔
      LastVerdictTells review proposed := by
  constructor
  · intro keeps
    constructor
    · intro verdict member onClaim identifier names outside
      have kept := keeps.contradicted identifier
        (Or.inr ⟨verdict, member, onClaim, names⟩) outside
      exact (mem_contradictingFor.mp kept).1
    · intro last found supported
      by_contra neither
      obtain ⟨someNames, allSupporting⟩ := not_or.mp neither
      apply someNames
      intro verdict member onClaim
      apply List.eq_nil_iff_forall_not_mem.mpr
      intro identifier names
      apply keeps.unsupported identifier (Or.inr ⟨verdict, member, onClaim, names⟩)
      apply recordedVerdict_eq_supported_iff.mpr
      refine ⟨⟨last, found, supported⟩, ?_⟩
      apply List.eq_nil_iff_forall_not_mem.mpr
      intro other against
      rw [found] at against
      have outside :=
        (contradictingFor_of_supported accepted isProposed found supported).mp against
      exact allSupporting ⟨other, outside⟩
  · intro tells
    constructor
    · intro identifier named recorded
      obtain ⟨⟨last, found, supported⟩, none⟩ := recordedVerdict_eq_supported_iff.mp recorded
      rw [found] at none
      rcases tells.supported last found supported with silent | ⟨other, names, outside⟩
      · rcases named with byAnalyst | ⟨verdict, member, onClaim, names⟩
        · rw [contradicting_eq_nil_of_supported accepted (verdictFor_mem found) supported
            isProposed (verdictFor_claim found).symm] at byAnalyst
          cases byAnalyst
        · rw [silent verdict member onClaim] at names
          cases names
      · have against := (contradictingFor_of_supported accepted isProposed found supported).mpr
          ⟨names, outside⟩
        rw [none] at against
        cases against
    · intro identifier named outside
      apply mem_contradictingFor.mpr
      refine ⟨?_, outside⟩
      rcases named with byAnalyst | ⟨verdict, member, onClaim, names⟩
      · exact Or.inl byAnalyst
      · exact tells.named verdict member onClaim identifier names outside

/-- For every review that `check_review` accepts, the findings keep every conflict exactly
when the last verdict on each proposed claim tells of all of them. -/
theorem findings_keepConflicts_iff (accepted : checkReview review analysis evidence = .ok ())
    (reviewerStatus : ReviewerStatus) :
    (∃ findings, deriveFindings analysis review reviewerStatus = .ok findings ∧
        List.Forall₂ (KeepsConflicts review) analysis.findings findings) ↔
      ∀ proposed ∈ analysis.findings, LastVerdictTells review proposed := by
  have isAccepted := checkReview_eq_ok_iff.mp accepted
  rw [deriveFindings_eq_ok]
  constructor
  · rintro ⟨findings, derived, keeps⟩ proposed member
    obtain rfl := Except.ok.inj derived
    rw [List.forall₂_map_right_iff, List.forall₂_same] at keeps
    exact (keepsConflicts_iff isAccepted member).mp (keeps proposed member)
  · intro tells
    refine ⟨_, rfl, ?_⟩
    rw [List.forall₂_map_right_iff, List.forall₂_same]
    intro proposed member
    exact (keepsConflicts_iff isAccepted member).mpr (tells proposed member)

end Conflicts

/-! ## A conflict that a later verdict drops -/

namespace ConflictingSupport

/-- The critic contradicts the claim with the evidence `2`, and then supports it. -/
def overwritten : CriticReview where
  verdicts := [exampleContradiction 2,
    exampleSupport ⟨"the other page gives this price", by decide⟩ none]
  verdictsInRange := by decide
  gapsBounded := noTexts_bounded

/-- The critic supports the claim and names the evidence `1`, on which it rests. -/
def withinSupport : CriticReview where
  verdicts := [exampleSupport ⟨"the page gives two prices", by decide⟩ (some 1)]
  verdictsInRange := by decide
  gapsBounded := noTexts_bounded

/-- The review is accepted, and its conflict is kept nowhere. -/
def DropsConflict (review : CriticReview) : Prop :=
  checkReview review analysis [record 1, record 2] = .ok () ∧
    ¬ ∃ findings, deriveFindings analysis review .notRequired = .ok findings ∧
      List.Forall₂ (KeepsConflicts review) analysis.findings findings

end ConflictingSupport

theorem findings_keepConflicts_iff_at_conflicting_support :
    (∃ findings, deriveFindings ConflictingSupport.analysis ConflictingSupport.review
        .notRequired = .ok findings ∧
          List.Forall₂ (KeepsConflicts ConflictingSupport.review)
            ConflictingSupport.analysis.findings findings) ↔
      ∀ proposed ∈ ConflictingSupport.analysis.findings,
        LastVerdictTells ConflictingSupport.review proposed :=
  findings_keepConflicts_iff ConflictingSupport.checked .notRequired

/-- Two accepted reviews whose conflict is not kept: a later verdict on the claim drops it,
or the claim rests on it. -/
theorem findings_dropConflicts :
    ConflictingSupport.DropsConflict ConflictingSupport.overwritten ∧
      ConflictingSupport.DropsConflict ConflictingSupport.withinSupport := by
  have dropped (identifier : UUID) {review : CriticReview} {proposed : ProposedFinding}
      (isProposed : proposed ∈ ConflictingSupport.analysis.findings)
      (named : NamedAgainst review proposed identifier)
      (recorded : (derivedFinding review .notRequired proposed).criticVerdict = .supported) :
      ¬ ∃ findings, deriveFindings ConflictingSupport.analysis review .notRequired =
          .ok findings ∧
        List.Forall₂ (KeepsConflicts review) ConflictingSupport.analysis.findings
          findings := by
    rintro ⟨findings, derived, keeps⟩
    rw [deriveFindings_eq_ok] at derived
    obtain rfl := Except.ok.inj derived
    rw [List.forall₂_map_right_iff, List.forall₂_same] at keeps
    exact (keeps proposed isProposed).unsupported identifier named recorded
  constructor
  · refine ⟨rfl, dropped 2 List.mem_cons_self (Or.inr ⟨_, List.mem_cons_self, rfl, ?_⟩) rfl⟩
    exact List.mem_singleton_self 2
  · refine ⟨rfl, dropped 1 List.mem_cons_self (Or.inr ⟨_, List.mem_cons_self, rfl, ?_⟩) rfl⟩
    exact List.mem_singleton_self 1

end ResearchPlatform
