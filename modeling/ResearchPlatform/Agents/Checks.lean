import ResearchPlatform.Agents.Contracts
import ResearchPlatform.Foundation.Outcome

/-!
# Checks against what the job recorded

A contract cannot tell whether its identifiers exist.  `checkAnalysis` and
`checkReview` compare an agent's output with the recorded evidence and raise
with one problem for each reference that does not hold.
-/

namespace ResearchPlatform

open Foundation

/-- `repr` of a list of texts that hold no quote. -/
def reprTexts (texts : List String) : String :=
  "[" ++ ", ".intercalate (texts.map fun text => "'" ++ text ++ "'") ++ "]"

/-- `_unknown`: the cited identifiers that are not known, as sorted text. -/
def unknownIdentifiers (cited known : List UUID) : List String :=
  ((cited.filter (· ∉ known)).dedup.map UUID.str).insertionSort (· ≤ ·)

theorem unknownIdentifiers_eq_nil_iff {cited known : List UUID} :
    unknownIdentifiers cited known = [] ↔
      ∀ identifier ∈ cited, identifier ∈ known := by
  unfold unknownIdentifiers
  rw [← List.length_eq_zero_iff, List.length_insertionSort, List.length_map,
    List.length_eq_zero_iff, List.dedup_eq_nil, List.filter_eq_nil_iff]
  simp

/-- Raise the problems joined into one message, if there are any. -/
def raiseProblems (problems : List String) : Except ValueError Unit :=
  if problems.isEmpty then .ok () else .error ⟨"; ".intercalate problems⟩

@[simp]
theorem raiseProblems_eq_ok {problems : List String} :
    raiseProblems problems = .ok () ↔ problems = [] := by
  unfold raiseProblems
  cases problems <;> simp

def checkAnalysis (analysis : AnalysisResult) (evidence : List EvidenceRecord) :
    Except ValueError Unit :=
  let known := evidence.map (·.id)
  raiseProblems
    (analysis.findings.zipIdx.flatMap (fun (finding, index) =>
      let unknown :=
        unknownIdentifiers
          (finding.supportingEvidenceIds ++ finding.contradictingEvidenceIds) known
      if unknown = [] then []
      else [s!"findings.{index}: cites evidence that was never recorded: " ++
        reprTexts unknown]) ++
    analysis.calculations.zipIdx.flatMap (fun (calculation, index) =>
      let unknown := unknownIdentifiers calculation.inputEvidenceIds known
      if unknown = [] then []
      else [s!"calculations.{index}: uses evidence that was never recorded: " ++
        reprTexts unknown]))

/-- The claims the analyst recorded evidence against. -/
def contestedClaims (analysis : AnalysisResult) : List NonEmptyText :=
  (analysis.findings.filter (!·.contradictingEvidenceIds.isEmpty)).map (·.claim)

/-- The problems of each verdict that judges another claim or names evidence
that was never recorded. -/
def verdictProblems (review : CriticReview) (proposed : List NonEmptyText)
    (known : List UUID) : List String :=
  review.verdicts.zipIdx.flatMap fun (verdict, index) =>
    let unknown := unknownIdentifiers verdict.conflictingEvidenceIds known
    (if verdict.claim ∈ proposed then []
      else [s!"verdicts.{index}: judges a claim the analyst did not propose; " ++
        "repeat each proposed claim word for word"]) ++
    (if unknown = [] then []
      else [s!"verdicts.{index}: names conflicting evidence that was never " ++
        "recorded: " ++ reprTexts unknown])

/-- The problems of each verdict that supports a contested claim. -/
def contestedProblems (review : CriticReview) (contested : List NonEmptyText) :
    List String :=
  review.verdicts.zipIdx.flatMap fun (verdict, index) =>
    if verdict.verdict = .supported ∧ verdict.claim ∈ contested then
      [s!"verdicts.{index}: the analyst recorded evidence contradicting this " ++
        "claim, so it cannot be marked supported; mark it contradicted and name " ++
        "that evidence, or unsupported"]
    else []

/-- The problems of each proposed claim that was given no verdict. -/
def unjudgedProblems (proposed judged : List NonEmptyText) : List String :=
  proposed.zipIdx.flatMap fun (claim, index) =>
    if claim ∈ judged then []
    else [s!"proposed finding {index} was given no verdict"]

def checkReview (review : CriticReview) (analysis : AnalysisResult)
    (evidence : List EvidenceRecord) : Except ValueError Unit :=
  let known := evidence.map (·.id)
  let proposed := analysis.findings.map (·.claim)
  let judged := review.verdicts.map (·.claim)
  raiseProblems
    (verdictProblems review proposed known ++
      contestedProblems review (contestedClaims analysis) ++
      unjudgedProblems proposed judged)

/-- A loop over a list that collects problems finds none exactly when no item
has one. -/
theorem flatMap_zipIdx_eq_nil_iff {Item : Type} {items : List Item}
    {problems : Item × Nat → List String} :
    items.zipIdx.flatMap problems = [] ↔
      ∀ item index, items[index]? = some item → problems (item, index) = [] := by
  rw [List.flatMap_eq_nil_iff]
  constructor
  · intro none item index atIndex
    exact none (item, index) (List.mem_zipIdx_iff_getElem?.mpr atIndex)
  · rintro none ⟨item, index⟩ member
    exact none item index (List.mem_zipIdx_iff_getElem?.mp member)

/-- What an accepted review satisfies: every verdict judges a proposed claim
from recorded evidence, no supported claim is contested, and every proposed
claim was judged. -/
structure ReviewAccepted (review : CriticReview) (analysis : AnalysisResult)
    (evidence : List EvidenceRecord) : Prop where
  judgesProposed : ∀ verdict ∈ review.verdicts,
    verdict.claim ∈ analysis.findings.map (·.claim)
  namesRecorded : ∀ verdict ∈ review.verdicts,
    ∀ identifier ∈ verdict.conflictingEvidenceIds,
      identifier ∈ evidence.map (·.id)
  supportsUncontested : ∀ verdict ∈ review.verdicts,
    verdict.verdict = .supported → verdict.claim ∉ contestedClaims analysis
  judgesAll : ∀ finding ∈ analysis.findings,
    finding.claim ∈ review.verdicts.map (·.claim)

/-- `check_review` accepts exactly the reviews that satisfy its four rules. -/
theorem checkReview_eq_ok_iff {review : CriticReview} {analysis : AnalysisResult}
    {evidence : List EvidenceRecord} :
    checkReview review analysis evidence = .ok () ↔
      ReviewAccepted review analysis evidence := by
  simp only [checkReview, raiseProblems_eq_ok, List.append_eq_nil_iff]
  constructor
  · rintro ⟨⟨verdicts, contested⟩, unjudged⟩
    rw [verdictProblems, flatMap_zipIdx_eq_nil_iff] at verdicts
    rw [contestedProblems, flatMap_zipIdx_eq_nil_iff] at contested
    rw [unjudgedProblems, flatMap_zipIdx_eq_nil_iff] at unjudged
    refine ⟨?_, ?_, ?_, ?_⟩
    · intro verdict member
      obtain ⟨index, atIndex⟩ := List.mem_iff_getElem?.mp member
      have noProblem := verdicts verdict index atIndex
      by_contra foreign
      simp [foreign] at noProblem
    · intro verdict member
      obtain ⟨index, atIndex⟩ := List.mem_iff_getElem?.mp member
      have noProblem := verdicts verdict index atIndex
      apply unknownIdentifiers_eq_nil_iff.mp
      by_contra unknown
      simp [unknown] at noProblem
    · intro verdict member supported isContested
      obtain ⟨index, atIndex⟩ := List.mem_iff_getElem?.mp member
      have noProblem := contested verdict index atIndex
      simp [supported, isContested] at noProblem
    · intro finding member
      have proposed :
          finding.claim ∈ analysis.findings.map (·.claim) :=
        List.mem_map_of_mem member
      obtain ⟨index, atIndex⟩ := List.mem_iff_getElem?.mp proposed
      have noProblem := unjudged finding.claim index atIndex
      by_contra notJudged
      simp [notJudged] at noProblem
  · intro accepted
    refine ⟨⟨?_, ?_⟩, ?_⟩
    · rw [verdictProblems, flatMap_zipIdx_eq_nil_iff]
      intro verdict index atIndex
      have member := List.mem_of_getElem? atIndex
      have known :=
        unknownIdentifiers_eq_nil_iff.mpr (accepted.namesRecorded verdict member)
      simp only [accepted.judgesProposed verdict member, known, if_true,
        List.append_nil]
    · rw [contestedProblems, flatMap_zipIdx_eq_nil_iff]
      intro verdict index atIndex
      have member := List.mem_of_getElem? atIndex
      have uncontested := accepted.supportsUncontested verdict member
      simp only [ite_eq_right_iff]
      rintro ⟨supported, isContested⟩
      exact absurd isContested (uncontested supported)
    · rw [unjudgedProblems, flatMap_zipIdx_eq_nil_iff]
      intro claim index atIndex
      obtain ⟨finding, member, rfl⟩ :=
        List.mem_map.mp (List.mem_of_getElem? atIndex)
      simp only [accepted.judgesAll finding member, if_true]

/-! ## Reports -/

/-- The cited identifiers whose record must not be published, as sorted text; of two
records with one identifier the later counts. -/
def restrictedCitations (cited : List UUID) (evidence : List EvidenceRecord) :
    List String :=
  ((cited.filter fun identifier =>
      (evidence.reverse.find? (·.id = identifier)).any
        (!·.isPublishable)).dedup.map UUID.str).insertionSort (· ≤ ·)

theorem restrictedCitations_eq_nil_iff {cited : List UUID}
    {evidence : List EvidenceRecord} :
    restrictedCitations cited evidence = [] ↔
      ∀ identifier ∈ cited, ∀ record ∈ evidence.reverse.find? (·.id = identifier),
        record.isPublishable = true := by
  unfold restrictedCitations
  rw [← List.length_eq_zero_iff, List.length_insertionSort, List.length_map,
    List.length_eq_zero_iff, List.dedup_eq_nil, List.filter_eq_nil_iff]
  simp [Option.any_eq_true]

/-- `check_report`; a citation that is no UUID raises on its own. -/
def checkReport (report : ResearchReport) (evidence : List EvidenceRecord) :
    Except ValueError Unit := do
  let cited ← report.citedEvidenceIds
  let unknown := unknownIdentifiers cited (evidence.map (·.id))
  let restricted := restrictedCitations cited evidence
  raiseProblems
    ((if unknown = [] then []
      else ["cites evidence that was never recorded: " ++ reprTexts unknown]) ++
    (if restricted = [] then []
      else ["cites restricted evidence that must not be published: " ++
        reprTexts restricted]))

/-- `check_report` accepts exactly the reports whose citations are all of recorded
evidence that may be published. -/
theorem checkReport_eq_ok_iff {report : ResearchReport}
    {evidence : List EvidenceRecord} :
    checkReport report evidence = .ok () ↔
      ∃ cited, report.citedEvidenceIds = .ok cited ∧ ∀ identifier ∈ cited,
        ∃ record, evidence.reverse.find? (·.id = identifier) = some record ∧
          record.isPublishable = true := by
  have accepts {cited : List UUID} :
      (unknownIdentifiers cited (evidence.map (·.id)) = [] ∧
          restrictedCitations cited evidence = []) ↔
        ∀ identifier ∈ cited,
          ∃ record, evidence.reverse.find? (·.id = identifier) = some record ∧
            record.isPublishable = true := by
    rw [unknownIdentifiers_eq_nil_iff, restrictedCitations_eq_nil_iff, ← forall₂_and]
    apply forall₂_congr
    intro identifier _
    cases found : evidence.reverse.find? (·.id = identifier) with
    | none =>
        have unknown : identifier ∉ evidence.map (·.id) := by
          intro known
          obtain ⟨record, member, isIt⟩ := List.mem_map.mp known
          have none := List.find?_eq_none.mp found record (List.mem_reverse.mpr member)
          exact none (decide_eq_true isIt)
        simp [unknown]
    | some record =>
        have known : identifier ∈ evidence.map (·.id) := by
          have isIt : record.id = identifier := by simpa using List.find?_some found
          have member := List.mem_reverse.mp (List.mem_of_find?_eq_some found)
          exact List.mem_map.mpr ⟨record, member, isIt⟩
        simp [known]
  unfold checkReport
  constructor
  · intro accepted
    obtain ⟨cited, cites, raises⟩ := bind_eq_ok.mp accepted
    refine ⟨cited, cites, accepts.mp ?_⟩
    simpa using raises
  · rintro ⟨cited, cites, all⟩
    refine bind_eq_ok.mpr ⟨cited, cites, ?_⟩
    obtain ⟨noneUnknown, noneRestricted⟩ := accepts.mpr all
    rw [noneUnknown, noneRestricted]
    rfl

end ResearchPlatform
