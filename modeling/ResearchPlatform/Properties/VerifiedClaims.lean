import ResearchPlatform.Properties.ResponsesContained

/-!
# What `verify_claims` accepts

A researcher's claims are accepted together or not at all.  They are accepted when each
quotes a tool call, no two have one hash and every record fits; otherwise the message names
the claims that are to blame, each once and in order.
-/

namespace ResearchPlatform

open Foundation

/-- What is said of a claim that is to blame, with these before it. -/
inductive Complaint (python : PythonText) (ledger : EvidenceLedger)
    (before : List EvidenceClaim) (claim : EvidenceClaim) (index : Nat) : String → Prop
  | namesNoCall (missing : ledger.get? claim.toolInvocationId = none) :
      Complaint python ledger before claim index
        (s!"claims.{index}: {claim.toolInvocationId.str} is not a tool call " ++
          "this task made; cite the tool_invocation_id printed at the top of a tool " ++
          "result")
  | doesNotOccur {observed : ObservedContent}
      (found : ledger.get? claim.toolInvocationId = some observed)
      (absent : ¬ python.Occurs claim.excerpt.val observed.text) :
      Complaint python ledger before claim index
        (s!"claims.{index}: the excerpt does not appear in the output of " ++
          s!"tool call {claim.toolInvocationId.str}; quote the result exactly")
  | repeats {observed content : ObservedContent} {other : EvidenceClaim}
      (quotes : Quotes python ledger claim observed) (earlier : other ∈ before)
      (quoted : Quotes python ledger other content)
      (sameHash : python.hashContent other.excerpt.val = python.hashContent claim.excerpt.val) :
      Complaint python ledger before claim index
        s!"claims.{index}: the same excerpt was submitted more than once"

/-- What all the claims have to meet. -/
structure Verifiable (python : PythonText) (ledger : EvidenceLedger) (taskId : UUID)
    (now : Nat → Timestamp) (claims : List EvidenceClaim) : Prop where
  quoted : ∀ claim ∈ claims, ∃ observed, Quotes python ledger claim observed
  distinct : (claims.map fun claim => python.hashContent claim.excerpt.val).Nodup
  fits : ∀ before claim after, claims = before ++ claim :: after →
    ∀ observed, Quotes python ledger claim observed →
      (claim.document python taskId observed).FieldsFit ∧
        (claim.document python taskId observed).Past (now before.length)

/-- The record of a claim: the normalized excerpt and its hash, and what the ledger has of
the call. -/
def VerifiedAs (python : PythonText) (ledger : EvidenceLedger) (taskId : UUID)
    (claim : EvidenceClaim) (command : EvidenceRecordCreate) : Prop :=
  ∃ observed, Quotes python ledger claim observed ∧
    RestsOn python taskId claim observed command ∧
      command.contentHash = sha256Text command.excerpt.val

/-- Every record that is built fits. -/
abbrev AllSettled (python : PythonText) (ledger : EvidenceLedger) (taskId : UUID)
    (now : Nat → Timestamp) : List EvidenceClaim → List EvidenceClaim → Prop :=
  EverySplit (Settled python ledger taskId now)

/-- The claims to blame, each once and in order, with what is said of it. -/
structure ListsBlamed (python : PythonText) (ledger : EvidenceLedger)
    (before claims : List EvidenceClaim) (listed : List (Nat × String)) : Prop where
  ordered : (listed.map Prod.fst).Pairwise (· < ·)
  exactly : ∀ index problem, (index, problem) ∈ listed ↔
    SomeSplit (fun first claim => first.length = index ∧
      Complaint python ledger first claim index problem) before claims

section Loop

variable {python : PythonText} {ledger : EvidenceLedger} {taskId : UUID}
  {now : Nat → Timestamp} {before claims : List EvidenceClaim} {seen : List DigestText}
  {claim : EvidenceClaim} {index : Nat} {reading : Timestamp} {problem : String}
  {listed : List (Nat × String)} {observed : ObservedContent}

/-! ## One claim -/

theorem complaint_of_judgeClaim (seenOf : SeenOf python ledger before seen)
    (judged : judgeClaim python ledger taskId seen claim index reading = .ok (.inl problem)) :
    Complaint python ledger before claim index problem := by
  unfold judgeClaim at judged
  cases found : ledger.get? claim.toolInvocationId with
  | none =>
      rw [found] at judged
      obtain rfl := Sum.inl.inj (Except.ok.inj judged)
      exact .namesNoCall found
  | some observed =>
      rw [found] at judged
      dsimp only at judged
      by_cases occurs : python.Occurs claim.excerpt.val observed.text
      · rw [if_neg (not_not.mpr occurs)] at judged
        by_cases repeated : python.hashContent claim.excerpt.val ∈ seen
        · rw [if_pos repeated] at judged
          obtain rfl := Sum.inl.inj (Except.ok.inj judged)
          obtain ⟨other, earlier, sameHash, content, quoted⟩ := (seenOf _).mp repeated
          exact .repeats ⟨found, occurs⟩ earlier quoted sameHash
        · rw [if_neg repeated] at judged
          obtain ⟨command, -, impossible⟩ := map_eq_ok.mp judged
          cases impossible
      · rw [if_pos occurs] at judged
        obtain rfl := Sum.inl.inj (Except.ok.inj judged)
        exact .doesNotOccur found occurs

/-- A claim is not recorded and blamed. -/
theorem Recorded.not_complaint (recorded : Recorded python ledger before claim observed) :
    ¬ Complaint python ledger before claim index problem := by
  intro complaint
  obtain ⟨cited, occurs⟩ := recorded.quotes
  cases complaint with
  | namesNoCall missing =>
      rw [missing] at cited
      cases cited
  | doesNotOccur found absent =>
      rw [← Option.some.inj (cited.symm.trans found)] at absent
      exact absent occurs
  | repeats quotes earlier quoted sameHash =>
      exact recorded.first _ earlier sameHash _ quoted

/-- A claim is blamed in one way. -/
theorem Complaint.unique {other : String}
    (first : Complaint python ledger before claim index problem)
    (second : Complaint python ledger before claim index other) : problem = other := by
  cases first with
  | namesNoCall missing =>
      cases second with
      | namesNoCall => rfl
      | doesNotOccur found absent =>
          rw [missing] at found
          cases found
      | repeats quotes =>
          have found := quotes.1
          rw [missing] at found
          cases found
  | doesNotOccur found absent =>
      cases second with
      | namesNoCall missing =>
          rw [found] at missing
          cases missing
      | doesNotOccur => rfl
      | repeats quotes =>
          rw [Option.some.inj (found.symm.trans quotes.1)] at absent
          exact absurd quotes.2 absent
  | repeats quotes =>
      cases second with
      | namesNoCall missing =>
          rw [quotes.1] at missing
          cases missing
      | doesNotOccur found absent =>
          rw [Option.some.inj (found.symm.trans quotes.1)] at absent
          exact absurd quotes.2 absent
      | repeats => rfl

/-- A record that was made is the one that is specified. -/
theorem verifiedAs_of_validate {command : EvidenceRecordCreate}
    (quotes : Quotes python ledger claim observed)
    (validated : EvidenceRecordCreate.validate reading (claim.document python taskId observed) =
      .ok command) : VerifiedAs python ledger taskId claim command := by
  rw [← verifiedRecord_eq_validate] at validated
  have rests := restsOn_of_verifiedRecord quotes.2 validated
  refine ⟨observed, quotes, rests, ?_⟩
  rw [rests.sameHash, rests.normalized, PythonText.hashContent]

/-! ## The list of the blamed -/

theorem listsBlamed_nil : ListsBlamed python ledger before [] [] := by
  refine ⟨List.Pairwise.nil, ?_⟩
  intro index problem
  refine iff_of_false (List.not_mem_nil) not_someSplit_nil

theorem ListsBlamed.later (lists : ListsBlamed python ledger before claims listed) :
    ∀ entry ∈ listed, before.length ≤ entry.1 := by
  rintro ⟨index, problem⟩ member
  obtain ⟨middle, claim, after, -, same, -⟩ := (lists.exactly index problem).mp member
  rw [← same, List.length_append]
  exact Nat.le_add_right _ _

theorem ListsBlamed.blame
    (complaint : Complaint python ledger before claim before.length problem)
    (rest : ListsBlamed python ledger (before ++ [claim]) claims listed) :
    ListsBlamed python ledger before (claim :: claims) ((before.length, problem) :: listed) := by
  constructor
  · rw [List.map_cons, List.pairwise_cons]
    refine ⟨?_, rest.ordered⟩
    intro index member
    obtain ⟨entry, inRest, rfl⟩ := List.mem_map.mp member
    have later := rest.later entry inRest
    rw [List.length_append, List.length_singleton] at later
    exact later
  · intro index other
    rw [someSplit_cons, List.mem_cons, rest.exactly]
    apply or_congr_left
    constructor
    · intro same
      obtain ⟨rfl, rfl⟩ := Prod.mk.inj same
      exact ⟨rfl, complaint⟩
    · rintro ⟨rfl, again⟩
      rw [complaint.unique again]

theorem ListsBlamed.skip (recorded : Recorded python ledger before claim observed)
    (rest : ListsBlamed python ledger (before ++ [claim]) claims listed) :
    ListsBlamed python ledger before (claim :: claims) listed := by
  refine ⟨rest.ordered, ?_⟩
  intro index problem
  rw [someSplit_cons, rest.exactly, or_iff_right]
  rintro ⟨-, complaint⟩
  exact recorded.not_complaint complaint

/-! ## The loop -/

/-- The loop ends exactly when every record that it builds fits.  Then it lists the blamed;
and when it blames no claim, it has a record of each.  The induction is on the claims that
are left. -/
theorem judgeClaims_ok (seenOf : SeenOf python ledger before seen)
    (settled : AllSettled python ledger taskId now before claims) :
    ∃ listed records,
      judgeClaims python ledger taskId now (claims.zipIdx before.length) seen =
          .ok (listed.map Prod.snd, records) ∧
        ListsBlamed python ledger before claims listed ∧
          (listed = [] → List.Forall₂ (VerifiedAs python ledger taskId) claims records) := by
  induction claims generalizing before seen with
  | nil => exact ⟨[], [], rfl, listsBlamed_nil, fun _ => .nil⟩
  | cons claim rest inductionHypothesis =>
      obtain ⟨settledFirst, settledRest⟩ := everySplit_cons.mp settled
      have next : before.length + 1 = (before ++ [claim]).length := by simp
      rw [List.zipIdx_cons, judgeClaims, next]
      rcases @judgeClaim_cases python ledger taskId before seen claim before.length
          (now before.length) seenOf with
        ⟨problem, judged, -, seenLater⟩ | ⟨observed, recorded, judged, seenLater⟩
      · obtain ⟨listed, records, others, lists, -⟩ := inductionHypothesis seenLater settledRest
        have complaint := complaint_of_judgeClaim seenOf judged
        refine ⟨(before.length, problem) :: listed, records, ?_, lists.blame complaint,
          fun isEmpty => by cases isEmpty⟩
        rw [judged]
        apply bind_eq_ok.mpr ⟨_, rfl, ?_⟩
        exact bind_eq_ok.mpr ⟨_, others, rfl⟩
      · obtain ⟨command, validated⟩ := exists_validate.mpr (settledFirst observed recorded)
        have sameHash : command.contentHash = python.hashContent claim.excerpt.val :=
          Subtype.ext (contentHash_of_validate validated)
        rw [← sameHash] at seenLater
        obtain ⟨listed, records, others, lists, clean⟩ :=
          inductionHypothesis seenLater settledRest
        refine ⟨listed, command :: records, ?_, lists.skip recorded, ?_⟩
        · rw [judged, validated]
          apply bind_eq_ok.mpr ⟨_, rfl, ?_⟩
          exact bind_eq_ok.mpr ⟨_, others, rfl⟩
        · intro none
          exact .cons (verifiedAs_of_validate recorded.quotes validated) (clean none)

theorem settled_of_judgeClaims {result : List String × List EvidenceRecordCreate}
    (seenOf : SeenOf python ledger before seen)
    (judged : judgeClaims python ledger taskId now (claims.zipIdx before.length) seen =
      .ok result) : AllSettled python ledger taskId now before claims := by
  induction claims generalizing before seen result with
  | nil => exact everySplit_nil
  | cons claim rest inductionHypothesis =>
      have next : before.length + 1 = (before ++ [claim]).length := by simp
      rw [List.zipIdx_cons, judgeClaims, next] at judged
      rw [AllSettled, everySplit_cons]
      rcases @judgeClaim_cases python ledger taskId before seen claim before.length
          (now before.length) seenOf with
        ⟨problem, first, unrecorded, seenLater⟩ | ⟨observed, recorded, first, seenLater⟩
      · rw [first] at judged
        obtain ⟨judgement, same, later⟩ := bind_eq_ok.mp judged
        obtain rfl := Except.ok.inj same
        obtain ⟨both, others, -⟩ := bind_eq_ok.mp later
        refine ⟨?_, inductionHypothesis seenLater others⟩
        exact fun observed recorded => absurd recorded (unrecorded observed)
      · rw [first] at judged
        obtain ⟨judgement, made, later⟩ := bind_eq_ok.mp judged
        obtain ⟨command, validated, rfl⟩ := map_eq_ok.mp made
        have sameHash : command.contentHash = python.hashContent claim.excerpt.val :=
          Subtype.ext (contentHash_of_validate validated)
        rw [← sameHash] at seenLater
        obtain ⟨both, others, -⟩ := bind_eq_ok.mp later
        exact ⟨(settled_iff recorded).mpr (exists_validate.mp ⟨command, validated⟩),
          inductionHypothesis seenLater others⟩

/-! ## All claims -/

/-- Claims that are recorded one after the other are verifiable. -/
theorem verifiable_iff :
    Verifiable python ledger taskId now claims ↔
      EverySplit (fun before claim => ∃ observed, Recorded python ledger before claim observed)
          [] claims ∧
        AllSettled python ledger taskId now [] claims := by
  constructor
  · rintro ⟨quoted, distinct, fits⟩
    have apart := everySplit_related.mpr (List.pairwise_map.mp distinct)
    constructor
    · intro before claim after whole
      obtain ⟨observed, quotes⟩ := quoted claim (by rw [whole]; simp)
      refine ⟨observed, quotes, ?_⟩
      intro other earlier same
      exact absurd same (apart before claim after whole other earlier)
    · intro before claim after whole observed recorded
      exact fits before claim after whole observed recorded.quotes
  · rintro ⟨recorded, settled⟩
    have quoted : ∀ claim ∈ claims, ∃ observed, Quotes python ledger claim observed := by
      intro claim member
      obtain ⟨before, after, whole⟩ := List.append_of_mem member
      obtain ⟨observed, isRecorded⟩ := recorded before claim after whole
      exact ⟨observed, isRecorded.quotes⟩
    refine ⟨quoted, ?_, ?_⟩
    · apply List.pairwise_map.mpr
      apply everySplit_related.mp
      intro before claim after whole other earlier same
      obtain ⟨observed, isRecorded⟩ := recorded before claim after whole
      have member : other ∈ claims := by
        rw [whole]
        exact List.mem_append_left _ earlier
      obtain ⟨content, quotes⟩ := quoted other member
      exact isRecorded.first other earlier same content quotes
    · intro before claim after whole observed quotes
      obtain ⟨content, isRecorded⟩ := recorded before claim after whole
      have sameContent := Option.some.inj (isRecorded.quotes.1.symm.trans quotes.1)
      rw [← sameContent]
      exact settled before claim after whole content isRecorded

/-- A claim that is not blamed is recorded. -/
theorem exists_recorded_or_complaint :
    (∃ observed, Recorded python ledger before claim observed) ∨
      ∃ problem, Complaint python ledger before claim index problem := by
  cases found : ledger.get? claim.toolInvocationId with
  | none => exact Or.inr ⟨_, .namesNoCall found⟩
  | some observed =>
      by_cases occurs : python.Occurs claim.excerpt.val observed.text
      · by_cases repeated : ∃ other ∈ before, python.hashContent other.excerpt.val =
            python.hashContent claim.excerpt.val ∧ ∃ content, Quotes python ledger other content
        · obtain ⟨other, earlier, same, content, quoted⟩ := repeated
          exact Or.inr ⟨_, .repeats ⟨found, occurs⟩ earlier quoted same⟩
        · refine Or.inl ⟨observed, ⟨found, occurs⟩, ?_⟩
          intro other earlier same content quoted
          exact repeated ⟨other, earlier, same, content, quoted⟩
      · exact Or.inr ⟨_, .doesNotOccur found occurs⟩

/-- Nothing is listed exactly when every claim is recorded. -/
theorem ListsBlamed.eq_nil_iff (lists : ListsBlamed python ledger before claims listed) :
    listed = [] ↔ EverySplit (fun first claim =>
      ∃ observed, Recorded python ledger first claim observed) before claims := by
  constructor
  · rintro rfl middle claim after whole
    rcases @exists_recorded_or_complaint python ledger (before ++ middle) claim
        (before ++ middle).length with recorded | ⟨problem, complaint⟩
    · exact recorded
    · have impossible := (lists.exactly (before ++ middle).length problem).mpr
        ⟨middle, claim, after, whole, rfl, complaint⟩
      cases impossible
  · intro recorded
    apply List.eq_nil_iff_forall_not_mem.mpr
    rintro ⟨index, problem⟩ member
    obtain ⟨middle, claim, after, whole, -, complaint⟩ := (lists.exactly index problem).mp member
    obtain ⟨observed, isRecorded⟩ := recorded middle claim after whole
    exact isRecorded.not_complaint complaint

end Loop

section Verification

variable {python : PythonText} {claims : EvidenceClaims} {ledger : EvidenceLedger}
  {taskId : UUID} {now : Nat → Timestamp}

theorem seenOf_nothing : SeenOf python ledger [] [] := by simp [SeenOf]

/-- The hashes of verified records are those of their claims. -/
theorem hashes_of_verifiedAs {items : List EvidenceClaim} {records : List EvidenceRecordCreate}
    (verified : List.Forall₂ (VerifiedAs python ledger taskId) items records) :
    records.map (·.contentHash) = items.map fun claim => python.hashContent claim.excerpt.val := by
  induction verified with
  | nil => rfl
  | cons first rest inductionHypothesis =>
      obtain ⟨observed, quotes, rests, same⟩ := first
      rw [List.map_cons, List.map_cons, inductionHypothesis, rests.sameHash]

/-- Verifiable claims become a submission, record by record. -/
theorem verifyClaims_of_verifiable
    (verifiable : Verifiable python ledger taskId now claims.claims) :
    ∃ submission, verifyClaims python claims ledger taskId now = .ok submission ∧
      List.Forall₂ (VerifiedAs python ledger taskId) claims.claims submission.records ∧
        submission.unmetRequirements = claims.unmetRequirements := by
  obtain ⟨recorded, settled⟩ := verifiable_iff.mp verifiable
  obtain ⟨listed, records, judged, lists, clean⟩ := judgeClaims_ok seenOf_nothing settled
  have none := lists.eq_nil_iff.mpr recorded
  have verified := clean none
  have inRange := claims.claimsInRange
  rw [verified.length_eq] at inRange
  have valid : (1 ≤ records.length ∧ records.length ≤ 100) ∧
      claims.unmetRequirements.length ≤ 20 ∧ (records.map (·.contentHash)).Nodup := by
    rw [hashes_of_verifiedAs verified]
    exact ⟨inRange, claims.unmetBounded, verifiable.distinct⟩
  refine ⟨⟨records, claims.unmetRequirements, valid.1, valid.2.1, valid.2.2⟩, ?_, verified, rfl⟩
  apply bind_eq_ok.mpr ⟨_, judged, ?_⟩
  dsimp only
  rw [none, List.map_nil, if_neg (not_not.mpr rfl), mapError_eq_ok, EvidenceSubmission.validate,
    dif_pos valid]

theorem verifiable_of_verifyClaims {submission : EvidenceSubmission}
    (verified : verifyClaims python claims ledger taskId now = .ok submission) :
    Verifiable python ledger taskId now claims.claims := by
  obtain ⟨both, judged, accepted⟩ := bind_eq_ok.mp verified
  have settled := settled_of_judgeClaims seenOf_nothing judged
  obtain ⟨listed, records, again, lists, -⟩ := judgeClaims_ok seenOf_nothing settled
  obtain rfl := Except.ok.inj (judged.symm.trans again)
  refine verifiable_iff.mpr ⟨lists.eq_nil_iff.mp ?_, settled⟩
  by_contra some
  dsimp only at accepted
  rw [if_pos (mt List.map_eq_nil_iff.mp some)] at accepted
  cases accepted

/-- When every record fits, claims that are refused are refused with the list of the
blamed. -/
theorem verifyClaims_blames (settled : AllSettled python ledger taskId now [] claims.claims)
    (refused : ¬ Verifiable python ledger taskId now claims.claims) :
    ∃ listed, listed ≠ [] ∧ ListsBlamed python ledger [] claims.claims listed ∧
      verifyClaims python claims ledger taskId now =
        .error (.unverifiable ("; ".intercalate (listed.map Prod.snd))) := by
  obtain ⟨listed, records, judged, lists, -⟩ := judgeClaims_ok seenOf_nothing settled
  have some : listed ≠ [] := by
    intro none
    exact refused (verifiable_iff.mpr ⟨lists.eq_nil_iff.mp none, settled⟩)
  refine ⟨listed, some, lists, ?_⟩
  apply bind_eq_error.mpr (Or.inr ⟨_, judged, ?_⟩)
  exact if_pos (mt List.map_eq_nil_iff.mp some)

/-- `verify_claims` returns exactly for verifiable claims, with one record each and the unmet
requirements as they are; else it raises, and when every record fits, with a message that
lists the blamed. -/
theorem verifyClaims_meetsSpecification (python : PythonText) (claims : EvidenceClaims)
    (ledger : EvidenceLedger) (taskId : UUID) (now : Nat → Timestamp) :
    ((∃ submission, verifyClaims python claims ledger taskId now = .ok submission) ↔
      Verifiable python ledger taskId now claims.claims) ∧
    (∀ submission, verifyClaims python claims ledger taskId now = .ok submission →
      List.Forall₂ (VerifiedAs python ledger taskId) claims.claims submission.records ∧
        submission.unmetRequirements = claims.unmetRequirements) ∧
    (¬ Verifiable python ledger taskId now claims.claims →
      (∃ error, verifyClaims python claims ledger taskId now = .error error) ∧
      (AllSettled python ledger taskId now [] claims.claims →
        ∃ listed, listed ≠ [] ∧ ListsBlamed python ledger [] claims.claims listed ∧
          verifyClaims python claims ledger taskId now =
            .error (.unverifiable ("; ".intercalate (listed.map Prod.snd))))) := by
  have returns : (∃ submission, verifyClaims python claims ledger taskId now = .ok submission) ↔
      Verifiable python ledger taskId now claims.claims := by
    constructor
    · rintro ⟨submission, verified⟩
      exact verifiable_of_verifyClaims verified
    · intro verifiable
      obtain ⟨submission, verified, -⟩ := verifyClaims_of_verifiable verifiable
      exact ⟨submission, verified⟩
  refine ⟨returns, ?_, ?_⟩
  · intro submission verified
    obtain ⟨other, again, described⟩ :=
      verifyClaims_of_verifiable (verifiable_of_verifyClaims verified)
    rwa [← Except.ok.inj (verified.symm.trans again)] at described
  · intro refused
    refine ⟨?_, fun settled => verifyClaims_blames settled refused⟩
    cases outcome : verifyClaims python claims ledger taskId now with
    | ok submission => exact absurd (returns.mp ⟨submission, outcome⟩) refused
    | error error => exact ⟨error, rfl⟩

end Verification

open SumResearch

theorem verifyClaims_meetsSpecification_at_sum :
    ∃ submission, verifyClaims activities.python claims sumLedger 2 (fun _ => 0) =
        .ok submission ∧
      List.Forall₂ (VerifiedAs activities.python sumLedger 2) claims.claims submission.records := by
  have returned :
      (verifyClaims activities.python claims sumLedger 2 fun _ => 0).isOk = true := by
    decide +kernel
  have specified :=
    (verifyClaims_meetsSpecification activities.python claims sumLedger 2 fun _ => 0).2.1
  cases outcome : verifyClaims activities.python claims sumLedger 2 fun _ => 0 with
  | error error =>
      rw [outcome] at returned
      cases returned
  | ok submission => exact ⟨submission, rfl, (specified submission outcome).1⟩

end ResearchPlatform
