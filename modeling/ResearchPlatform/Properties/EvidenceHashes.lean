import ResearchPlatform.Properties.EvidenceClearance

/-!
# Hashes of stored evidence

The API takes the hash of the excerpt that it stores, and research that of the excerpt
before it was normalized.  Normalizing a normalized text changes nothing, so every stored
hash is the hash of the stored excerpt.
-/

namespace ResearchPlatform

open Foundation

/-! ## Normalizing twice -/

/-- What is documented of NFC: a normalized text is left as it is, and so are its parts;
a blank is composed with nothing. -/
structure PythonText.Composes (python : PythonText) : Prop where
  again : ∀ text, python.nfc (python.nfc text) = python.nfc text
  part : ∀ {text part}, python.nfc text = text → part.toList <:+: text.toList →
    python.nfc part = part
  blank : ∀ left right,
    python.nfc (left ++ " " ++ right) = python.nfc left ++ " " ++ python.nfc right

namespace PythonText

variable {python : PythonText}

/-- Composed words stay composed when they are joined by blanks. -/
theorem Composes.joined (composes : python.Composes) {words : List (List Char)}
    (each : ∀ word ∈ words, python.nfc (String.ofList word) = String.ofList word) :
    python.nfc (String.ofList ([' '].intercalate words)) =
      String.ofList ([' '].intercalate words) := by
  induction words with
  | nil =>
      have empty : String.ofList ([' '].intercalate []) = "" := rfl
      rw [empty]
      exact composes.part (composes.again "") List.nil_infix
  | cons word rest inductionHypothesis =>
      have first := each word List.mem_cons_self
      have others := inductionHypothesis fun other member =>
        each other (List.mem_cons_of_mem word member)
      cases rest with
      | nil =>
          rw [List.intercalate_singleton]
          exact first
      | cons second later =>
          have joined : String.ofList ([' '].intercalate (word :: second :: later)) =
              String.ofList word ++ " " ++
                String.ofList ([' '].intercalate (second :: later)) := by
            rw [List.intercalate_cons_cons, String.ofList_append, String.ofList_append]
          rw [joined, composes.blank, first, others]

/-- A normalized text is its own normal form. -/
theorem Composes.normalizeText_normalizeText (composes : python.Composes) (text : String) :
    python.normalizeText (python.normalizeText text) = python.normalizeText text := by
  have words : ∀ word ∈ splitWords (python.nfc text).toList, word ≠ [] ∧
      ∀ char ∈ word, isWhitespace char = false := by
    intro word member
    obtain ⟨isWord, -, free⟩ := mem_splitWords member
    exact ⟨isWord, free⟩
  have composed : ∀ word ∈ splitWords (python.nfc text).toList,
      python.nfc (String.ofList word) = String.ofList word := by
    intro word member
    apply composes.part (composes.again text)
    rw [String.toList_ofList]
    exact (mem_splitWords member).2.1
  calc
    python.normalizeText (python.normalizeText text) =
        String.ofList ([' '].intercalate
          (splitWords (python.nfc (python.normalizeText text)).toList)) := rfl
    _ = String.ofList ([' '].intercalate
          (splitWords (python.normalizeText text).toList)) := by
      rw [normalizeText, composes.joined composed]
    _ = python.normalizeText text := by
      rw [normalizeText, String.toList_ofList, splitWords_intercalate words]

theorem Composes.hashContent_normalizeText (composes : python.Composes) (text : String) :
    python.hashContent (python.normalizeText text) = python.hashContent text := by
  rw [hashContent, composes.normalizeText_normalizeText, hashContent]

end PythonText

/-! ## Evidence with its hash -/

/-- The evidence carries the hash of its own excerpt. -/
def EvidenceRecordCreate.HashMatches (python : PythonText) (command : EvidenceRecordCreate) :
    Prop :=
  command.contentHash = python.hashContent command.excerpt.val

section Hashes

variable {python : PythonText}

/-- A verified record is hashed before its excerpt is normalized. -/
theorem ResearchActivities.Verified.hashMatches {activities : ResearchActivities}
    {job : ResearchJob} {task : ResearchTask} {submission : EvidenceSubmission}
    (verified : activities.Verified job task submission)
    (composes : activities.python.Composes) :
    ∀ record ∈ submission.records, record.HashMatches activities.python := by
  intro record member
  obtain ⟨principal, tools, claims, ledger, now, -, -, -, verified⟩ := verified
  obtain ⟨claim, -, observed, -, rests⟩ := restsOn_of_verifyClaims verified record member
  calc
    record.contentHash = activities.python.hashContent claim.excerpt.val := rests.sameHash
    _ = activities.python.hashContent (activities.python.normalizeText claim.excerpt.val) :=
      (composes.hashContent_normalizeText _).symm
    _ = activities.python.hashContent record.excerpt.val := by rw [rests.normalized]

end Hashes

namespace ResearchRecord

variable {python : PythonText} {state next : ResearchRecord}

/-- Every record that is stored or was returned carries the hash of its excerpt. -/
structure HashesMatch (python : PythonText) (state : ResearchRecord) : Prop where
  stored : ∀ {key record}, record ∈ state.repository.evidenceOf key →
    record.toEvidenceRecordCreate.HashMatches python
  returned : ∀ {job submission}, (job, submission) ∈ state.returned →
    ∀ record ∈ submission.records, record.HashMatches python

theorem hashesMatch_empty : HashesMatch python {} where
  stored := by simp [InMemoryJobRepository.evidenceOf]
  returned := by simp

/-- A write that leaves the evidence as it is. -/
theorem HashesMatch.sameEvidence (matching : state.HashesMatch python)
    (evidence : next.repository.evidence = state.repository.evidence)
    (returned : next.returned = state.returned) : next.HashesMatch python where
  stored := by
    intro key record member
    unfold InMemoryJobRepository.evidenceOf at member
    rw [evidence] at member
    exact matching.stored member
  returned := by
    rw [returned]
    exact matching.returned

/-- A record is appended that carries its hash. -/
theorem HashesMatch.append (matching : state.HashesMatch python) {record : EvidenceRecord}
    (ownHash : record.toEvidenceRecordCreate.HashMatches python) :
    HashesMatch python
      { state with repository := state.repository.appendEvidence record } where
  stored := by
    intro key other member
    rw [InMemoryJobRepository.evidenceOf_appendEvidence] at member
    rcases List.mem_append.mp member with earlier | added
    · exact matching.stored earlier
    · split at added
      · rw [List.mem_singleton.mp added]
        exact ownHash
      · cases added
  returned := matching.returned

/-- Every step keeps the hashes, when evidence comes from the API or from research. -/
theorem HashesMatch.step (composes : python.Composes) (matching : state.HashesMatch python)
    (step : Step python (fun _ => False) state next) : next.HashesMatch python := by
  cases step with
  | create created =>
      obtain ⟨rfl, rfl⟩ := Prod.mk.inj created
      exact matching.sameEvidence rfl rfl
  | read found => exact matching.sameEvidence rfl rfl
  | update member call revised updates =>
      rw [InMemoryJobRepository.update_eq_ok updates]
      exact matching.sameEvidence rfl rfl
  | recordInvocation invocation =>
      exact matching.sameEvidence (InMemoryJobRepository.evidence_recordInvocation ..) rfl
  | recordFindings recorded =>
      refine matching.sameEvidence ?_ rfl
      rw [JobActivities.eq_of_recordFindings recorded]
  | recordPublication recorded =>
      obtain ⟨_, -, rfl⟩ := map_eq_ok.mp recorded
      exact matching.sameEvidence rfl rfl
  | addEvidence allowed added => exact allowed.elim
  | attach attached =>
      obtain ⟨ownHash, rfl⟩ := Routes.eq_of_addEvidence attached
      exact matching.append ownHash
  | research samePython member submits =>
      refine ⟨matching.stored, ?_⟩
      intro other submission returned
      rcases List.mem_append.mp returned with earlier | last
      · exact matching.returned earlier
      · obtain ⟨rfl, rfl⟩ := Prod.mk.inj (List.mem_singleton.mp last)
        subst samePython
        exact submits.verified.hashMatches composes
  | collect returned submitted added =>
      have ownHash := matching.returned returned _ submitted
      rcases JobActivities.added_of_addEvidence added with ⟨-, rfl⟩ | added
      · exact matching
      · obtain ⟨rfl, rfl⟩ := ResearchJobService.eq_of_addEvidence added
        exact matching.append ownHash

end ResearchRecord

/-- In every state of the system of record, every stored record carries the hash of its
own excerpt. -/
theorem storedHashes_match {python : PythonText} (composes : python.Composes)
    {state : ResearchRecord}
    (reached : ResearchRecord.Reached python (fun _ => False) state) :
    ∀ key, ∀ record ∈ state.repository.evidenceOf key,
      record.contentHash = python.hashContent record.excerpt.val := by
  have matching := reached.invariant ResearchRecord.hashesMatch_empty fun matching step =>
    matching.step composes step
  intro key record member
  exact matching.stored member

namespace SumEvidence

open SumResearch

def excerpt : NonEmptyText := ⟨"the  sum is 42", by decide⟩

/-- Evidence by hand, with the hash of its excerpt. -/
def submitted : EvidenceRecordCreate where
  excerpt := excerpt
  sourceUri := ⟨"calculator", by decide⟩
  contentHash := activities.python.hashContent excerpt.val
  producingTaskId := 2
  toolInvocationId := 7

/-- NFC leaves texts without marks as they are. -/
theorem composes : activities.python.Composes where
  again _ := rfl
  part _ _ := rfl
  blank _ _ := rfl

theorem attaches : ∃ record repository,
    Routes.addEvidence activities.python created.repository identity 1 submitted 9 0 =
        .ok (record, repository) ∧
      repository.evidenceOf ("acme", 1) ≠ [] := by
  have accepted : (Routes.addEvidence activities.python created.repository identity 1
      submitted 9 0).toOption.any fun result => result.2.evidenceOf ("acme", 1) ≠ [] := by
    decide +kernel
  cases outcome : Routes.addEvidence activities.python created.repository identity 1
      submitted 9 0 with
  | ok result =>
      rw [outcome] at accepted
      exact ⟨result.1, result.2, rfl, of_decide_eq_true accepted⟩
  | error error =>
      rw [outcome] at accepted
      cases accepted

end SumEvidence

theorem storedHashes_match_at_sum :
    ∃ (repository : InMemoryJobRepository) (record : EvidenceRecord),
      record ∈ repository.evidenceOf ("acme", 1) ∧
        record.contentHash =
          SumResearch.activities.python.hashContent record.excerpt.val := by
  obtain ⟨_, repository, attached, isStored⟩ := SumEvidence.attaches
  have created : ResearchRecord.Reached SumResearch.activities.python (fun _ => False)
      SumResearch.created :=
    Relation.ReflTransGen.single (.create rfl)
  have matching := storedHashes_match SumEvidence.composes (created.tail (.attach attached))
  obtain ⟨record, member⟩ := List.exists_mem_of_ne_nil _ isStored
  exact ⟨repository, record, member, matching _ record member⟩

end ResearchPlatform
