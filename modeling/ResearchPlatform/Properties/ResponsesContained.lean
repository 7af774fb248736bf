import ResearchPlatform.Foundation.Outcome
import ResearchPlatform.Foundation.Splits
import ResearchPlatform.Properties.EvidenceClearance

/-!
# Responses stay in the correction loop

The loop corrects a response that raises a `ValueError`.  A publication date without a time
zone raises a `TypeError` instead, and these are the responses that get there.
-/

namespace ResearchPlatform

open Foundation Program

/-! ## Exceptions -/

/-- The computation raises an exception that is no `ValueError`. -/
def EscapesWith {α : Type} (outcome : Except ProvenanceError α) : Prop :=
  ∃ message, outcome = .error (.typeError message)

section EscapesWith

variable {α β : Type}

instance (outcome : Except ProvenanceError α) : Decidable (EscapesWith outcome) :=
  match outcome with
  | .error (.typeError message) => isTrue ⟨message, rfl⟩
  | .error (.invalid _) => isFalse fun ⟨_, impossible⟩ => by cases impossible
  | .error (.unverifiable _) => isFalse fun ⟨_, impossible⟩ => by cases impossible
  | .ok _ => isFalse fun ⟨_, impossible⟩ => by cases impossible

theorem escapesWith_bind {first : Except ProvenanceError α}
    {next : α → Except ProvenanceError β} :
    EscapesWith (first >>= next) ↔
      EscapesWith first ∨ ∃ value, first = .ok value ∧ EscapesWith (next value) := by
  constructor
  · rintro ⟨message, raised⟩
    rcases bind_eq_error.mp raised with here | ⟨value, found, later⟩
    · exact Or.inl ⟨message, here⟩
    · exact Or.inr ⟨value, found, message, later⟩
  · rintro (⟨message, here⟩ | ⟨value, found, message, later⟩)
    · exact ⟨message, bind_eq_error.mpr (Or.inl here)⟩
    · exact ⟨message, bind_eq_error.mpr (Or.inr ⟨value, found, later⟩)⟩

theorem escapesWith_map {outcome : Except ProvenanceError α} {change : α → β} :
    EscapesWith (outcome.map change) ↔ EscapesWith outcome := by
  unfold EscapesWith
  simp only [map_eq_error]

/-- A pydantic error is a `ValueError`. -/
theorem not_escapesWith_invalid {outcome : Except ValidationError α} :
    ¬ EscapesWith (outcome.mapError ProvenanceError.invalid) := by
  rintro ⟨message, raised⟩
  obtain ⟨error, -, impossible⟩ := mapError_eq_error.mp raised
  cases impossible

theorem not_escapesWith_ok {value : α} :
    ¬ EscapesWith (.ok value : Except ProvenanceError α) := by
  rintro ⟨message, impossible⟩
  cases impossible

theorem escapesWith_bind_pure {first : Except ProvenanceError α} {change : α → β} :
    EscapesWith (first >>= fun value => pure (change value)) ↔ EscapesWith first := by
  rw [escapesWith_bind]
  refine or_iff_left ?_
  rintro ⟨value, -, escapes⟩
  exact not_escapesWith_ok escapes

/-- A field that is checked before the rest. -/
theorem escapesWith_field {field : Except ValidationError α}
    {next : α → Except ProvenanceError β} :
    EscapesWith (field.mapError .invalid >>= next) ↔
      ∃ value, field = .ok value ∧ EscapesWith (next value) := by
  rw [escapesWith_bind, or_iff_right not_escapesWith_invalid]
  simp only [mapError_eq_ok]

end EscapesWith

/-! ## Records -/

namespace EvidenceRecordDocument

variable (document : EvidenceRecordDocument)

/-- Every field keeps its limits. -/
structure FieldsFit : Prop where
  excerpt : 1 ≤ document.excerpt.length ∧ document.excerpt.length ≤ 4000
  sourceUri : 1 ≤ document.sourceUri.length ∧ document.sourceUri.length ≤ 4000
  title : ∀ title ∈ document.title, title.length ≤ 500
  author : ∀ author ∈ document.author, author.length ≤ 200
  contentHash : document.contentHash.toList.take 7 = "sha256:".toList ∧
    document.contentHash.toList.length = 71 ∧
      (document.contentHash.toList.drop 7).all isLowerHex = true

/-- The document has a publication date without a time zone. -/
def LacksZone : Prop := ∃ date ∈ document.publishedAt, date.hasZone = false

/-- A publication date has a time zone and lies not in the future. -/
def Past (now : Timestamp) : Prop :=
  ∀ date ∈ document.publishedAt, date.hasZone = true ∧ date.micros ≤ now

end EvidenceRecordDocument

section Records

variable {document : EvidenceRecordDocument} {now : Timestamp}

theorem exists_nonEmptyText {field text : String} :
    (∃ value, NonEmptyText.validate field text = .ok value) ↔
      1 ≤ text.length ∧ text.length ≤ 4000 := by
  unfold NonEmptyText.validate
  by_cases fits : 1 ≤ text.length ∧ text.length ≤ 4000
  · rw [dif_pos fits]
    exact ⟨fun _ => fits, fun _ => ⟨_, rfl⟩⟩
  · rw [dif_neg fits]
    refine ⟨?_, fun impossible => absurd impossible fits⟩
    rintro ⟨value, accepted⟩
    split at accepted <;> cases accepted

theorem exists_boundedText {limit : Nat} {field : String} {text : Option String} :
    (∃ value, BoundedText.validate limit field text = .ok value) ↔
      ∀ value ∈ text, value.length ≤ limit := by
  cases text with
  | none => exact ⟨fun _ => by simp, fun _ => ⟨none, rfl⟩⟩
  | some text =>
      unfold BoundedText.validate
      by_cases fits : text.length ≤ limit
      · simp [fits]
      · simp [fits]

theorem exists_digestText {field text : String} :
    (∃ value, DigestText.validate field text = .ok value) ↔
      text.toList.take 7 = "sha256:".toList ∧ text.toList.length = 71 ∧
        (text.toList.drop 7).all isLowerHex = true := by
  unfold DigestText.validate
  by_cases isDigest : text.toList.take 7 = "sha256:".toList ∧ text.toList.length = 71 ∧
      (text.toList.drop 7).all isLowerHex = true
  · rw [dif_pos isDigest]
    exact ⟨fun _ => isDigest, fun _ => ⟨_, rfl⟩⟩
  · rw [dif_neg isDigest]
    refine ⟨?_, fun impossible => absurd impossible isDigest⟩
    rintro ⟨value, accepted⟩
    cases accepted

theorem escapesWith_checkPublicationDate {date : Option DateTime} :
    EscapesWith (checkPublicationDate now date) ↔ ∃ value ∈ date, value.hasZone = false := by
  cases date with
  | none =>
      refine ⟨fun escapes => absurd escapes not_escapesWith_ok, ?_⟩
      rintro ⟨value, impossible, -⟩
      cases impossible
  | some date =>
      unfold checkPublicationDate EscapesWith
      cases zoned : date.hasZone with
      | false => simp [zoned]
      | true =>
          by_cases future : now < date.micros
          · simp [zoned, future]
          · simp [zoned, future]

/-- A type-correct document raises a `TypeError` exactly when its fields keep their limits
and its publication date has no time zone. -/
theorem escapesWith_validate :
    EscapesWith (EvidenceRecordCreate.validate now document) ↔
      document.FieldsFit ∧ document.LacksZone := by
  have constructed {date : Option Timestamp → EvidenceRecordCreate} :
      EscapesWith (checkPublicationDate now document.publishedAt >>= fun publishedAt =>
        pure (date publishedAt)) ↔ document.LacksZone := by
    rw [escapesWith_bind_pure, escapesWith_checkPublicationDate]
    rfl
  unfold EvidenceRecordCreate.validate
  simp only [escapesWith_field, constructed]
  constructor
  · rintro ⟨_, excerpt, _, sourceUri, _, title, _, author, _, contentHash, lacksZone⟩
    exact ⟨⟨exists_nonEmptyText.mp ⟨_, excerpt⟩, exists_nonEmptyText.mp ⟨_, sourceUri⟩,
      exists_boundedText.mp ⟨_, title⟩, exists_boundedText.mp ⟨_, author⟩,
      exists_digestText.mp ⟨_, contentHash⟩⟩, lacksZone⟩
  · rintro ⟨fits, lacksZone⟩
    obtain ⟨_, excerpt⟩ := exists_nonEmptyText.mpr fits.excerpt
    obtain ⟨_, sourceUri⟩ := exists_nonEmptyText.mpr fits.sourceUri
    obtain ⟨_, title⟩ := exists_boundedText.mpr fits.title
    obtain ⟨_, author⟩ := exists_boundedText.mpr fits.author
    obtain ⟨_, contentHash⟩ := exists_digestText.mpr fits.contentHash
    exact ⟨_, excerpt, _, sourceUri, _, title, _, author, _, contentHash, lacksZone⟩

theorem checkPublicationDate_eq_ok {date : Option DateTime} {published : Option Timestamp} :
    checkPublicationDate now date = .ok published ↔
      (∀ value ∈ date, value.hasZone = true ∧ value.micros ≤ now) ∧
        date.map (·.micros) = published := by
  cases date with
  | none => simp [checkPublicationDate]
  | some date =>
      unfold checkPublicationDate
      cases zoned : date.hasZone with
      | false => simp [zoned]
      | true =>
          by_cases future : now < date.micros
          · simp [zoned, future]
          · simp [zoned, not_lt.mp future, future]

/-- A document becomes a record exactly when its fields keep their limits and its date is
past. -/
theorem exists_validate :
    (∃ command, EvidenceRecordCreate.validate now document = .ok command) ↔
      document.FieldsFit ∧ document.Past now := by
  constructor
  · rintro ⟨command, validated⟩
    obtain ⟨_, excerpt, validated⟩ := bind_eq_ok.mp validated
    obtain ⟨_, sourceUri, validated⟩ := bind_eq_ok.mp validated
    obtain ⟨_, title, validated⟩ := bind_eq_ok.mp validated
    obtain ⟨_, author, validated⟩ := bind_eq_ok.mp validated
    obtain ⟨_, contentHash, validated⟩ := bind_eq_ok.mp validated
    obtain ⟨_, dated, -⟩ := bind_eq_ok.mp validated
    refine ⟨⟨?_, ?_, ?_, ?_, ?_⟩, (checkPublicationDate_eq_ok.mp dated).1⟩
    · exact exists_nonEmptyText.mp ⟨_, mapError_eq_ok.mp excerpt⟩
    · exact exists_nonEmptyText.mp ⟨_, mapError_eq_ok.mp sourceUri⟩
    · exact exists_boundedText.mp ⟨_, mapError_eq_ok.mp title⟩
    · exact exists_boundedText.mp ⟨_, mapError_eq_ok.mp author⟩
    · exact exists_digestText.mp ⟨_, mapError_eq_ok.mp contentHash⟩
  · rintro ⟨fits, past⟩
    obtain ⟨_, excerpt⟩ := exists_nonEmptyText.mpr fits.excerpt
    obtain ⟨_, sourceUri⟩ := exists_nonEmptyText.mpr fits.sourceUri
    obtain ⟨_, title⟩ := exists_boundedText.mpr fits.title
    obtain ⟨_, author⟩ := exists_boundedText.mpr fits.author
    obtain ⟨_, contentHash⟩ := exists_digestText.mpr fits.contentHash
    have dated := checkPublicationDate_eq_ok.mpr ⟨past, rfl⟩
    exact ⟨_, bind_eq_ok.mpr ⟨_, mapError_eq_ok.mpr excerpt,
      bind_eq_ok.mpr ⟨_, mapError_eq_ok.mpr sourceUri,
        bind_eq_ok.mpr ⟨_, mapError_eq_ok.mpr title,
          bind_eq_ok.mpr ⟨_, mapError_eq_ok.mpr author,
            bind_eq_ok.mpr ⟨_, mapError_eq_ok.mpr contentHash,
              bind_eq_ok.mpr ⟨_, dated, rfl⟩⟩⟩⟩⟩⟩⟩

end Records

/-! ## Claims -/

/-- The claim quotes what a tool call of the task returned. -/
def Quotes (python : PythonText) (ledger : EvidenceLedger) (claim : EvidenceClaim)
    (observed : ObservedContent) : Prop :=
  ledger.get? claim.toolInvocationId = some observed ∧
    python.Occurs claim.excerpt.val observed.text

/-- A record is constructed for the claim, with these before it: it quotes a tool call,
and it is the first to do so with its hash. -/
structure Recorded (python : PythonText) (ledger : EvidenceLedger)
    (before : List EvidenceClaim) (claim : EvidenceClaim) (observed : ObservedContent) :
    Prop where
  quotes : Quotes python ledger claim observed
  first : ∀ other ∈ before,
    python.hashContent other.excerpt.val = python.hashContent claim.excerpt.val →
      ∀ content, ¬ Quotes python ledger other content

/-- The record of the claim meets a date without a time zone. -/
def Undated (python : PythonText) (ledger : EvidenceLedger) (taskId : UUID)
    (before : List EvidenceClaim) (claim : EvidenceClaim) : Prop :=
  ∃ observed, Recorded python ledger before claim observed ∧
    (claim.document python taskId observed).FieldsFit ∧
    (claim.document python taskId observed).LacksZone

/-- The claim needs no record, or it gets one. -/
def Settled (python : PythonText) (ledger : EvidenceLedger) (taskId : UUID)
    (now : Nat → Timestamp) (before : List EvidenceClaim) (claim : EvidenceClaim) : Prop :=
  ∀ observed, Recorded python ledger before claim observed →
    (claim.document python taskId observed).FieldsFit ∧
      (claim.document python taskId observed).Past (now before.length)

/-- The first claim whose record is refused has a date without a time zone, and nothing
else that is wrong. -/
def UndatedClaims (python : PythonText) (ledger : EvidenceLedger) (taskId : UUID)
    (now : Nat → Timestamp) (claims : List EvidenceClaim) : Prop :=
  FailsFirst (Undated python ledger taskId) (Settled python ledger taskId now) [] claims

/-- The hashes are those of the claims that quoted something. -/
def SeenOf (python : PythonText) (ledger : EvidenceLedger) (before : List EvidenceClaim)
    (seen : List DigestText) : Prop :=
  ∀ hash, hash ∈ seen ↔ ∃ other ∈ before, python.hashContent other.excerpt.val = hash ∧
    ∃ content, Quotes python ledger other content

section Claims

variable {python : PythonText} {ledger : EvidenceLedger} {taskId : UUID}
  {now later : Nat → Timestamp} {before : List EvidenceClaim} {seen : List DigestText}
  {claim : EvidenceClaim} {index : Nat} {reading : Timestamp}

theorem SeenOf.snoc (seenOf : SeenOf python ledger before seen) {observed : ObservedContent}
    (quotes : Quotes python ledger claim observed) :
    SeenOf python ledger (before ++ [claim]) (python.hashContent claim.excerpt.val :: seen) := by
  intro hash
  rw [List.mem_cons, seenOf hash]
  constructor
  · rintro (rfl | ⟨other, member, same, quoted⟩)
    · exact ⟨claim, by simp, rfl, observed, quotes⟩
    · exact ⟨other, List.mem_append_left _ member, same, quoted⟩
  · rintro ⟨other, member, same, quoted⟩
    rcases List.mem_append.mp member with earlier | last
    · exact Or.inr ⟨other, earlier, same, quoted⟩
    · rw [List.mem_singleton.mp last] at same
      exact Or.inl same.symm

theorem SeenOf.skip (seenOf : SeenOf python ledger before seen)
    (known : ∀ observed, Quotes python ledger claim observed →
      python.hashContent claim.excerpt.val ∈ seen) :
    SeenOf python ledger (before ++ [claim]) seen := by
  intro hash
  constructor
  · intro member
    obtain ⟨other, earlier, same, quoted⟩ := (seenOf hash).mp member
    exact ⟨other, List.mem_append_left _ earlier, same, quoted⟩
  · rintro ⟨other, member, same, content, quotes⟩
    rcases List.mem_append.mp member with earlier | last
    · exact (seenOf hash).mpr ⟨other, earlier, same, content, quotes⟩
    · rw [List.mem_singleton.mp last] at same quotes
      exact same ▸ known content quotes

/-- A claim is refused without a record, or its record is constructed. -/
theorem judgeClaim_cases (seenOf : SeenOf python ledger before seen) :
    (∃ problem, judgeClaim python ledger taskId seen claim index reading = .ok (.inl problem) ∧
      (∀ observed, ¬ Recorded python ledger before claim observed) ∧
      SeenOf python ledger (before ++ [claim]) seen) ∨
    ∃ observed, Recorded python ledger before claim observed ∧
      judgeClaim python ledger taskId seen claim index reading =
        (EvidenceRecordCreate.validate reading (claim.document python taskId observed)).map .inr ∧
      SeenOf python ledger (before ++ [claim])
        (python.hashContent claim.excerpt.val :: seen) := by
  unfold judgeClaim
  cases found : ledger.get? claim.toolInvocationId with
  | none =>
      have noQuote : ∀ observed, ¬ Quotes python ledger claim observed := by
        rintro observed ⟨cited, -⟩
        rw [found] at cited
        cases cited
      exact Or.inl ⟨_, rfl, fun observed recorded => noQuote observed recorded.quotes,
        seenOf.skip fun observed quotes => absurd quotes (noQuote observed)⟩
  | some observed =>
      dsimp only
      by_cases occurs : python.Occurs claim.excerpt.val observed.text
      · have quotes : Quotes python ledger claim observed := ⟨found, occurs⟩
        by_cases repeated : python.hashContent claim.excerpt.val ∈ seen
        · rw [if_neg (not_not.mpr occurs), if_pos repeated]
          refine Or.inl ⟨_, rfl, ?_, seenOf.skip fun _ _ => repeated⟩
          intro other recorded
          obtain ⟨earlier, member, same, content, quoted⟩ := (seenOf _).mp repeated
          exact recorded.first earlier member same content quoted
        · rw [if_neg (not_not.mpr occurs), if_neg repeated, verifiedRecord_eq_validate]
          refine Or.inr ⟨observed, ⟨quotes, ?_⟩, rfl, seenOf.snoc quotes⟩
          intro other member same content quoted
          exact repeated ((seenOf _).mpr ⟨other, member, same, content, quoted⟩)
      · rw [if_pos occurs]
        have noQuote : ∀ other, ¬ Quotes python ledger claim other := by
          rintro other ⟨cited, within⟩
          obtain rfl := Option.some.inj (found.symm.trans cited)
          exact occurs within
        exact Or.inl ⟨_, rfl, fun other recorded => noQuote other recorded.quotes,
          seenOf.skip fun other quotes => absurd quotes (noQuote other)⟩

theorem Recorded.observed_eq {observed other : ObservedContent}
    (recorded : Recorded python ledger before claim observed)
    (again : Recorded python ledger before claim other) : other = observed :=
  Option.some.inj (again.quotes.1.symm.trans recorded.quotes.1)

theorem undated_iff {observed : ObservedContent}
    (recorded : Recorded python ledger before claim observed) :
    Undated python ledger taskId before claim ↔
      (claim.document python taskId observed).FieldsFit ∧
        (claim.document python taskId observed).LacksZone := by
  constructor
  · rintro ⟨other, again, refused⟩
    rwa [recorded.observed_eq again] at refused
  · exact fun refused => ⟨observed, recorded, refused⟩

theorem settled_iff {observed : ObservedContent}
    (recorded : Recorded python ledger before claim observed) :
    Settled python ledger taskId now before claim ↔
      (claim.document python taskId observed).FieldsFit ∧
        (claim.document python taskId observed).Past (now before.length) := by
  constructor
  · exact fun settled => settled observed recorded
  · intro passes other again
    rwa [recorded.observed_eq again]

/-- The record of a claim carries the hash of its document. -/
theorem contentHash_of_validate {document : EvidenceRecordDocument}
    {command : EvidenceRecordCreate}
    (validated : EvidenceRecordCreate.validate reading document = .ok command) :
    command.contentHash.val = document.contentHash := by
  obtain ⟨_, -, validated⟩ := bind_eq_ok.mp validated
  obtain ⟨_, -, validated⟩ := bind_eq_ok.mp validated
  obtain ⟨_, -, validated⟩ := bind_eq_ok.mp validated
  obtain ⟨_, -, validated⟩ := bind_eq_ok.mp validated
  obtain ⟨digest, isDigest, validated⟩ := bind_eq_ok.mp validated
  obtain ⟨_, -, validated⟩ := bind_eq_ok.mp validated
  have digested := mapError_eq_ok.mp isDigest
  unfold DigestText.validate at digested
  split at digested
  · rw [← Except.ok.inj validated, ← Except.ok.inj digested]
  · cases digested

/-- The loop raises a `TypeError` exactly when the first claim whose record is refused has
a date without a time zone.  The induction is on the claims that are left. -/
theorem escapesWith_judgeClaims {claims : List EvidenceClaim}
    (seenOf : SeenOf python ledger before seen) :
    EscapesWith (judgeClaims python ledger taskId now (claims.zipIdx before.length) seen) ↔
      FailsFirst (Undated python ledger taskId) (Settled python ledger taskId now) before
        claims := by
  induction claims generalizing before seen with
  | nil => exact iff_of_false not_escapesWith_ok not_failsFirst_nil
  | cons claim rest inductionHypothesis =>
      have next : before.length + 1 = (before ++ [claim]).length := by simp
      rw [failsFirst_cons, List.zipIdx_cons, judgeClaims, next]
      rcases @judgeClaim_cases python ledger taskId before seen claim before.length
          (now before.length) seenOf with
        ⟨problem, judged, unrecorded, seenOf⟩ | ⟨observed, recorded, judged, seenOf⟩
      · rw [judged]
        have notHere : ¬ Undated python ledger taskId before claim := by
          rintro ⟨observed, recorded, -⟩
          exact unrecorded observed recorded
        have settled : Settled python ledger taskId now before claim :=
          fun observed recorded => absurd recorded (unrecorded observed)
        rw [or_iff_right notHere, and_iff_right settled, ← inductionHypothesis seenOf]
        exact escapesWith_bind_pure
      · rw [judged, undated_iff recorded, settled_iff recorded, ← escapesWith_validate,
          ← exists_validate]
        cases validated : EvidenceRecordCreate.validate (now before.length)
            (claim.document python taskId observed) with
        | error error =>
            have escapes : EscapesWith (Except.error error : Except ProvenanceError
                EvidenceRecordCreate) ↔ ∃ message, error = .typeError message := by
              simp [EscapesWith]
            have here : EscapesWith (Except.error error : Except ProvenanceError
                (List String × List EvidenceRecordCreate)) ↔
                  ∃ message, error = .typeError message := by
              simp [EscapesWith]
            simp only [reduceCtorEq, exists_false, false_and, or_false]
            exact here.trans escapes.symm
        | ok command =>
            have sameHash : command.contentHash = python.hashContent claim.excerpt.val :=
              Subtype.ext (contentHash_of_validate validated)
            have made : ∃ record, Except.ok command = (.ok record : Except ProvenanceError
                EvidenceRecordCreate) := ⟨command, rfl⟩
            rw [or_iff_right not_escapesWith_ok, and_iff_right made, ← inductionHypothesis seenOf,
              ← sameHash]
            exact escapesWith_bind_pure

/-- `verify_claims` raises a `TypeError` exactly for such claims. -/
theorem escapesWith_verifyClaims {claims : EvidenceClaims} :
    EscapesWith (verifyClaims python claims ledger taskId now) ↔
      UndatedClaims python ledger taskId now claims.claims := by
  have nothing : SeenOf python ledger [] [] := by simp [SeenOf]
  rw [UndatedClaims, ← escapesWith_judgeClaims nothing, verifyClaims, escapesWith_bind]
  refine or_iff_left ?_
  rintro ⟨⟨problems, records⟩, -, escapes⟩
  dsimp only at escapes
  split at escapes
  · obtain ⟨message, impossible⟩ := escapes
    cases impossible
  · exact not_escapesWith_invalid escapes

/-! ## A later reading of the clock -/

theorem validate_later {document : EvidenceRecordDocument} {command : EvidenceRecordCreate}
    {after : Timestamp} (notBefore : reading ≤ after)
    (validated : EvidenceRecordCreate.validate reading document = .ok command) :
    EvidenceRecordCreate.validate after document = .ok command := by
  obtain ⟨_, excerpt, validated⟩ := bind_eq_ok.mp validated
  obtain ⟨_, sourceUri, validated⟩ := bind_eq_ok.mp validated
  obtain ⟨_, title, validated⟩ := bind_eq_ok.mp validated
  obtain ⟨_, author, validated⟩ := bind_eq_ok.mp validated
  obtain ⟨_, contentHash, validated⟩ := bind_eq_ok.mp validated
  obtain ⟨published, dated, validated⟩ := bind_eq_ok.mp validated
  obtain ⟨past, same⟩ := checkPublicationDate_eq_ok.mp dated
  have dated : checkPublicationDate after document.publishedAt = .ok published := by
    refine checkPublicationDate_eq_ok.mpr ⟨?_, same⟩
    intro date isDate
    exact ⟨(past date isDate).1, (past date isDate).2.trans notBefore⟩
  exact bind_eq_ok.mpr ⟨_, excerpt, bind_eq_ok.mpr ⟨_, sourceUri, bind_eq_ok.mpr ⟨_, title,
    bind_eq_ok.mpr ⟨_, author, bind_eq_ok.mpr ⟨_, contentHash,
      bind_eq_ok.mpr ⟨_, dated, validated⟩⟩⟩⟩⟩⟩

theorem judgeClaim_later {judgement : Judgement} {after : Timestamp}
    (notBefore : reading ≤ after)
    (judged : judgeClaim python ledger taskId seen claim index reading = .ok judgement) :
    judgeClaim python ledger taskId seen claim index after = .ok judgement := by
  unfold judgeClaim at judged ⊢
  split at judged
  · exact judged
  · split at judged
    · rename_i absent
      rwa [if_pos absent]
    · rename_i occurs
      rw [if_neg occurs]
      split at judged
      · rename_i repeated
        rwa [if_pos repeated]
      · rename_i fresh
        rw [if_neg fresh]
        obtain ⟨command, built, same⟩ := map_eq_ok.mp judged
        rw [verifiedRecord_eq_validate] at built ⊢
        exact map_eq_ok.mpr ⟨command, validate_later notBefore built, same⟩

theorem judgeClaims_later (notBefore : ∀ index, now index ≤ later index)
    {claims : List (EvidenceClaim × Nat)} {both : List String × List EvidenceRecordCreate}
    (judged : judgeClaims python ledger taskId now claims seen = .ok both) :
    judgeClaims python ledger taskId later claims seen = .ok both := by
  induction claims generalizing seen both with
  | nil => exact judged
  | cons head rest inductionHypothesis =>
      obtain ⟨claim, index⟩ := head
      unfold judgeClaims at judged ⊢
      obtain ⟨judgement, first, judged⟩ := bind_eq_ok.mp judged
      refine bind_eq_ok.mpr ⟨judgement, judgeClaim_later (notBefore index) first, ?_⟩
      cases judgement with
      | inl problem =>
          obtain ⟨others, found, same⟩ := bind_eq_ok.mp judged
          exact bind_eq_ok.mpr ⟨others, inductionHypothesis found, same⟩
      | inr command =>
          obtain ⟨others, found, same⟩ := bind_eq_ok.mp judged
          exact bind_eq_ok.mpr ⟨others, inductionHypothesis found, same⟩

/-- Claims that were verified are verified again while the clock is not set back. -/
theorem verifyClaims_later (notBefore : ∀ index, now index ≤ later index)
    {claims : EvidenceClaims} {submission : EvidenceSubmission}
    (verified : verifyClaims python claims ledger taskId now = .ok submission) :
    verifyClaims python claims ledger taskId later = .ok submission := by
  obtain ⟨both, judged, rest⟩ := bind_eq_ok.mp verified
  exact bind_eq_ok.mpr ⟨both, judgeClaims_later notBefore judged, rest⟩

end Claims

/-! ## Judgements -/

/-- The response is well formed, and its claims meet a date without a time zone. -/
def UndatedResponse (activities : ResearchActivities) (taskId : UUID) (ledger : EvidenceLedger)
    (now : Nat → Timestamp) (raw : String) : Prop :=
  ∃ claims, activities.claims.parseAgentOutput raw = .ok claims ∧
    UndatedClaims activities.python ledger taskId now claims.claims

section Judgements

variable {activities : ResearchActivities} {task : ResearchTask} {tools : List CapabilityTool}
  {state : ContractState} {now : Nat → Timestamp}

/-- Parsing raises nothing but a `ValueError`. -/
theorem parseAgentOutput_ne_other {α : Type} {contract : Contract α} {raw message : String} :
    contract.parseAgentOutput raw ≠ .error (.other message) := by
  intro raised
  unfold Contract.parseAgentOutput at raised
  dsimp only at raised
  split at raised
  · cases raised
  · split at raised
    · cases raised
    · obtain ⟨error, -, impossible⟩ := mapError_eq_error.mp raised
      cases impossible

theorem check_eq_other {message : String} :
    (activities.researchFlow task tools).check state now = .error (.other message) ↔
      ∃ claims, activities.claims.parseAgentOutput state.raw = .ok claims ∧
        verifyClaims activities.python claims state.ledger task.id now =
          .error (.typeError message) := by
  constructor
  · intro raised
    rcases bind_eq_error.mp raised with parsing | ⟨claims, parsed, raised⟩
    · exact absurd parsing parseAgentOutput_ne_other
    · refine ⟨claims, parsed, ?_⟩
      rcases bind_eq_error.mp raised with verifying | ⟨_, -, impossible⟩
      · unfold ResearchActivities.researchFlow at verifying
        dsimp only at verifying
        split at verifying
        · cases verifying
        · rename_i error refused
          rw [refused]
          cases error with
          | unverifiable text => cases verifying
          | invalid text => cases verifying
          | typeError text =>
              obtain rfl := ResponseError.other.inj (Except.error.inj verifying)
              rfl
      · cases impossible
  · rintro ⟨claims, parsed, raised⟩
    refine bind_eq_error.mpr (Or.inr ⟨claims, parsed, ?_⟩)
    refine bind_eq_error.mpr (Or.inl ?_)
    unfold ResearchActivities.researchFlow
    dsimp only
    rw [raised]
    rfl

theorem judge_eq_error {error : ResponseError} :
    (activities.researchFlow task tools).judge state now = .error error ↔
      ∃ message, error = .other message ∧
        (activities.researchFlow task tools).check state now = .error (.other message) := by
  unfold AgentContractFlow.judge
  cases (activities.researchFlow task tools).check state now with
  | ok claims => simp
  | error raised => cases raised <;> simp [eq_comm]

/-- `judge` ends no attempt exactly when the response is such a one. -/
theorem judge_escapes_iff :
    (∃ error, (activities.researchFlow task tools).judge state now = .error error) ↔
      UndatedResponse activities task.id state.ledger now state.raw := by
  constructor
  · rintro ⟨error, raised⟩
    obtain ⟨message, -, checked⟩ := judge_eq_error.mp raised
    obtain ⟨claims, parsed, escapes⟩ := check_eq_other.mp checked
    exact ⟨claims, parsed, escapesWith_verifyClaims.mp ⟨message, escapes⟩⟩
  · rintro ⟨claims, parsed, undated⟩
    obtain ⟨message, escapes⟩ := escapesWith_verifyClaims.mpr undated
    exact ⟨_, judge_eq_error.mpr ⟨message, rfl, check_eq_other.mpr ⟨claims, parsed, escapes⟩⟩⟩

/-- Claims that are accepted were verified. -/
theorem verified_of_judge {claims : EvidenceClaims}
    (accepted : (activities.researchFlow task tools).judge state now = .ok (.accepted claims)) :
    ∃ submission,
      verifyClaims activities.python claims state.ledger task.id now = .ok submission := by
  have checked : (activities.researchFlow task tools).check state now = .ok claims := by
    unfold AgentContractFlow.judge at accepted
    split at accepted
    · rename_i parsed found
      obtain rfl := Judged.accepted.inj (Except.ok.inj accepted)
      exact found
    · unfold AgentContractFlow.refuse at accepted
      split at accepted <;> cases accepted
    · unfold AgentContractFlow.refuse at accepted
      split at accepted <;> cases accepted
    · cases accepted
  obtain ⟨parsed, -, rest⟩ := bind_eq_ok.mp checked
  obtain ⟨_, verified, same⟩ := bind_eq_ok.mp rest
  obtain rfl := Except.ok.inj same
  unfold ResearchActivities.researchFlow at verified
  dsimp only at verified
  split at verified
  · rename_i submission found
    exact ⟨submission, found⟩
  · cases verified

end Judgements

/-! ## Runs -/

/-- What a research step has been answered so far. -/
structure StepAnswers where
  ledger : EvidenceLedger := ∅
  raw : String := ""
  read : Option (Nat → Timestamp) := none
  raised : List AgentFault := []

abbrev AgentEvent : Type := Event AgentCall AgentCall.Answer AgentFault

/-- What is noted of one answer. -/
def StepAnswers.observe (answers : StepAnswers) : AgentEvent → StepAnswers
  | ⟨_, .error fault⟩ => { answers with raised := fault :: answers.raised }
  | ⟨.kickoff _ _, .ok turn⟩ =>
      { answers with ledger := turn.recordIn answers.ledger, raw := turn.raw }
  | ⟨.utcNow, .ok now⟩ => { answers with read := some now }
  | _ => answers

/-- The response does not get a `TypeError` raised, and the clock is not set back. -/
def StepAnswers.Dated (activities : ResearchActivities) (taskId : UUID)
    (answers : StepAnswers) : AgentEvent → Prop
  | ⟨.utcNow, .ok now⟩ =>
      ¬ UndatedResponse activities taskId answers.ledger now answers.raw ∧
        ∀ earlier ∈ answers.read, ∀ index, earlier index ≤ now index
  | _ => True

def datedResponses (activities : ResearchActivities) (taskId : UUID) :
    Monitor AgentCall AgentCall.Answer AgentFault StepAnswers where
  observe := StepAnswers.observe
  admits := StepAnswers.Dated activities taskId

/-- The fault ends the corrections, or a call of the step raised it. -/
def Explained (fault : AgentFault) (answers : StepAnswers) : Prop :=
  (∃ name attempts failures, fault = .correctionExhausted name attempts failures) ∨
    fault ∈ answers.raised

/-- A flow ends with claims that were verified at the last reading, or with a fault that is
explained. -/
def FlowEnd.Sound (activities : ResearchActivities) (taskId : UUID)
    (ended : FlowEnd EvidenceClaims) (answers : StepAnswers) : Prop :=
  match ended.outcome with
  | .ok claims => ∃ now submission, answers.read = some now ∧
      verifyClaims activities.python claims ended.state.ledger taskId now = .ok submission
  | .error fault => Explained fault answers

section Runs

variable {activities : ResearchActivities} {job : ResearchJob} {task : ResearchTask}
  {tools : List CapabilityTool} {state : ContractState} {answers : StepAnswers}

/-- One attempt ends soundly when the corrections after it do. -/
theorem ensures_attempt {correct : ContractState → String → AgentStep (FlowEnd EvidenceClaims)}
    {message : String}
    (corrects : ∀ state message answers, answers.ledger = state.ledger →
      Ensures (datedResponses activities task.id) (correct state message) answers
        fun outcome last => ∃ ended, outcome = .ok ended ∧ ended.Sound activities task.id last)
    (sameLedger : answers.ledger = state.ledger) :
    Ensures (datedResponses activities task.id)
      ((activities.researchFlow task tools).attempt correct state message) answers
      fun outcome last => ∃ ended, outcome = .ok ended ∧ ended.Sound activities task.id last := by
  intro turn _
  cases turn with
  | error fault => exact ⟨_, rfl, Or.inr List.mem_cons_self⟩
  | ok turn =>
      intro now admitted
      cases now with
      | error fault => exact ⟨_, rfl, Or.inr List.mem_cons_self⟩
      | ok now =>
          obtain ⟨dated, -⟩ := admitted
          have ledgers : turn.recordIn answers.ledger = turn.recordIn state.ledger :=
            congrArg turn.recordIn sameLedger
          have notUndated : ¬ UndatedResponse activities task.id
              (turn.recordIn state.ledger) now turn.raw := by
            rw [← ledgers]
            exact dated
          dsimp only
          cases judged : (activities.researchFlow task tools).judge
              ((activities.researchFlow task tools).answered state turn) now with
          | error error => exact absurd (judge_escapes_iff.mp ⟨error, judged⟩) notUndated
          | ok judgement =>
              cases judgement with
              | accepted claims =>
                  obtain ⟨submission, verified⟩ := verified_of_judge judged
                  exact ⟨_, rfl, now, submission, rfl, verified⟩
              | exhausted failure => exact ⟨_, rfl, Or.inl ⟨_, _, _, rfl⟩⟩
              | rejected failure => exact corrects _ _ _ ledgers

/-- The induction is on the attempts that are left. -/
theorem ensures_kickoff :
    Ensures (datedResponses activities task.id) (activities.researchFlow task tools).kickoff {}
      fun outcome last => ∃ ended, outcome = .ok ended ∧ ended.Sound activities task.id last := by
  have each (left : Nat) : ∀ state message answers, answers.ledger = state.ledger →
      Ensures (datedResponses activities task.id)
        ((activities.researchFlow task tools).attempts left state message) answers
        fun outcome last =>
          ∃ ended, outcome = .ok ended ∧ ended.Sound activities task.id last := by
    induction left with
    | zero =>
        intro state message answers sameLedger
        apply ensures_attempt ?_ sameLedger
        exact fun _ _ _ _ => ⟨_, rfl, Or.inl ⟨_, _, _, rfl⟩⟩
    | succ left inductionHypothesis =>
        intro state message answers sameLedger
        exact ensures_attempt inductionHypothesis sameLedger
  exact each _ _ _ _ rfl

/-- An agent step returns claims that were verified at the last reading. -/
theorem ensures_ask :
    Ensures (datedResponses activities task.id)
      (activities.ask job (activities.researchFlow task tools)) {} fun outcome last =>
        match outcome with
        | .ok answer => ∃ now submission, last.read = some now ∧
            verifyClaims activities.python answer.1 answer.2 task.id now = .ok submission
        | .error fault => Explained fault last := by
  apply ensures_perform_bind.mpr
  intro within _
  cases within with
  | error fault => exact Or.inr List.mem_cons_self
  | ok within =>
      apply ensures_perform_bind.mpr
      intro started _
      cases started with
      | error fault => exact Or.inr List.mem_cons_self
      | ok started =>
          apply ensures_bind.mpr
          apply ensures_kickoff.mono
          rintro outcome middle ⟨ended, rfl, sound⟩
          apply ensures_perform_bind.mpr
          intro finished _
          cases finished with
          | error fault => exact Or.inr List.mem_cons_self
          | ok finished =>
              apply ensures_perform_bind.mpr
              intro recorded _
              cases recorded with
              | error fault => exact Or.inr List.mem_cons_self
              | ok recorded =>
                  unfold FlowEnd.Sound at sound
                  cases found : ended.outcome with
                  | ok claims =>
                      rw [found] at sound
                      exact sound
                  | error fault =>
                      rw [found] at sound
                      exact sound

/-- The research step ends with evidence, or with a fault that is explained. -/
theorem ensures_research :
    Ensures (datedResponses activities task.id) (activities.research job task) {}
      fun outcome last => ∀ fault, outcome = .error fault →
        Explained fault last ∨ ∃ error, fault = .valueError error := by
  have refused {α : Type} {outcome : Except ValueError α} {fault : AgentFault}
      {last : StepAnswers} (raised : outcome.mapError AgentFault.valueError = .error fault) :
      Explained fault last ∨ ∃ error, fault = .valueError error := by
    obtain ⟨error, -, rfl⟩ := mapError_eq_error.mp raised
    exact Or.inr ⟨error, rfl⟩
  apply ensures_bind.mpr
  cases made : (principalFor job .researcher).mapError AgentFault.valueError with
  | error fault =>
      intro other same
      rw [← Except.error.inj same]
      exact refused made
  | ok principal =>
      apply ensures_bind.mpr
      cases built : (buildAgentTools activities.registry principal job.id task.id
          job.budget).mapError AgentFault.valueError with
      | error fault =>
          intro other same
          rw [← Except.error.inj same]
          exact refused built
      | ok tools =>
          apply ensures_bind.mpr
          apply ensures_ask.mono
          intro outcome middle sound
          cases outcome with
          | error fault =>
              intro other same
              rw [← Except.error.inj same]
              exact Or.inl sound
          | ok answer =>
              obtain ⟨now, submission, read, verified⟩ := sound
              apply ensures_perform_bind.mpr
              intro later admitted
              cases later with
              | error fault =>
                  intro other same
                  rw [← Except.error.inj same]
                  exact Or.inl (Or.inr List.mem_cons_self)
              | ok later =>
                  obtain ⟨-, notBefore⟩ := admitted
                  have again := verifyClaims_later (notBefore now read) verified
                  intro fault raised
                  obtain ⟨error, escapes, -⟩ := mapError_eq_error.mp raised
                  rw [again] at escapes
                  cases escapes

/-- A fault that was noted was raised on the way. -/
theorem exists_raised {fault : AgentFault} (trace : List AgentEvent)
    (noted : fault ∈ ((datedResponses activities task.id).after answers trace).raised) :
    fault ∈ answers.raised ∨ ∃ call, ⟨call, .error fault⟩ ∈ trace := by
  induction trace generalizing answers with
  | nil => exact Or.inl noted
  | cons event rest inductionHypothesis =>
      rcases inductionHypothesis noted with before | ⟨call, member⟩
      · obtain ⟨call, answer⟩ := event
        cases answer with
        | error raised =>
            rcases List.mem_cons.mp before with rfl | earlier
            · exact Or.inr ⟨call, List.mem_cons_self⟩
            · exact Or.inl earlier
        | ok answer =>
            left
            cases call <;> exact before
      · exact Or.inr ⟨call, List.mem_cons_of_mem _ member⟩

end Runs

namespace SumResearch

/-- What the research of the sum comes to. -/
def sumRun : Run AgentCall AgentCall.Answer AgentFault Unit EvidenceSubmission :=
  interpret handler (activities.research job task) ()

/-- The sum, quoted with a date without a time zone. -/
def undatedClaims : EvidenceClaims where
  claims := [{
    excerpt := excerpt
    toolInvocationId := 7
    publishedAt := some ⟨0, false⟩ }]
  claimsInRange := by simp
  unmetBounded := noTexts_bounded

def sumLedger : EvidenceLedger :=
  (∅ : EvidenceLedger).set 7 ⟨invocation, capability, ∅, "the sum is 42"⟩

/-- A model that answers with these claims. -/
def undatedActivities : ResearchActivities :=
  { activities with claims := { activities.claims with modelValidate := fun _ => .ok undatedClaims } }

def undatedDocument : EvidenceRecordDocument where
  excerpt := "the sum is 42"
  sourceUri := "calculator://add"
  publishedAt := some ⟨0, false⟩
  contentHash := (sha256Text "the sum is 42").val
  producingTaskId := 2
  toolInvocationId := 7

/-- The exception that a run ends with. -/
def raisedBy (activities : ResearchActivities) : Option AgentFault :=
  match (interpret handler (activities.research job task) ()).outcome with
  | .ok _ => none
  | .error fault => some fault

end SumResearch

open SumResearch

end ResearchPlatform
