import ResearchPlatform.Agents.Contracts
import ResearchPlatform.Domain.Invocations
import ResearchPlatform.Foundation.Whitespace
import ResearchPlatform.Mcp.Registry

/-!
# Evidence is what a tool returned

A researcher hands in claims: an excerpt and the tool call it says the excerpt
came from.  `verifyClaims` compares them with the calls the task made, and takes
source, hash, trust and access class from there.
-/

namespace ResearchPlatform

open Foundation

/-! ## Normalized text -/

/-- What is used of Python's own text handling: `unicodedata.normalize("NFC", ·)`
and `str` of a value that is not a text. -/
structure PythonText where
  nfc : String → String
  strOf : Json → String

namespace PythonText

variable (python : PythonText)

/-- `str(value)`. -/
def str : Json → String
  | .text value => value
  | value => python.strOf value

/-- `normalize_text`. -/
def normalizeText (text : String) : String :=
  String.ofList ([' '].intercalate (splitWords (python.nfc text).toList))

/-- `hash_content`. -/
def hashContent (text : String) : DigestText :=
  sha256Text (python.normalizeText text)

/-- `excerpt in text`, both normalized. -/
def Occurs (excerpt text : String) : Prop :=
  (python.normalizeText excerpt).toList <:+: (python.normalizeText text).toList

instance (excerpt text : String) : Decidable (python.Occurs excerpt text) :=
  inferInstanceAs (Decidable (_ <:+: _))

end PythonText

/-! ## What a task observed -/

/-- `SUMMARISING_CAPABILITIES`. -/
def summarisingCapabilities : List (String × String) := [("web-research", "search")]

/-- `source_of`. -/
def sourceOf (python : PythonText) (capability : Capability) (tenantId : String)
    (arguments : Arguments) : String :=
  let argument (name : String) : String :=
    ((arguments.get? name).map python.str).getD ""
  if capability.key = ("web-research", "fetch") then
    strip (argument "url")
  else if capability.key = ("filesystem", "read_document") then
    "workspace://" ++ tenantId ++ "/" ++
      String.ofList ((argument "path").toList.dropWhile (· = '/'))
  else if capability.server.val = "github" then
    "https://github.com/" ++ strip (argument "repository")
  else
    -- Anything else is identified by the exact call that produced it.
    capability.server.val ++ "://" ++ capability.name.val ++ "/" ++
      String.ofList (((argumentDigest arguments).val.toList.drop 7).take 16)

/-- What one tool call returned, as the platform itself saw it. -/
structure ObservedContent where
  invocation : ToolInvocation
  capability : Capability
  arguments : Arguments
  text : String
  deriving DecidableEq

namespace ObservedContent

/-- `source_uri`. -/
def sourceUri (python : PythonText) (observed : ObservedContent) : String :=
  sourceOf python observed.capability observed.invocation.tenantId observed.arguments

/-- `trust_level`. -/
def trustLevel (observed : ObservedContent) : TrustLevel :=
  if observed.capability.key ∈ summarisingCapabilities then .secondary else .primary

/-- `access_class`. -/
def accessClass (observed : ObservedContent) : AccessClass :=
  observed.capability.maxAccessClass

end ObservedContent

/-- `EvidenceLedger`: the tool calls of one task, by the identifier of their
audit record. -/
abbrev EvidenceLedger : Type := Dict UUID ObservedContent

/-- `EvidenceLedger.record`. -/
def EvidenceLedger.record (ledger : EvidenceLedger) (invocation : ToolInvocation)
    (capability : Capability) (arguments : Arguments) (text : String) :
    EvidenceLedger :=
  ledger.set invocation.id ⟨invocation, capability, arguments, text⟩

/-! ## Claims -/

/-- What a researcher asserts: this excerpt came from that tool call. -/
structure EvidenceClaim where
  excerpt : NonEmptyText
  toolInvocationId : UUID
  title : Option (BoundedText 500) := none
  author : Option (BoundedText 200) := none
  publishedAt : Option DateTime := none
  deriving DecidableEq

structure EvidenceClaims where
  claims : List EvidenceClaim
  unmetRequirements : List NonEmptyText := []
  claimsInRange : 1 ≤ claims.length ∧ claims.length ≤ 100
  unmetBounded : unmetRequirements.length ≤ 20

/-- What `verify_claims` raises: `UnverifiableEvidence`, a pydantic error, or the
error of comparing times with and without a zone. -/
inductive ProvenanceError where
  | unverifiable (message : String)
  | invalid (error : ValidationError)
  | typeError (message : String)
  deriving DecidableEq

/-- A value of a `NonEmptyText` field. -/
def NonEmptyText.validate (field text : String) : Except ValidationError NonEmptyText :=
  if inRange : 1 ≤ text.length ∧ text.length ≤ 4000 then .ok ⟨text, inRange⟩
  else if text.length = 0 then
    .error ⟨field ++ ": String should have at least 1 character"⟩
  else
    .error ⟨field ++ ": String should have at most 4000 characters"⟩

theorem NonEmptyText.val_of_validate {field text : String} {valid : NonEmptyText}
    (accepted : NonEmptyText.validate field text = .ok valid) : valid.val = text := by
  unfold NonEmptyText.validate at accepted
  split at accepted
  · rw [← Except.ok.inj accepted]
  · split at accepted <;> cases accepted

/-- `publication_date_cannot_be_in_the_future` of a date that may lack a zone. -/
def checkPublicationDate (now : Timestamp) :
    Option DateTime → Except ProvenanceError (Option Timestamp)
  | none => .ok none
  | some date =>
      if !date.hasZone then
        .error (.typeError "can't compare offset-naive and offset-aware datetimes")
      else if now < date.micros then
        .error (.invalid ⟨"evidence cannot carry a future publication date"⟩)
      else
        .ok (some date.micros)

/-- The record that `verify_claims` builds for a claim it has found. -/
def verifiedRecord (python : PythonText) (taskId : UUID) (observed : ObservedContent)
    (claim : EvidenceClaim) (now : Timestamp) :
    Except ProvenanceError EvidenceRecordCreate := do
  let excerpt ←
    (NonEmptyText.validate "excerpt" (python.normalizeText claim.excerpt.val)).mapError
      .invalid
  let sourceUri ←
    (NonEmptyText.validate "source_uri" (observed.sourceUri python)).mapError .invalid
  let publishedAt ← checkPublicationDate now claim.publishedAt
  return {
    excerpt := excerpt
    sourceUri := sourceUri
    title := claim.title
    author := claim.author
    publishedAt := publishedAt
    trustLevel := observed.trustLevel
    accessClass := observed.accessClass
    contentHash := python.hashContent claim.excerpt.val
    producingTaskId := taskId
    toolInvocationId := claim.toolInvocationId }

/-- A document with fields of the right types, before `EvidenceRecordCreate` checks it. -/
structure EvidenceRecordDocument where
  excerpt : String
  sourceUri : String
  title : Option String := none
  author : Option String := none
  publishedAt : Option DateTime := none
  trustLevel : TrustLevel := .unverified
  accessClass : AccessClass := .publicClass
  contentHash : String
  producingTaskId : UUID
  toolInvocationId : UUID
  deriving DecidableEq

/-- A value of an optional field of bounded text. -/
def BoundedText.validate (limit : Nat) (field : String) :
    Option String → Except ValidationError (Option (BoundedText limit))
  | none => .ok none
  | some text =>
      if inRange : text.length ≤ limit then .ok (some ⟨text, inRange⟩)
      else .error ⟨field ++ ": String should have at most " ++ toString limit ++ " characters"⟩

/-- A value of a field that holds a digest. -/
def DigestText.validate (field text : String) : Except ValidationError DigestText :=
  if isDigest : text.toList.take 7 = "sha256:".toList ∧ text.toList.length = 71 ∧
      (text.toList.drop 7).all isLowerHex = true then .ok ⟨text, isDigest⟩
  else .error ⟨field ++ ": String should match pattern '^sha256:[a-f0-9]\x7b64\x7d$'"⟩

/-- `EvidenceRecordCreate(...)`: the fields are checked first, and then the date. -/
def EvidenceRecordCreate.validate (now : Timestamp) (document : EvidenceRecordDocument) :
    Except ProvenanceError EvidenceRecordCreate := do
  let excerpt ← (NonEmptyText.validate "excerpt" document.excerpt).mapError .invalid
  let sourceUri ← (NonEmptyText.validate "source_uri" document.sourceUri).mapError .invalid
  let title ← (BoundedText.validate 500 "title" document.title).mapError .invalid
  let author ← (BoundedText.validate 200 "author" document.author).mapError .invalid
  let contentHash ← (DigestText.validate "content_hash" document.contentHash).mapError .invalid
  let publishedAt ← checkPublicationDate now document.publishedAt
  return {
    excerpt := excerpt
    sourceUri := sourceUri
    title := title
    author := author
    publishedAt := publishedAt
    trustLevel := document.trustLevel
    accessClass := document.accessClass
    contentHash := contentHash
    producingTaskId := document.producingTaskId
    toolInvocationId := document.toolInvocationId }

/-- What `verify_claims` constructs the record of a claim from. -/
def EvidenceClaim.document (claim : EvidenceClaim) (python : PythonText) (taskId : UUID)
    (observed : ObservedContent) : EvidenceRecordDocument where
  excerpt := python.normalizeText claim.excerpt.val
  sourceUri := observed.sourceUri python
  title := claim.title.map (·.val)
  author := claim.author.map (·.val)
  publishedAt := claim.publishedAt
  trustLevel := observed.trustLevel
  accessClass := observed.accessClass
  contentHash := (python.hashContent claim.excerpt.val).val
  producingTaskId := taskId
  toolInvocationId := claim.toolInvocationId

theorem BoundedText.validate_val {limit : Nat} {field : String}
    (value : Option (BoundedText limit)) :
    BoundedText.validate limit field (value.map (·.val)) = .ok value := by
  cases value with
  | none => rfl
  | some text => exact dif_pos text.property

theorem DigestText.validate_val {field : String} (digest : DigestText) :
    DigestText.validate field digest.val = .ok digest :=
  dif_pos digest.property

/-- A title, an author and a hash pass; only the excerpt, the source and the date of a
claim can be refused. -/
theorem verifiedRecord_eq_validate (python : PythonText) (taskId : UUID)
    (observed : ObservedContent) (claim : EvidenceClaim) (now : Timestamp) :
    verifiedRecord python taskId observed claim now =
      EvidenceRecordCreate.validate now (claim.document python taskId observed) := by
  unfold verifiedRecord EvidenceRecordCreate.validate EvidenceClaim.document
  simp only [BoundedText.validate_val, DigestText.validate_val]
  rfl

/-- How one claim is judged: with a problem, or with its record. -/
abbrev Judgement : Type := String ⊕ EvidenceRecordCreate

/-- One pass of the loop of `verify_claims`; `seen` are the hashes so far. -/
def judgeClaim (python : PythonText) (ledger : EvidenceLedger) (taskId : UUID)
    (seen : List DigestText) (claim : EvidenceClaim) (index : Nat) (now : Timestamp) :
    Except ProvenanceError Judgement :=
  match ledger.get? claim.toolInvocationId with
  | none =>
      .ok (.inl (s!"claims.{index}: {claim.toolInvocationId.str} is not a tool call " ++
        "this task made; cite the tool_invocation_id printed at the top of a tool " ++
        "result"))
  | some observed =>
      if ¬ python.Occurs claim.excerpt.val observed.text then
        .ok (.inl (s!"claims.{index}: the excerpt does not appear in the output of " ++
          s!"tool call {claim.toolInvocationId.str}; quote the result exactly"))
      else if python.hashContent claim.excerpt.val ∈ seen then
        .ok (.inl s!"claims.{index}: the same excerpt was submitted more than once")
      else
        (verifiedRecord python taskId observed claim now).map .inr

/-- The loop of `verify_claims`: the problems and the records, in order. -/
def judgeClaims (python : PythonText) (ledger : EvidenceLedger) (taskId : UUID)
    (now : Nat → Timestamp) :
    List (EvidenceClaim × Nat) → List DigestText →
      Except ProvenanceError (List String × List EvidenceRecordCreate)
  | [], _ => .ok ([], [])
  | (claim, index) :: rest, seen => do
      match ← judgeClaim python ledger taskId seen claim index (now index) with
      | .inl problem =>
          let (problems, records) ← judgeClaims python ledger taskId now rest seen
          return (problem :: problems, records)
      | .inr command =>
          let (problems, records) ←
            judgeClaims python ledger taskId now rest (command.contentHash :: seen)
          return (problems, command :: records)

/-- `EvidenceSubmission(...)`: construct a submission or raise. -/
def EvidenceSubmission.validate (records : List EvidenceRecordCreate)
    (unmetRequirements : List NonEmptyText) :
    Except ValidationError EvidenceSubmission :=
  if valid : (1 ≤ records.length ∧ records.length ≤ 100) ∧
      unmetRequirements.length ≤ 20 ∧ (records.map (·.contentHash)).Nodup then
    .ok {
      records := records
      unmetRequirements := unmetRequirements
      recordsInRange := valid.1
      unmetBounded := valid.2.1
      hashesDistinct := valid.2.2 }
  else
    .error ⟨"an evidence submission breaks its own validators"⟩

/-- `verify_claims`.  `now` is read for one claim after the other. -/
def verifyClaims (python : PythonText) (claims : EvidenceClaims)
    (ledger : EvidenceLedger) (taskId : UUID) (now : Nat → Timestamp) :
    Except ProvenanceError EvidenceSubmission := do
  let (problems, records) ←
    judgeClaims python ledger taskId now claims.claims.zipIdx []
  if problems ≠ [] then
    throw (.unverifiable ("; ".intercalate problems))
  else
    (EvidenceSubmission.validate records claims.unmetRequirements).mapError .invalid

/-! ## What a verified record carries -/

/-- The record rests on this claim and on what the platform observed of the call
that the claim names. -/
structure RestsOn (python : PythonText) (taskId : UUID) (claim : EvidenceClaim)
    (observed : ObservedContent) (command : EvidenceRecordCreate) : Prop where
  sameInvocation : command.toolInvocationId = claim.toolInvocationId
  sameTask : command.producingTaskId = taskId
  normalized : command.excerpt.val = python.normalizeText claim.excerpt.val
  occurs : python.Occurs claim.excerpt.val observed.text
  sameHash : command.contentHash = python.hashContent claim.excerpt.val
  sameSource : command.sourceUri.val = observed.sourceUri python
  sameTrust : command.trustLevel = observed.trustLevel
  sameClass : command.accessClass = observed.accessClass

section Verified

variable {python : PythonText} {ledger : EvidenceLedger} {taskId : UUID}
  {now : Nat → Timestamp}

theorem restsOn_of_verifiedRecord {observed : ObservedContent} {claim : EvidenceClaim}
    {reading : Timestamp} {command : EvidenceRecordCreate}
    (occurs : python.Occurs claim.excerpt.val observed.text)
    (built : verifiedRecord python taskId observed claim reading = .ok command) :
    RestsOn python taskId claim observed command := by
  unfold verifiedRecord at built
  cases excerptFound :
      NonEmptyText.validate "excerpt" (python.normalizeText claim.excerpt.val) with
  | error refusal => simp [excerptFound, Except.mapError, bind, Except.bind] at built
  | ok excerpt =>
      cases sourceFound :
          NonEmptyText.validate "source_uri" (observed.sourceUri python) with
      | error refusal =>
          simp [excerptFound, sourceFound, Except.mapError, bind, Except.bind] at built
      | ok sourceUri =>
          cases dated : checkPublicationDate reading claim.publishedAt with
          | error refusal =>
              simp [excerptFound, sourceFound, dated, Except.mapError, bind,
                Except.bind] at built
          | ok publishedAt =>
              simp only [excerptFound, sourceFound, dated, Except.mapError, bind,
                Except.bind, pure, Except.pure, Except.ok.injEq] at built
              subst built
              exact ⟨rfl, rfl, NonEmptyText.val_of_validate excerptFound, occurs, rfl,
                NonEmptyText.val_of_validate sourceFound, rfl, rfl⟩

/-- A claim that is accepted names a call of the ledger that returned its
excerpt. -/
theorem restsOn_of_judgeClaim {seen : List DigestText} {claim : EvidenceClaim}
    {index : Nat} {reading : Timestamp} {command : EvidenceRecordCreate}
    (judged : judgeClaim python ledger taskId seen claim index reading =
      .ok (.inr command)) :
    ∃ observed, ledger.get? claim.toolInvocationId = some observed ∧
      RestsOn python taskId claim observed command := by
  unfold judgeClaim at judged
  cases found : ledger.get? claim.toolInvocationId with
  | none => simp [found] at judged
  | some observed =>
      simp only [found] at judged
      by_cases occurs : python.Occurs claim.excerpt.val observed.text
      · by_cases repeated : python.hashContent claim.excerpt.val ∈ seen
        · simp [occurs, repeated] at judged
        · rw [if_neg (not_not.mpr occurs), if_neg repeated] at judged
          cases built : verifiedRecord python taskId observed claim reading with
          | error refusal => simp [built, Except.map] at judged
          | ok record =>
              simp only [built, Except.map, Except.ok.injEq, Sum.inr.injEq] at judged
              subst judged
              exact ⟨observed, rfl, restsOn_of_verifiedRecord occurs built⟩
      · simp [occurs] at judged

theorem restsOn_of_judgeClaims {claims : List (EvidenceClaim × Nat)}
    {seen : List DigestText} {problems : List String}
    {records : List EvidenceRecordCreate}
    (judged : judgeClaims python ledger taskId now claims seen = .ok (problems, records)) :
    ∀ command ∈ records, ∃ claim ∈ claims.map Prod.fst, ∃ observed,
      ledger.get? claim.toolInvocationId = some observed ∧
        RestsOn python taskId claim observed command := by
  induction claims generalizing seen problems records with
  | nil =>
      cases judged
      intro command member
      cases member
  | cons head rest inductionHypothesis =>
      obtain ⟨claim, index⟩ := head
      simp only [judgeClaims] at judged
      cases first : judgeClaim python ledger taskId seen claim index (now index) with
      | error refusal => simp [first, bind, Except.bind] at judged
      | ok judgement =>
          cases judgement with
          | inl problem =>
              simp only [first, bind, Except.bind] at judged
              cases others : judgeClaims python ledger taskId now rest seen with
              | error refusal => simp [others] at judged
              | ok both =>
                  simp only [others, pure, Except.pure, Except.ok.injEq,
                    Prod.mk.injEq] at judged
                  obtain ⟨-, rfl⟩ := judged
                  intro command member
                  obtain ⟨other, named, rests⟩ :=
                    inductionHypothesis others command member
                  exact ⟨other, List.mem_cons_of_mem _ named, rests⟩
          | inr accepted =>
              simp only [first, bind, Except.bind] at judged
              cases others : judgeClaims python ledger taskId now rest
                  (accepted.contentHash :: seen) with
              | error refusal => simp [others] at judged
              | ok both =>
                  simp only [others, pure, Except.pure, Except.ok.injEq,
                    Prod.mk.injEq] at judged
                  obtain ⟨-, rfl⟩ := judged
                  intro command member
                  rcases List.mem_cons.mp member with same | later
                  · rw [same]
                    exact ⟨claim, List.mem_cons_self, restsOn_of_judgeClaim first⟩
                  · obtain ⟨other, named, rests⟩ :=
                      inductionHypothesis others command later
                    exact ⟨other, List.mem_cons_of_mem _ named, rests⟩

/-- Every record of a verified submission rests on a claim and on a call of the
ledger. -/
theorem restsOn_of_verifyClaims {claims : EvidenceClaims}
    {submission : EvidenceSubmission}
    (verified : verifyClaims python claims ledger taskId now = .ok submission) :
    ∀ command ∈ submission.records, ∃ claim ∈ claims.claims, ∃ observed,
      ledger.get? claim.toolInvocationId = some observed ∧
        RestsOn python taskId claim observed command := by
  unfold verifyClaims at verified
  cases judged : judgeClaims python ledger taskId now claims.claims.zipIdx [] with
  | error refusal => simp [judged, bind, Except.bind] at verified
  | ok both =>
      obtain ⟨problems, records⟩ := both
      simp only [judged, bind, Except.bind] at verified
      by_cases clean : problems = []
      · rw [if_neg (not_not.mpr clean), EvidenceSubmission.validate] at verified
        split at verified
        · cases verified
          intro command member
          have rests := restsOn_of_judgeClaims judged command member
          rwa [List.zipIdx_map_fst] at rests
        · cases verified
      · rw [if_pos clean] at verified
        cases verified

end Verified

end ResearchPlatform
