import ResearchPlatform.Api.Routes
import ResearchPlatform.Workflow.StoredActivities

/-!
# What the manifest discloses

The class that guards a manifest is fixed at publication, from the evidence alone;
the listings filter record by record.  A manifest discloses nothing that they
withhold exactly when no call on the trail is more sensitive than the evidence.
-/

namespace ResearchPlatform

open Foundation Program PublicationActivities

/-! ## Readers -/

section Readers

variable (registry : CapabilityRegistry) (stores : TenantStores)
  (identity : RequestIdentity) (jobId : UUID)

/-- Every record, finding and call that the manifest lists is returned by the
listings. -/
structure ListedToo (manifest : ProvenanceManifest) : Prop where
  evidence : ∃ listing,
    Routes.listEvidence stores.jobs identity jobId = .ok listing ∧
      ∀ entry ∈ manifest.evidence, ∃ record ∈ listing.readable,
        ∃ cited checks, manifestEvidence cited checks record = entry
  findings : ∃ listing,
    Routes.listFindings stores.jobs identity jobId = .ok listing ∧
      ∀ entry ∈ manifest.findings, ∃ finding ∈ listing.readable,
        manifestFinding finding = entry
  invocations : ∃ listing,
    Routes.listInvocations registry stores.jobs identity jobId = .ok listing ∧
      ∀ entry ∈ manifest.toolInvocations, ∃ call ∈ listing.readable,
        manifestInvocation call = entry

/-- Every stored record with one of the identifiers is returned. -/
def CitedListed (cited : List UUID) : Prop :=
  ∃ listing, Routes.listEvidence stores.jobs identity jobId = .ok listing ∧
    ∀ record ∈ stores.jobs.evidenceOf (identity.tenantId, jobId),
      record.id ∈ cited → record ∈ listing.readable

end Readers

/-- Whoever is served the manifest or the report could list what is in it. -/
def DisclosesNothing (registry : CapabilityRegistry) (stores : TenantStores)
    (key : JobKey) (cited : List UUID) (manifest : ProvenanceManifest) : Prop :=
  ∀ identity : RequestIdentity, identity.tenantId = key.1 →
    ((∃ response, Routes.getManifest stores.jobs (some stores.artifacts) identity key.2 =
        .ok response) → ListedToo registry stores identity key.2 manifest) ∧
      ∀ format, (∃ response, Routes.getReport stores.jobs (some stores.artifacts) identity
        key.2 format = .ok response) → CitedListed stores identity key.2 cited

/-- No call on the trail is more sensitive than the evidence, where a call of a
capability that is not registered is restricted. -/
def TrailWithinEvidence (registry : CapabilityRegistry)
    (repository : InMemoryJobRepository) (key : JobKey) : Prop :=
  ∀ call ∈ repository.invocationsOf key,
    Routes.classificationOf registry call ≤
      mostRestrictive ((repository.evidenceOf key).map (·.accessClass))

/-! ## The listings of a published job -/

section Published

variable {rendering : Rendering} {registry : CapabilityRegistry}
  {stores published : TenantStores} {job : ResearchJob} {report : ResearchReport}
  {shortfalls : List String} {publication : ReportPublication}
  {evidence : List EvidenceRecord} {findings : List FindingRecord}
  {invocations : List ToolInvocation} {checks : List SourceCheck} {now : Timestamp}
  {cited : List UUID} {manifest : ProvenanceManifest} {identity : RequestIdentity}

/-- What a job has stored and published, as the routes read it. -/
structure Readable (jobs : InMemoryJobRepository) (key : JobKey)
    (publication : ReportPublication) (evidence : List EvidenceRecord)
    (findings : List FindingRecord) (invocations : List ToolInvocation) : Prop where
  getPublication : jobs.getPublication key.1 key.2 = .ok (some publication)
  listEvidence : jobs.listEvidence key.1 key.2 = .ok evidence
  listFindings : jobs.listFindings key.1 key.2 = .ok findings
  listInvocations : ResearchJobService.listInvocations jobs key.1 key.2 = .ok invocations

theorem readable_of_produced
    (produced : Produced rendering stores published job report shortfalls publication
      evidence findings invocations checks now cited manifest) :
    Readable published.jobs job.key publication evidence findings invocations := by
  obtain ⟨sameTenant, sameJob⟩ := Prod.mk.inj produced.describes.ofJob
  obtain ⟨_, stored, recorded⟩ := map_eq_ok.mp produced.recorded
  rw [sameTenant, sameJob] at stored recorded
  have kept {Value : Type} (read : InMemoryJobRepository → Value)
      (apart : ∀ publications, read { stores.jobs with publications := publications } =
        read stores.jobs) : read published.jobs = read stores.jobs := by
    rw [← recorded]
    exact apart _
  constructor
  · unfold InMemoryJobRepository.getPublication
    rw [kept (·.get job.key.1 job.key.2) fun _ => rfl]
    refine map_eq_ok.mpr ⟨_, stored, ?_⟩
    rw [← recorded]
    exact Dict.get?_set_self _ _ _
  · rw [kept (·.listEvidence job.key.1 job.key.2) fun _ => rfl]
    exact produced.evidenceListed
  · rw [kept (·.listFindings job.key.1 job.key.2) fun _ => rfl]
    exact produced.findingsListed
  · rw [kept (ResearchJobService.listInvocations · job.key.1 job.key.2) fun _ => rfl]
    exact produced.invocationsListed

namespace Readable

variable {jobs : InMemoryJobRepository} {artifacts : InMemoryArtifactStore} {key : JobKey}

theorem published_eq
    (readable : Readable jobs key publication evidence findings invocations)
    (reader : identity.tenantId = key.1) :
    Routes.published jobs identity key.2 = .ok publication := by
  unfold Routes.published
  rw [reader, readable.getPublication]
  rfl

theorem listEvidence_eq
    (readable : Readable jobs key publication evidence findings invocations)
    (reader : identity.tenantId = key.1) :
    Routes.listEvidence jobs identity key.2 =
      .ok (Routes.listing (clearanceCovers identity.clearance ·.accessClass) evidence) := by
  unfold Routes.listEvidence
  rw [reader, readable.listEvidence]
  rfl

/-- A reader cleared for all of the evidence is shown every finding. -/
theorem listFindings_of_cleared
    (readable : Readable jobs key publication evidence findings invocations)
    (reader : identity.tenantId = key.1)
    (cleared : ∀ record ∈ evidence, record.accessClass ≤ identity.clearance) :
    ∃ listing, Routes.listFindings jobs identity key.2 = .ok listing ∧
      listing.readable = findings := by
  unfold Routes.listFindings
  rw [reader, readable.listFindings, readable.listEvidence]
  refine ⟨_, rfl, ?_⟩
  have noneHidden :
      evidence.filter (!clearanceCovers identity.clearance ·.accessClass) = [] := by
    apply List.filter_eq_nil_iff.mpr
    intro record member
    simpa using cleared record member
  simp [Routes.listing, noneHidden]

theorem listInvocations_eq
    (readable : Readable jobs key publication evidence findings invocations)
    (reader : identity.tenantId = key.1) :
    Routes.listInvocations registry jobs identity key.2 =
      .ok (Routes.listing
        (clearanceCovers identity.clearance <| Routes.classificationOf registry ·)
          invocations) := by
  unfold Routes.listInvocations
  rw [reader, readable.listInvocations]
  rfl

/-- The manifest is served to those its class allows. -/
theorem getManifest_iff
    (readable : Readable jobs key publication evidence findings invocations)
    (reader : identity.tenantId = key.1) {data : List UInt8}
    (stored : artifacts.get key.1 publication.manifestKey = .ok data) :
    (∃ response, Routes.getManifest jobs (some artifacts) identity key.2 = .ok response) ↔
      publication.manifestAccessClass ≤ identity.clearance := by
  have content : Routes.stored (some artifacts) identity publication.manifestKey =
      .ok data := by
    simp only [Routes.stored, reader, stored]
  constructor
  · rintro ⟨response, served⟩
    unfold Routes.getManifest at served
    rw [readable.published_eq reader] at served
    obtain ⟨_, isIt, served⟩ := bind_eq_ok.mp served
    obtain rfl := Except.ok.inj isIt
    obtain ⟨_, cleared, -⟩ := bind_eq_ok.mp served
    exact Routes.requireClearance_eq_ok_iff.mp cleared
  · intro cleared
    refine ⟨{ content := data, mediaType := "application/json" }, ?_⟩
    unfold Routes.getManifest
    rw [readable.published_eq reader]
    refine bind_eq_ok.mpr ⟨publication, rfl, bind_eq_ok.mpr ⟨(), ?_, ?_⟩⟩
    · exact Routes.requireClearance_eq_ok_iff.mpr cleared
    · rw [content]
      rfl

theorem cleared_of_getReport
    (readable : Readable jobs key publication evidence findings invocations)
    (reader : identity.tenantId = key.1) {store : Option InMemoryArtifactStore}
    {format : Routes.ReportFormat} {response : Routes.Response}
    (served : Routes.getReport jobs store identity key.2 format = .ok response) :
    publication.reportAccessClass ≤ identity.clearance := by
  unfold Routes.getReport at served
  rw [readable.published_eq reader] at served
  obtain ⟨_, isIt, served⟩ := bind_eq_ok.mp served
  obtain rfl := Except.ok.inj isIt
  obtain ⟨_, cleared, -⟩ := bind_eq_ok.mp served
  exact Routes.requireClearance_eq_ok_iff.mp cleared

end Readable

theorem mem_listing {Item : Type} {isReadable : Item → Bool} {items : List Item}
    {item : Item} :
    item ∈ (Routes.listing isReadable items).readable ↔
      item ∈ items ∧ isReadable item = true :=
  List.mem_filter

/-- A reader at the manifest's own class is served it, so a manifest that discloses
nothing lists no call above that class. -/
theorem trailWithin_of_disclosesNothing
    (readable : Readable published.jobs job.key publication evidence findings invocations)
    (produced : Produced rendering stores published job report shortfalls publication
      evidence findings invocations checks now cited manifest)
    (nothing : DisclosesNothing registry published job.key cited manifest) :
    ∀ call ∈ invocations, Routes.classificationOf registry call ≤
      mostRestrictive (evidence.map (·.accessClass)) := by
  intro call member
  let reader : RequestIdentity :=
    { tenantId := job.tenantId
      requesterId := ""
      clearance := publication.manifestAccessClass }
  have served : ∃ response, Routes.getManifest published.jobs (some published.artifacts)
      reader job.key.2 = .ok response :=
    (readable.getManifest_iff rfl produced.manifestStored).mpr (Nat.le_refl _)
  obtain ⟨listing, listed, covers⟩ := ((nothing reader rfl).1 served).invocations
  rw [readable.listInvocations_eq rfl] at listed
  obtain rfl := Except.ok.inj listed
  obtain ⟨_, -, isManifest⟩ := map_eq_ok.mp produced.built
  have entry : manifestInvocation call ∈ manifest.toolInvocations := by
    rw [← isManifest]
    exact List.mem_map_of_mem member
  obtain ⟨other, returned, same⟩ := covers _ entry
  obtain ⟨-, cleared⟩ := mem_listing.mp returned
  have sameClass : Routes.classificationOf registry call =
      Routes.classificationOf registry other := by
    have servers := congrArg ManifestInvocation.mcpServer same
    have capabilities := congrArg ManifestInvocation.capability same
    unfold Routes.classificationOf
    rw [show call.mcpServer = other.mcpServer from servers.symm,
      show call.capability = other.capability from capabilities.symm]
  rw [sameClass, ← produced.describes.manifestAccessClass]
  exact clearanceCovers_iff.mp cleared

/-- Where no call is more sensitive than the evidence, the guard of the manifest
covers all three listings. -/
theorem listedToo_of_cleared
    (readable : Readable published.jobs job.key publication evidence findings invocations)
    (produced : Produced rendering stores published job report shortfalls publication
      evidence findings invocations checks now cited manifest)
    (reader : identity.tenantId = job.tenantId)
    (cleared : publication.manifestAccessClass ≤ identity.clearance)
    (within : ∀ call ∈ invocations, Routes.classificationOf registry call ≤
      mostRestrictive (evidence.map (·.accessClass))) :
    ListedToo registry published identity job.id manifest := by
  rw [produced.describes.manifestAccessClass] at cleared
  have evidenceCleared : ∀ record ∈ evidence, record.accessClass ≤ identity.clearance :=
    List.forall_mem_map.mp (mostRestrictive_le_iff.mp cleared)
  obtain ⟨_, -, isManifest⟩ := map_eq_ok.mp produced.built
  rw [← isManifest]
  constructor
  · refine ⟨_, readable.listEvidence_eq reader, ?_⟩
    intro entry member
    obtain ⟨record, isRecord, rfl⟩ := List.mem_map.mp member
    have covered := clearanceCovers_iff.mpr (evidenceCleared record isRecord)
    exact ⟨record, mem_listing.mpr ⟨isRecord, covered⟩, _, _, rfl⟩
  · obtain ⟨listing, listed, all⟩ :=
      readable.listFindings_of_cleared reader evidenceCleared
    refine ⟨listing, listed, ?_⟩
    intro entry member
    obtain ⟨finding, isFinding, rfl⟩ := List.mem_map.mp member
    exact ⟨finding, all ▸ isFinding, rfl⟩
  · refine ⟨_, readable.listInvocations_eq reader, ?_⟩
    intro entry member
    obtain ⟨call, isCall, rfl⟩ := List.mem_map.mp member
    have covered := clearanceCovers_iff.mpr
      (AccessClass.le_trans (within call isCall) cleared)
    exact ⟨call, mem_listing.mpr ⟨isCall, covered⟩, rfl⟩

/-- The class of a report covers every record it cites. -/
theorem citedListed_of_cleared
    (readable : Readable published.jobs job.key publication evidence findings invocations)
    (produced : Produced rendering stores published job report shortfalls publication
      evidence findings invocations checks now cited manifest)
    (reader : identity.tenantId = job.tenantId)
    (cleared : publication.reportAccessClass ≤ identity.clearance) :
    CitedListed published identity job.id cited := by
  refine ⟨_, readable.listEvidence_eq reader, ?_⟩
  intro record stored isCited
  have listed : record ∈ evidence := by
    obtain ⟨_, -, same⟩ := map_eq_ok.mp readable.listEvidence
    rw [← same]
    rw [reader] at stored
    exact stored
  rw [produced.describes.reportAccessClass] at cleared
  have covered := mostRestrictive_le_iff.mp cleared record.accessClass
    (List.mem_map_of_mem (List.mem_filter.mpr ⟨listed, decide_eq_true isCited⟩))
  exact mem_listing.mpr ⟨listed, clearanceCovers_iff.mpr covered⟩

end Published

/-- The manifest of a job that is published discloses nothing its reader could not list
exactly when no call on the trail is more sensitive than the evidence. -/
theorem manifest_disclosesNothing_iff (rendering : Rendering)
    (registry : CapabilityRegistry) (readings : Readings) (hasChecker : Bool)
    (job : ResearchJob) (report : ResearchReport) (shortfalls : List String)
    (stores published : TenantStores) (publication : ReportPublication)
    (publishes : RunsTo (serve rendering readings)
      (Publishing.publish rendering.reportJson hasChecker job report shortfalls) stores
        publication published) :
    ∃ evidence findings invocations checks cited manifest,
      Produced rendering stores published job report shortfalls publication evidence
          findings invocations checks readings.now cited manifest ∧
        (DisclosesNothing registry published job.key cited manifest ↔
          TrailWithinEvidence registry stores.jobs job.key) := by
  obtain ⟨evidence, findings, invocations, checks, cited, manifest, produced⟩ :=
    produced_of_runsTo publishes
  refine ⟨evidence, findings, invocations, checks, cited, manifest, produced, ?_⟩
  have readable := readable_of_produced produced
  have isEvidence : stores.jobs.evidenceOf job.key = evidence := by
    obtain ⟨_, -, same⟩ := map_eq_ok.mp produced.evidenceListed
    exact same
  have isTrail {call : ToolInvocation} :
      call ∈ stores.jobs.invocationsOf job.key ↔ call ∈ invocations := by
    obtain ⟨_, -, rfl⟩ := map_eq_ok.mp produced.invocationsListed
    exact (List.mem_insertionSort _).symm
  unfold TrailWithinEvidence
  simp only [isEvidence, isTrail]
  constructor
  · exact trailWithin_of_disclosesNothing readable produced
  · intro within identity reader
    constructor
    · intro served
      have cleared := (readable.getManifest_iff reader produced.manifestStored).mp served
      exact listedToo_of_cleared readable produced reader cleared within
    · rintro format ⟨response, served⟩
      exact citedListed_of_cleared readable produced reader
        (readable.cleared_of_getReport reader served)

/-! ## A refused call -/

namespace RefusedCall

/-- A public job without evidence, whose only call is refused. -/
def job : ResearchJob where
  id := 1
  tenantId := "acme"
  requesterId := "ana"
  question := exampleQuestion
  createdAt := 0
  updatedAt := 0

def capability : Capability where
  server := ⟨"documents", by decide⟩
  name := readName
  maxAccessClass := .restricted

def registry : CapabilityRegistry :=
  (CapabilityRegistry.ofList [capability]).toOption.getD {}

def call : ToolInvocation where
  id := 3
  jobId := 1
  taskId := 2
  tenantId := "acme"
  mcpServer := "documents"
  capability := "read"
  sanitizedArguments := ∅
  argumentDigest := sha256Text "\x7b\x7d"
  policyVersion := "1"
  authorizationDecision := .deny
  outcome := .denied
  errorClass := .policyDenied
  startedAt := 1
  durationMs := none
  valid := by decide

def report : ResearchReport := exampleReport ⟨"Nothing was found.", by decide⟩

def rendering : Rendering where
  reportJson report := report.title.val
  markdown _ report _ _ _ := report.title.val
  manifestJson manifest := manifest.reportSha256.val
  bundleJson _ := "[]"

def stores : TenantStores where
  jobs := (({} : InMemoryJobRepository).add job).recordInvocation call

def readings : Readings where
  check := { evidenceId := 2, status := .unchanged, checkedAt := 9 }
  now := 9

theorem publishes : ∃ publication published,
    RunsTo (serve rendering readings)
      (Publishing.publish rendering.reportJson true job report []) stores publication
        published :=
  exists_runsTo (by decide +kernel)

theorem not_within : ¬ TrailWithinEvidence registry stores.jobs job.key := by
  intro within
  have above := within call (by decide +kernel)
  revert above
  decide +kernel

end RefusedCall

/-- The manifest lists a call that its reader may not list. -/
theorem refusedCall_disclosed :
    ∃ published publication evidence findings invocations checks cited manifest,
      RunsTo (serve RefusedCall.rendering RefusedCall.readings)
          (Publishing.publish RefusedCall.rendering.reportJson true RefusedCall.job
            RefusedCall.report []) RefusedCall.stores publication published ∧
        Produced RefusedCall.rendering RefusedCall.stores published RefusedCall.job
            RefusedCall.report [] publication evidence findings invocations checks
            RefusedCall.readings.now cited manifest ∧
          ¬ DisclosesNothing RefusedCall.registry published RefusedCall.job.key cited
            manifest := by
  obtain ⟨publication, published, publishes⟩ := RefusedCall.publishes
  obtain ⟨evidence, findings, invocations, checks, cited, manifest, produced⟩ :=
    produced_of_runsTo publishes
  refine ⟨published, publication, evidence, findings, invocations, checks, cited, manifest,
    publishes, produced, ?_⟩
  intro nothing
  have within := trailWithin_of_disclosesNothing (readable_of_produced produced) produced
    nothing
  apply RefusedCall.not_within
  obtain ⟨_, -, isEvidence⟩ := map_eq_ok.mp produced.evidenceListed
  obtain ⟨_, -, isTrail⟩ := map_eq_ok.mp produced.invocationsListed
  intro call member
  rw [show RefusedCall.stores.jobs.evidenceOf RefusedCall.job.key = evidence
    from isEvidence]
  apply within call
  rw [← isTrail]
  exact (List.mem_insertionSort _).mpr member

/-- `manifest_disclosesNothing_iff` at the refused call. -/
theorem manifest_disclosesNothing_iff_at_refusedCall :
    ∃ published publication evidence findings invocations checks cited manifest,
      Produced RefusedCall.rendering RefusedCall.stores published RefusedCall.job
          RefusedCall.report [] publication evidence findings invocations checks
          RefusedCall.readings.now cited manifest ∧
        (DisclosesNothing RefusedCall.registry published RefusedCall.job.key cited
            manifest ↔
          TrailWithinEvidence RefusedCall.registry RefusedCall.stores.jobs
            RefusedCall.job.key) := by
  obtain ⟨publication, published, publishes⟩ := RefusedCall.publishes
  exact ⟨published, publication,
    manifest_disclosesNothing_iff RefusedCall.rendering RefusedCall.registry
      RefusedCall.readings true RefusedCall.job RefusedCall.report [] RefusedCall.stores
      published publication publishes⟩

end ResearchPlatform
