import ResearchPlatform.Application.TenantStores

/-!
# Tenant isolation

What a tenant is answered by the job service and the artifact store does not
depend on the calls of other tenants: its view of the stores is the part under its
own keys, its calls are answered from that view, and no other call changes it.
-/

namespace ResearchPlatform

open Foundation

/-! ## One tenant's view of the jobs -/

/-- The keys of one tenant. -/
def ofTenant (tenantId : String) (key : JobKey) : Bool := key.1 = tenantId

/-- The two repositories hold the same under one tenant's keys. -/
structure SameFor (tenantId : String) (first second : InMemoryJobRepository) : Prop where
  jobs : first.jobs.rows.restrict (ofTenant tenantId) =
    second.jobs.rows.restrict (ofTenant tenantId)
  evidence : first.evidence.restrict (ofTenant tenantId) =
    second.evidence.restrict (ofTenant tenantId)
  invocations : first.invocations.restrict (ofTenant tenantId) =
    second.invocations.restrict (ofTenant tenantId)
  findings : first.findings.restrict (ofTenant tenantId) =
    second.findings.restrict (ofTenant tenantId)
  publications : first.publications.restrict (ofTenant tenantId) =
    second.publications.restrict (ofTenant tenantId)

namespace SameFor

variable {tenantId : String} {jobId : UUID} {first second : InMemoryJobRepository}

theorem refl (repository : InMemoryJobRepository) :
    SameFor tenantId repository repository := ⟨rfl, rfl, rfl, rfl, rfl⟩

theorem trans {third : InMemoryJobRepository} (left : SameFor tenantId first second)
    (right : SameFor tenantId second third) : SameFor tenantId first third where
  jobs := left.jobs.trans right.jobs
  evidence := left.evidence.trans right.evidence
  invocations := left.invocations.trans right.invocations
  findings := left.findings.trans right.findings
  publications := left.publications.trans right.publications

/-- A tenant's own key. -/
theorem own : ofTenant tenantId (tenantId, jobId) = true := decide_eq_true rfl

theorem get (same : SameFor tenantId first second) :
    first.get tenantId jobId = second.get tenantId jobId := by
  unfold InMemoryJobRepository.get JobTable.get
  rw [Dict.get?_eq_of_restrict same.jobs own]

theorem list (same : SameFor tenantId first second) :
    first.jobs.list tenantId = second.jobs.list tenantId := by
  have rows : first.jobs.rows.entries.filter (fun entry => entry.1.1 = tenantId) =
      second.jobs.rows.entries.filter (fun entry => entry.1.1 = tenantId) :=
    congrArg Dict.entries same.jobs
  unfold JobTable.list
  rw [rows]

theorem evidenceOf (same : SameFor tenantId first second) :
    first.evidenceOf (tenantId, jobId) = second.evidenceOf (tenantId, jobId) := by
  unfold InMemoryJobRepository.evidenceOf
  rw [Dict.get?_eq_of_restrict same.evidence own]

theorem invocationsOf (same : SameFor tenantId first second) :
    first.invocationsOf (tenantId, jobId) = second.invocationsOf (tenantId, jobId) := by
  unfold InMemoryJobRepository.invocationsOf
  rw [Dict.get?_eq_of_restrict same.invocations own]

theorem findingsOf (same : SameFor tenantId first second) :
    first.findingsOf (tenantId, jobId) = second.findingsOf (tenantId, jobId) := by
  unfold InMemoryJobRepository.findingsOf
  rw [Dict.get?_eq_of_restrict same.findings own]

theorem add (same : SameFor tenantId first second) (job : ResearchJob) :
    SameFor tenantId (first.add job) (second.add job) :=
  { same with jobs := Dict.restrict_set_congr same.jobs }

theorem update (same : SameFor tenantId first second) {job : ResearchJob}
    (owned : job.tenantId = tenantId) :
    Alike (SameFor tenantId) (first.update job) (second.update job) := by
  subst owned
  have found := Dict.get?_eq_of_restrict same.jobs (@own job.tenantId job.id)
  unfold InMemoryJobRepository.update JobTable.update ResearchJob.key
  rw [found]
  cases second.jobs.rows.get? (job.tenantId, job.id) with
  | none => exact Alike.error _
  | some row => exact Alike.ok (same.add job)

theorem addEvidence (same : SameFor tenantId first second) {record : EvidenceRecord}
    (owned : record.tenantId = tenantId) :
    Alike (SameFor tenantId) (first.addEvidence record) (second.addEvidence record) := by
  subst owned
  apply Alike.map_same same.get
  intro _ _
  have kept : first.evidenceOf record.key = second.evidenceOf record.key :=
    same.evidenceOf
  refine { same with evidence := ?_ }
  rw [InMemoryJobRepository.evidence_appendEvidence,
    InMemoryJobRepository.evidence_appendEvidence, kept]
  exact Dict.restrict_set_congr same.evidence

theorem recordInvocation (same : SameFor tenantId first second)
    {invocation : ToolInvocation} (owned : invocation.tenantId = tenantId) :
    SameFor tenantId (first.recordInvocation invocation)
      (second.recordInvocation invocation) := by
  subst owned
  have kept : first.invocationsOf invocation.key = second.invocationsOf invocation.key :=
    same.invocationsOf
  constructor
  · simpa using same.jobs
  · simpa using same.evidence
  · rw [InMemoryJobRepository.invocations_recordInvocation,
      InMemoryJobRepository.invocations_recordInvocation, kept]
    split
    · exact same.invocations
    · exact Dict.restrict_set_congr same.invocations
  · simpa using same.findings
  · simpa using same.publications

theorem replaceFindings (same : SameFor tenantId first second)
    (findings : List FindingRecord) :
    Alike (SameFor tenantId) (first.replaceFindings tenantId jobId findings)
      (second.replaceFindings tenantId jobId findings) := by
  apply Alike.map_same same.get
  intro _ _
  exact { same with findings := Dict.restrict_set_congr same.findings }

theorem recordPublication (same : SameFor tenantId first second)
    {publication : ReportPublication} (owned : publication.tenantId = tenantId) :
    Alike (SameFor tenantId) (first.recordPublication publication)
      (second.recordPublication publication) := by
  subst owned
  apply Alike.map_same same.get
  intro _ _
  exact { same with publications := Dict.restrict_set_congr same.publications }

end SameFor

/-! ## Calls of other tenants -/

namespace InMemoryJobRepository

variable {tenantId : String} {repository : InMemoryJobRepository}

theorem sameFor_add {job : ResearchJob} (foreign : job.tenantId ≠ tenantId) :
    SameFor tenantId (repository.add job) repository :=
  { SameFor.refl repository with
    jobs := Dict.restrict_set_of_dropped (decide_eq_false foreign) }

theorem sameFor_appendEvidence {record : EvidenceRecord}
    (foreign : record.tenantId ≠ tenantId) :
    SameFor tenantId (repository.appendEvidence record) repository :=
  { SameFor.refl repository with
    evidence := Dict.restrict_set_of_dropped (decide_eq_false foreign) }

theorem sameFor_recordInvocation {invocation : ToolInvocation}
    (foreign : invocation.tenantId ≠ tenantId) :
    SameFor tenantId (repository.recordInvocation invocation) repository := by
  unfold recordInvocation
  split
  · exact SameFor.refl repository
  · exact { SameFor.refl repository with
      invocations := Dict.restrict_set_of_dropped (decide_eq_false foreign) }

end InMemoryJobRepository

/-! ## The service -/

section Service

open InMemoryJobRepository JobService

variable {tenantId : String} {first second repository : InMemoryJobRepository}

/-- A repository that is read through the port. -/
theorem SameFor.port_get (same : SameFor tenantId first second) (jobId : UUID) :
    JobRepository.inMemory.get first tenantId jobId =
      JobRepository.inMemory.get second tenantId jobId :=
  congrArg (Except.mapError JobError.service) same.get

/-- A tenant's own call is answered from its view, and keeps the views the same. -/
theorem serve_own (call : RepositoryCall) (stamps : Stamps) (own : call.tenant = tenantId)
    (same : SameFor tenantId first second) :
    (JobRepository.inMemory.serve first (call, stamps)).1 =
        (JobRepository.inMemory.serve second (call, stamps)).1 ∧
      SameFor tenantId (JobRepository.inMemory.serve first (call, stamps)).2
        (JobRepository.inMemory.serve second (call, stamps)).2 := by
  cases call with
  | create owner requesterId command clearance =>
      obtain rfl : owner = tenantId := own
      apply writing_alike same
      apply create_alike
      intro _
      exact Alike.ok (same.add _)
  | get owner jobId =>
      obtain rfl : owner = tenantId := own
      exact reading_alike same (same.port_get jobId)
  | list owner =>
      obtain rfl : owner = tenantId := own
      exact reading_alike same (congrArg Except.ok same.list)
  | transition owner jobId target detail usage =>
      obtain rfl : owner = tenantId := own
      apply writing_alike same
      apply transition_alike (same.port_get jobId)
      intro job moved found moves
      have owned := (tenant_of_transitionTo moves).trans (tenant_of_get found)
      exact (same.update owned).mapError _
  | recordCheckpoint owner jobId workflowId workflowRunId =>
      obtain rfl : owner = tenantId := own
      apply writing_alike same
      apply recordCheckpoint_alike (same.port_get jobId)
      intro job found
      have stored : job.tenantId = owner := tenant_of_get found
      have owned : (job.withCheckpoint workflowId workflowRunId stamps.now).tenantId =
          owner := stored
      exact (same.update owned).mapError _
  | addEvidence owner jobId command =>
      obtain rfl : owner = tenantId := own
      apply writing_alike same
      apply addEvidence_alike (same.port_get jobId)
      intro _ _ _
      have owned : (newEvidence owner jobId command stamps).tenantId = owner := rfl
      exact (same.addEvidence owned).mapError _
  | listEvidence owner jobId =>
      obtain rfl : owner = tenantId := own
      apply reading_alike same
      apply congrArg (Except.mapError JobError.service)
      unfold InMemoryJobRepository.listEvidence
      rw [same.get, same.evidenceOf]
  | recordInvocation invocation =>
      obtain rfl : invocation.tenantId = tenantId := own
      apply writing_alike same
      apply recordInvocation_alike
      exact Alike.ok (same.recordInvocation rfl)
  | listInvocations owner jobId =>
      obtain rfl : owner = tenantId := own
      apply reading_alike same
      apply listInvocations_same (same.port_get jobId)
      apply congrArg Except.ok
      unfold InMemoryJobRepository.listInvocations
      rw [same.invocationsOf]
  | recordFindings owner jobId findings =>
      obtain rfl : owner = tenantId := own
      apply writing_alike same
      apply recordFindings_alike (same.port_get jobId)
      intro _ _
      exact (same.replaceFindings _).mapError _
  | listFindings owner jobId =>
      obtain rfl : owner = tenantId := own
      apply reading_alike same
      apply congrArg (Except.mapError JobError.service)
      unfold InMemoryJobRepository.listFindings
      rw [same.get, same.findingsOf]
  | recordPublication publication =>
      obtain rfl : publication.tenantId = tenantId := own
      apply writing_alike same
      apply recordPublication_alike
      exact (same.recordPublication rfl).mapError _
  | getPublication owner jobId =>
      obtain rfl : owner = tenantId := own
      apply reading_alike same
      apply congrArg (Except.mapError JobError.service)
      unfold InMemoryJobRepository.getPublication
      rw [same.get, Dict.get?_eq_of_restrict same.publications SameFor.own]

/-- Another tenant's call does not change the view. -/
theorem serve_foreign (call : RepositoryCall) (stamps : Stamps)
    (foreign : call.tenant ≠ tenantId) :
    SameFor tenantId (JobRepository.inMemory.serve repository (call, stamps)).2
      repository := by
  have wrote := wrote_serve repository call stamps
  generalize (JobRepository.inMemory.serve repository (call, stamps)).2 = updated at wrote
  cases wrote with
  | nothing => exact SameFor.refl repository
  | job owned => exact sameFor_add (owned ▸ foreign)
  | evidence => exact sameFor_appendEvidence foreign
  | invocation => exact sameFor_recordInvocation foreign
  | findings =>
      exact { SameFor.refl repository with
        findings := Dict.restrict_set_of_dropped (decide_eq_false foreign) }
  | publication =>
      exact { SameFor.refl repository with
        publications := Dict.restrict_set_of_dropped (decide_eq_false foreign) }

end Service

/-! ## The artifact store -/

/-- What every key of a tenant begins with. -/
def tenantPrefix (tenantId : String) : List Char :=
  keyRoot ++ tenantSegment tenantId ++ ['/']

/-- The artifact keys of one tenant. -/
def keyOfTenant (tenantId : String) (key : String) : Bool :=
  (tenantPrefix tenantId).isPrefixOf key.toList

theorem keyOfTenant_eq {tenantId owner name key : String}
    (keyed : artifactKey owner name = .ok key) :
    keyOfTenant tenantId key = decide (owner = tenantId) := by
  have text : key.toList = keyRoot ++ tenantSegment owner ++ '/' :: name.toList :=
    toList_of_artifactKey keyed
  rw [Bool.eq_iff_iff, decide_eq_true_iff, keyOfTenant, List.isPrefixOf_iff_prefix, text]
  constructor
  · rintro ⟨rest, same⟩
    rw [tenantPrefix, List.append_assoc, List.append_assoc, List.append_assoc] at same
    have segments := eq_of_append_separator (slash_not_mem_tenantSegment tenantId)
      (slash_not_mem_tenantSegment owner) (List.append_cancel_left same)
    exact (tenantSegment_injective segments.1).symm
  · rintro rfl
    exact ⟨name.toList, by simp [tenantPrefix]⟩

namespace InMemoryArtifactStore

variable {tenantId owner name contentType : String} {data : List UInt8}
  {first second store : InMemoryArtifactStore}

/-- The two stores hold the same artifacts of one tenant. -/
def SameFor (tenantId : String) (first second : InMemoryArtifactStore) : Prop :=
  first.objects.restrict (keyOfTenant tenantId) =
    second.objects.restrict (keyOfTenant tenantId)

theorem SameFor.put (same : SameFor tenantId first second) :
    Alike (SameAnswer (SameFor tenantId)) (first.put owner name data contentType)
      (second.put owner name data contentType) := by
  apply Alike.bind_same rfl
  intro key _
  exact Alike.ok ⟨rfl, Dict.restrict_set_congr same⟩

theorem SameFor.get (same : SameFor tenantId first second) :
    first.get tenantId name = second.get tenantId name := by
  unfold InMemoryArtifactStore.get
  cases keyed : artifactKey tenantId name with
  | error error => rfl
  | ok key =>
      have own : keyOfTenant tenantId key = true := by
        rw [keyOfTenant_eq keyed, decide_eq_true rfl]
      simp only [bind, Except.bind, Dict.get?_eq_of_restrict same own]

theorem sameFor_put (foreign : owner ≠ tenantId) {stored : StoredArtifact}
    {updated : InMemoryArtifactStore}
    (puts : store.put owner name data contentType = .ok (stored, updated)) :
    SameFor tenantId updated store := by
  obtain ⟨key, keyed, puts⟩ := bind_eq_ok.mp puts
  obtain ⟨-, rfl⟩ := Prod.mk.inj (Except.ok.inj puts)
  apply Dict.restrict_set_of_dropped
  rw [keyOfTenant_eq keyed, decide_eq_false foreign]

end InMemoryArtifactStore

/-! ## Both stores -/

namespace TenantStores

/-- The stores hold the same of one tenant. -/
structure SameFor (tenantId : String) (first second : TenantStores) : Prop where
  jobs : ResearchPlatform.SameFor tenantId first.jobs second.jobs
  artifacts : InMemoryArtifactStore.SameFor tenantId first.artifacts second.artifacts

variable {tenantId : String} {first second : TenantStores}

theorem SameFor.trans {third : TenantStores} (left : SameFor tenantId first second)
    (right : SameFor tenantId second third) : SameFor tenantId first third where
  jobs := left.jobs.trans right.jobs
  artifacts := left.artifacts.trans right.artifacts

theorem SameFor.storing (same : SameFor tenantId first second)
    {left right : Except ArtifactError (StoredArtifact × InMemoryArtifactStore)}
    (alike : Alike (SameAnswer (InMemoryArtifactStore.SameFor tenantId)) left right) :
    (storing first left).1 = (storing second right).1 ∧
      SameFor tenantId (storing first left).2 (storing second right).2 := by
  cases alike with
  | ok both =>
      obtain ⟨answers, still⟩ := both
      exact ⟨congrArg (fun stored => StoreAnswer.stored (.ok stored)) answers, same.jobs,
        still⟩
  | error fault => exact ⟨rfl, same⟩

theorem storing_foreign {owner name contentType : String} {data : List UInt8}
    (foreign : owner ≠ tenantId) :
    SameFor tenantId (storing first (first.artifacts.put owner name data contentType)).2
      first := by
  cases puts : first.artifacts.put owner name data contentType with
  | ok result => exact ⟨ResearchPlatform.SameFor.refl _,
      InMemoryArtifactStore.sameFor_put foreign puts⟩
  | error error => exact ⟨ResearchPlatform.SameFor.refl _, rfl⟩

theorem serve_seen (call : StoreCall) (same : SameFor tenantId first second)
    (own : decide (call.tenant = tenantId) = true) :
    (serve first call).1 = (serve second call).1 ∧
      SameFor tenantId (serve.next first call) (serve.next second call) := by
  have own := of_decide_eq_true own
  cases call with
  | job call stamps =>
      obtain ⟨answers, still⟩ := serve_own call stamps own same.jobs
      exact ⟨congrArg StoreAnswer.job answers, still, same.artifacts⟩
  | put owner name data contentType =>
      exact SameFor.storing same same.artifacts.put
  | get owner name =>
      obtain rfl : owner = tenantId := own
      exact ⟨congrArg StoreAnswer.data same.artifacts.get, same⟩

theorem serve_unseen (call : StoreCall) (same : SameFor tenantId first second)
    (foreign : decide (call.tenant = tenantId) = false) :
    SameFor tenantId (serve.next first call) second := by
  have foreign := of_decide_eq_false foreign
  cases call with
  | job call stamps =>
      exact ⟨(serve_foreign call stamps foreign).trans same.jobs, same.artifacts⟩
  | put owner name data contentType =>
      exact (storing_foreign foreign).trans same
  | get owner name => exact same

end TenantStores

/-- No tenant can tell whether the calls of the others were made. -/
theorem stores_noninterference (tenantId : String) (stores : TenantStores)
    (calls : List StoreCall) :
    TenantStores.serve.answersTo (·.tenant = tenantId) stores calls =
      TenantStores.serve.answers stores (calls.filter (·.tenant = tenantId)) :=
  Service.answersTo_eq_answers_filter (fun _ _ call => TenantStores.serve_seen call)
    (fun _ _ call => TenantStores.serve_unseen call)
    ⟨SameFor.refl stores.jobs, rfl⟩ calls

end ResearchPlatform
