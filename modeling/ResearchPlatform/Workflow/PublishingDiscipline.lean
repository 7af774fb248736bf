import ResearchPlatform.Foundation.Pool
import ResearchPlatform.Workflow.StoredActivities

/-!
# The discipline of publishing

Attempts to publish one job run over stores that others use as well.  The attempts
agree on terms: what may be put under each name and what a publication may say.  An
attempt that has put all four artifacts may publish, and whatever the others do, a
publication of the job then says what the terms allow and every artifact it needs is
stored as they allow.
-/

namespace ResearchPlatform

open Foundation Program Publishing PublicationActivities

/-- The names under which the artifacts of a job are stored. -/
def artifactNames (jobId : UUID) : List String :=
  [reportJsonName, reportMarkdownName, manifestName, evidenceBundleName].map
    (jobArtifact jobId)

/-- Calls of others: none publishes this job or puts one of its artifacts. -/
def StoreCall.IsElsewhere (key : JobKey) : StoreCall → Prop
  | job (.recordPublication publication) _ => publication.key ≠ key
  | job _ _ => True
  | put tenantId name _ _ => tenantId = key.1 → name ∉ artifactNames key.2
  | get _ _ => True

/-! ## Terms -/

/-- What the attempts to publish one job agree on: what may be put under a name, what
a publication may say, and what holds of the job's evidence throughout. -/
structure PublishingTerms where
  key : JobKey
  fits : String → ArtifactContent → Prop
  states : ReportPublication → Prop
  known : List EvidenceRecord → Prop

namespace PublishingTerms

section Discipline

variable (rendering : Rendering) (terms : PublishingTerms)

/-- Under the name there is something that fits. -/
def Stored (stores : TenantStores) (name : String) : Prop :=
  ∃ content, terms.fits name content ∧
    stores.artifacts.get terms.key.1 name = .ok (rendering.bytes content)

/-- The monitor that keeps the names an attempt has put, newest first. -/
def putNames :
    Monitor PublishingCall PublishingCall.Answer PyException (List String) where
  observe names event :=
    match event with
    | ⟨.put _ name _ _, .ok _⟩ => name :: names
    | _ => names
  admits _ event :=
    match event with
    | ⟨.listEvidence tenantId jobId, .ok evidence⟩ =>
        (tenantId, jobId) = terms.key → terms.known evidence
    | _ => True

/-- An attempt puts what fits, and publishes after it has put all four artifacts. -/
def Permits (names : List String) : PublishingCall → Prop
  | .put tenantId name content _ => tenantId = terms.key.1 ∧ terms.fits name content
  | .recordPublication publication =>
      publication.key = terms.key ∧ terms.states publication ∧
        ∀ name ∈ artifactNames terms.key.2, name ∈ names
  | _ => True

/-- A publication of the job keeps to the terms, and so do its artifacts. -/
def Law (stores : TenantStores) : Prop :=
  ∀ publication, stores.jobs.publications.get? terms.key = some publication →
    terms.states publication ∧
      ∀ name ∈ artifactNames terms.key.2, terms.Stored rendering stores name

def discipline :
    Discipline PublishingCall PublishingCall.Answer PyException TenantStores
      (List String) ReportPublication where
  monitor := terms.putNames
  permits := terms.Permits
  relies names stores := ∀ name ∈ artifactNames terms.key.2, name ∈ names →
    terms.Stored rendering stores name
  ends _ _ := True
  invariant stores :=
    terms.known (stores.jobs.evidenceOf terms.key) ∧ terms.Law rendering stores

end Discipline

/-! ## An attempt -/

section Attempt

variable {rendering : Rendering} {terms : PublishingTerms} {job : ResearchJob}
  {report : ResearchReport} {names : List String}

/-- The terms allow what an attempt to publish the report does. -/
structure Allows (terms : PublishingTerms) (reportJson : ResearchReport → String)
    (job : ResearchJob) (report : ResearchReport) : Prop where
  ofJob : job.key = terms.key
  reportFits : terms.fits (jobArtifact job.id reportJsonName) (.reportJson report)
  markdownFits : ∀ shortfalls evidence checks,
    terms.fits (jobArtifact job.id reportMarkdownName)
      (.markdown job report shortfalls evidence checks)
  manifestFits : ∀ manifest : ProvenanceManifest,
    manifest.reportSha256 = sha256Text (reportJson report) →
      terms.fits (jobArtifact job.id manifestName) (.manifest manifest)
  bundleFits : ∀ evidence, terms.known evidence →
    terms.fits (jobArtifact job.id evidenceBundleName)
      (.evidenceBundle (evidence.filter (·.isPublishable)))
  mayBeSaid : ∀ (publication : ReportPublication) evidence cited, terms.known evidence →
    report.citedEvidenceIds = .ok cited →
      publication.Describes reportJson job report evidence cited → terms.states publication

/-- Looking at the sources again puts nothing. -/
theorem guarded_checkEach (invocations : List ToolInvocation)
    (evidence : List EvidenceRecord) :
    (checkEach job report invocations evidence).Guarded terms.putNames terms.Permits names
      fun _ last => last = names := by
  induction evidence with
  | nil => exact rfl
  | cons record rest inductionHypothesis =>
      apply guarded_lift_bind
      · intro citedIds _
        split
        · exact inductionHypothesis
        · apply guarded_perform_bind trivial
          · intro check _
            apply guarded_bind.mpr
            apply inductionHypothesis.mono
            intro outcome last same
            cases outcome with
            | ok checks => exact same
            | error fault => exact same
          · exact fun _ => rfl
      · exact fun _ => rfl

theorem guarded_checkSources (hasChecker : Bool) (evidence : List EvidenceRecord)
    (invocations : List ToolInvocation) :
    (checkSources hasChecker job report evidence invocations).Guarded terms.putNames
      terms.Permits names fun _ last => last = names := by
  unfold checkSources
  split
  · exact guarded_checkEach invocations evidence
  · exact rfl

/-- An attempt that the terms allow keeps to the discipline. -/
theorem guarded_publish (hasChecker : Bool) (shortfalls : List String)
    (allowed : terms.Allows rendering.reportJson job report) :
    (publish rendering.reportJson hasChecker job report shortfalls).Guarded terms.putNames
      terms.Permits [] fun _ _ => True := by
  have sameTenant : job.tenantId = terms.key.1 := congrArg Prod.fst allowed.ofJob
  have sameId : terms.key.2 = job.id := (congrArg Prod.snd allowed.ofJob).symm
  unfold publish
  apply guarded_perform_bind trivial _ fun _ => trivial
  intro evidence admitted
  have known : terms.known evidence := admitted allowed.ofJob
  apply guarded_perform_bind trivial _ fun _ => trivial
  intro findings _
  apply guarded_perform_bind trivial _ fun _ => trivial
  intro invocations _
  apply guarded_bind.mpr
  apply (guarded_checkSources hasChecker evidence invocations).mono
  rintro outcome last rfl
  cases outcome with
  | error fault => trivial
  | ok checks =>
      apply guarded_perform_bind trivial _ fun _ => trivial
      intro generatedAt _
      apply guarded_lift_bind _ fun _ => trivial
      intro manifest built
      have hashes : manifest.reportSha256 = sha256Text (rendering.reportJson report) := by
        obtain ⟨_, -, rfl⟩ := map_eq_ok.mp (mapError_eq_ok.mp built)
        rfl
      apply guarded_perform_bind ⟨sameTenant, allowed.reportFits⟩ _ fun _ => trivial
      intro _ _
      apply guarded_perform_bind ⟨sameTenant, allowed.markdownFits shortfalls evidence checks⟩
        _ fun _ => trivial
      intro _ _
      apply guarded_perform_bind ⟨sameTenant, allowed.manifestFits manifest hashes⟩ _
        fun _ => trivial
      intro _ _
      apply guarded_perform_bind ⟨sameTenant, allowed.bundleFits evidence known⟩ _
        fun _ => trivial
      intro _ _
      apply guarded_lift_bind _ fun _ => trivial
      intro citedIds cites
      apply guarded_perform_bind trivial _ fun _ => trivial
      intro publishedAt _
      have allPut : ∀ name ∈ artifactNames terms.key.2,
          name ∈ [evidenceBundleName, manifestName, reportMarkdownName,
            reportJsonName].map (jobArtifact job.id) := by
        rw [sameId]
        intro name member
        exact (List.reverse_perm _).mem_iff.mp member
      have said := fun publication => allowed.mayBeSaid publication evidence citedIds known
        (mapError_eq_ok.mp cites)
      apply guarded_perform_bind _ _ fun _ => trivial
      · exact ⟨allowed.ofJob, said _ ⟨rfl, rfl, rfl, rfl, rfl, rfl, rfl, rfl⟩, allPut⟩
      · exact fun _ _ => trivial

end Attempt

/-! ## The calls of an attempt -/

section Calls

variable {rendering : Rendering} {terms : PublishingTerms} {names : List String}
  {stores changed : TenantStores} {name : String} {call : PublishingCall}
  {answer : Except PyException call.Answer}

/-- What fits stays under a name, whatever else an attempt does. -/
theorem Stored.serve {readings : Readings} (stored : terms.Stored rendering stores name)
    (permitted : terms.Permits names call) :
    terms.Stored rendering (PublicationActivities.serve rendering readings stores call).2
      name := by
  cases call with
  | put tenantId other content contentType =>
      obtain ⟨rfl, fits⟩ := permitted
      rcases serve_put with ⟨_, artifacts, puts, served⟩ | ⟨fault, served⟩
      · rw [served]
        by_cases sameName : name = other
        · subst sameName
          exact ⟨content, fits, InMemoryArtifactStore.get_of_put puts⟩
        · obtain ⟨kept, keptFits, got⟩ := stored
          refine ⟨kept, keptFits, ?_⟩
          rw [← got]
          apply InMemoryArtifactStore.get_of_put_of_ne _ puts
          exact fun same => sameName (Prod.mk.inj same).2
      · rw [served]
        exact stored
  | recordPublication publication =>
      rcases serve_recordPublication with left | left
      · rw [left]
        exact stored
      · rw [left]
        exact stored
  | listEvidence | listFindings | listInvocations | checkSource | utcNow => exact stored

/-- No effect of a permitted call removes what fits. -/
theorem Stored.effect (stored : terms.Stored rendering stores name)
    (permitted : terms.Permits names call)
    (effect : Effect rendering stores call answer changed) :
    terms.Stored rendering changed name := by
  rcases effect.changed_eq with same | ⟨readings, same⟩
  · rw [same]
    exact stored
  · rw [same]
    exact stored.serve permitted

/-- What was put is stored. -/
theorem stored_of_put {content : ArtifactContent} {contentType : String}
    (effect :
      Effect rendering stores (.put terms.key.1 name content contentType) (.ok ()) changed)
    (fits : terms.fits name content) : terms.Stored rendering changed name := by
  obtain ⟨readings, served⟩ := effect.served_of_ok
  obtain ⟨_, artifacts, puts, rfl⟩ := put_of_serve served
  exact ⟨content, fits, InMemoryArtifactStore.get_of_put puts⟩

/-- What an attempt has put it finds stored. -/
theorem relies_advance (relied : (terms.discipline rendering).relies names stores)
    (permitted : terms.Permits names call)
    (effect : Effect rendering stores call answer changed) :
    (terms.discipline rendering).relies
      (terms.putNames.observe names ⟨call, answer⟩) changed := by
  intro name isArtifact isPut
  have still : name ∈ names → terms.Stored rendering changed name :=
    fun earlier => (relied name isArtifact earlier).effect permitted effect
  cases call with
  | put tenantId other content contentType =>
      cases answer with
      | ok value =>
          rcases List.mem_cons.mp isPut with rfl | earlier
          · obtain ⟨rfl, fits⟩ := permitted
            exact stored_of_put effect fits
          · exact still earlier
      | error fault => exact still isPut
  | listEvidence | listFindings | listInvocations | checkSource | utcNow
  | recordPublication => exact still isPut

/-- A publication that is recorded keeps to the terms. -/
theorem law_effect (law : terms.Law rendering stores)
    (relied : (terms.discipline rendering).relies names stores)
    (permitted : terms.Permits names call)
    (effect : Effect rendering stores call answer changed) :
    terms.Law rendering changed := by
  intro publication published
  have kept (earlier : stores.jobs.publications.get? terms.key = some publication) :
      terms.states publication ∧
        ∀ name ∈ artifactNames terms.key.2, terms.Stored rendering changed name := by
    obtain ⟨stated, complete⟩ := law publication earlier
    exact ⟨stated, fun name member => (complete name member).effect permitted effect⟩
  rcases effect.changed_eq with same | ⟨readings, same⟩
  · rw [same] at published
    exact kept published
  · have publications := @publications_serve rendering readings stores call
    rw [← same] at publications
    rcases publications with same | ⟨recorded, rfl, set⟩
    · rw [same] at published
      exact kept published
    · have recording := permitted
      obtain ⟨ofJob, stated, allPut⟩ := permitted
      rw [set, ofJob, Dict.get?_set_self] at published
      rw [← Option.some.inj published]
      refine ⟨stated, ?_⟩
      intro name member
      exact (relied name member (allPut name member)).effect recording effect

/-- What an attempt lists is the job's evidence. -/
theorem admitted_effect (known : terms.known (stores.jobs.evidenceOf terms.key))
    (effect : Effect rendering stores call answer changed) :
    terms.putNames.admits names ⟨call, answer⟩ := by
  cases call with
  | listEvidence tenantId jobId =>
      cases answer with
      | error fault => trivial
      | ok evidence =>
          intro sameKey
          obtain ⟨readings, served⟩ := effect.served_of_ok
          obtain ⟨listed, -⟩ := Prod.mk.inj served
          obtain ⟨_, -, same⟩ := map_eq_ok.mp (mapError_eq_ok.mp listed)
          rw [← same, sameKey]
          exact known
  | listFindings | listInvocations | checkSource | utcNow | put | recordPublication =>
      trivial

end Calls

/-! ## Others -/

section Others

variable {rendering : Rendering} {terms : PublishingTerms} {stores : TenantStores}
  {name : String} {call : StoreCall} {key : JobKey}

/-- No call from elsewhere changes the job's publication. -/
theorem publication_next (elsewhere : call.IsElsewhere key) :
    (TenantStores.serve.next stores call).jobs.publications.get? key =
      stores.jobs.publications.get? key := by
  cases call with
  | job call stamps =>
      have wrote := wrote_serve stores.jobs call stamps
      change (JobRepository.inMemory.serve stores.jobs (call, stamps)).2.publications.get?
        key = _
      generalize (JobRepository.inMemory.serve stores.jobs (call, stamps)).2 = updated
        at wrote
      cases wrote with
      | nothing => rfl
      | job owned => rfl
      | evidence => rfl
      | invocation => rw [InMemoryJobRepository.publications_recordInvocation]
      | findings => rfl
      | publication => exact Dict.get?_set_of_ne _ _ (Ne.symm elsewhere)
  | put tenantId other data contentType =>
      change (TenantStores.storing stores _).2.jobs.publications.get? key = _
      unfold TenantStores.storing
      split <;> rfl
  | get tenantId other => rfl

/-- No call from elsewhere changes an artifact of the job. -/
theorem artifact_next (elsewhere : call.IsElsewhere key)
    (isArtifact : name ∈ artifactNames key.2) :
    (TenantStores.serve.next stores call).artifacts.get key.1 name =
      stores.artifacts.get key.1 name := by
  cases call with
  | job call stamps => rfl
  | put tenantId other data contentType =>
      change (TenantStores.storing stores _).2.artifacts.get key.1 name = _
      cases puts : stores.artifacts.put tenantId other data contentType with
      | error error => rfl
      | ok result =>
          apply InMemoryArtifactStore.get_of_put_of_ne _ puts
          intro same
          obtain ⟨sameTenant, sameName⟩ := Prod.mk.inj same
          exact elsewhere sameTenant.symm (sameName ▸ isArtifact)
  | get tenantId other => rfl

theorem Stored.next (stored : terms.Stored rendering stores name)
    (elsewhere : call.IsElsewhere terms.key)
    (isArtifact : name ∈ artifactNames terms.key.2) :
    terms.Stored rendering (TenantStores.serve.next stores call) name := by
  obtain ⟨content, fits, got⟩ := stored
  refine ⟨content, fits, ?_⟩
  rw [artifact_next elsewhere isArtifact]
  exact got

theorem law_next (law : terms.Law rendering stores)
    (elsewhere : call.IsElsewhere terms.key) :
    terms.Law rendering (TenantStores.serve.next stores call) := by
  intro publication published
  rw [publication_next elsewhere] at published
  obtain ⟨stated, complete⟩ := law publication published
  exact ⟨stated, fun name member => (complete name member).next elsewhere member⟩

end Others

/-- Attempts that the terms allow keep the discipline, among calls from elsewhere that
keep what is known of the evidence. -/
theorem keptBy {rendering : Rendering} {terms : PublishingTerms}
    {setting : Setting PublishingCall PublishingCall.Answer PyException TenantStores
      ReportPublication}
    (starts : ∀ program, setting.starts program → ∃ hasChecker job report shortfalls,
      terms.Allows rendering.reportJson job report ∧
        program = publish rendering.reportJson hasChecker job report shortfalls)
    (effect : ∀ stores call answer changed, setting.effect stores call answer changed →
      Effect rendering stores call answer changed)
    (outside : ∀ stores changed, setting.outside stores changed →
      (∃ call : StoreCall, call.IsElsewhere terms.key ∧
        changed = TenantStores.serve.next stores call) ∧
      (terms.known (stores.jobs.evidenceOf terms.key) →
        terms.known (changed.jobs.evidenceOf terms.key))) :
    (terms.discipline rendering).KeptBy setting where
  start := by
    intro stores program _ isAttempt
    obtain ⟨hasChecker, job, report, shortfalls, allowed, rfl⟩ := starts program isAttempt
    exact ⟨[], fun name _ none => absurd none List.not_mem_nil,
      guarded_publish hasChecker shortfalls allowed⟩
  admitted invariant _ answered := admitted_effect invariant.1 (effect _ _ _ _ answered)
  invariant := by
    intro stores changed names call answer invariant relied permitted answered
    have happened := effect _ _ _ _ answered
    refine ⟨?_, law_effect invariant.2 relied permitted happened⟩
    rw [evidenceOf_effect happened]
    exact invariant.1
  advance _ relied permitted answered :=
    relies_advance relied permitted (effect _ _ _ _ answered)
  others _ permitted answered relied name isArtifact isPut :=
    (relied name isArtifact isPut).effect permitted (effect _ _ _ _ answered)
  invariant_outside changes invariant := by
    obtain ⟨⟨call, elsewhere, rfl⟩, keeps⟩ := outside _ _ changes
    exact ⟨keeps invariant.1, law_next invariant.2 elsewhere⟩
  relies_outside changes relied name isArtifact isPut := by
    obtain ⟨⟨call, elsewhere, rfl⟩, -⟩ := outside _ _ changes
    exact (relied name isArtifact isPut).next elsewhere isArtifact

end PublishingTerms

end ResearchPlatform
