import ResearchPlatform.Foundation.Redelivery
import ResearchPlatform.Workflow.PipelineActivities

/-!
# Activities that are delivered again

The activities of `JobActivities` may each be carried out any number of times before the
workflow goes on.  A status change and a piece of evidence are settled by the first
delivery that goes through, and the findings of a job are those of the last.
-/

namespace ResearchPlatform

open Foundation Program

/-- What one delivery of an activity reads: fresh identifiers, the clock and the ledger. -/
structure Delivery where
  id : UUID
  now : Timestamp
  usage : Option JobUsage := none
  finding : Nat → UUID × Timestamp

/-- The job that an accepted move leaves. -/
def ResearchJob.movedTo (job : ResearchJob) (target : JobStatus) (detail : Option String)
    (usage : Option JobUsage) (now : Timestamp) : ResearchJob :=
  { job with
    status := target
    statusDetail := keptDetail detail
    usage := usage.getD job.usage
    updatedAt := now }

/-! ## One activity -/

namespace JobActivities

open PipelineActivities (performing performing_eq_iff)

variable {repository updated : InMemoryJobRepository} {tenantId : String} {jobId : UUID}
  {target : JobStatus} {detail : Option String} {command : EvidenceRecordCreate}
  {record : EvidenceRecord} {moved : ResearchJob} {error : ServiceError}
  {first again : Delivery}

/-- One delivery of `transition_job`. -/
def deliverTransition (tenantId : String) (jobId : UUID) (target : JobStatus)
    (detail : Option String) (stores : TenantStores) (delivery : Delivery) :
    Except PyException ResearchJob × TenantStores :=
  performing stores
    (transition stores.jobs tenantId jobId target detail delivery.usage delivery.now)

/-- One delivery of `add_job_evidence`. -/
def deliverEvidence (tenantId : String) (jobId : UUID) (command : EvidenceRecordCreate)
    (stores : TenantStores) (delivery : Delivery) :
    Except PyException EvidenceRecord × TenantStores :=
  performing stores
    (addEvidence stores.jobs tenantId jobId command delivery.id delivery.now)

/-- One delivery of `record_job_findings`. -/
def deliverFindings (tenantId : String) (jobId : UUID) (findings : List Finding)
    (stores : TenantStores) (delivery : Delivery) :
    Except PyException (List FindingRecord) × TenantStores :=
  performing stores
    (recordFindings stores.jobs tenantId jobId findings delivery.finding)

/-- What a move comes to, case by case. -/
theorem transition_eq (repository : InMemoryJobRepository) (usage : Option JobUsage)
    (now : Timestamp) :
    transition repository tenantId jobId target detail usage now =
      match repository.get tenantId jobId with
      | .error missing => .error missing
      | .ok job =>
          if job.status = target then .ok (job, repository)
          else if target ∈ job.status.allowedTransitions then
            .ok (job.movedTo target detail usage now,
              repository.add (job.movedTo target detail usage now))
          else .error (.invalidStateTransition ⟨job.status, target⟩) := by
  unfold transition ResearchJobService.transition
  cases found : repository.get tenantId jobId with
  | error missing => rfl
  | ok job =>
      simp only [Bind.bind, Except.bind]
      by_cases already : job.status = target
      · rw [if_pos already, if_pos already]
        rfl
      · rw [if_neg already, if_neg already]
        unfold ResearchJob.transitionTo
        by_cases permitted : target ∈ job.status.allowedTransitions
        · have sameKey : job.key = (tenantId, jobId) := JobTable.key_of_get found
          have updates : repository.jobs.update (job.movedTo target detail usage now) =
              .ok (repository.jobs.add (job.movedTo target detail usage now)) :=
            JobTable.update_eq_ok found sameKey
          rw [if_pos permitted, if_pos permitted]
          unfold InMemoryJobRepository.update
          simp only [ResearchJob.movedTo] at updates ⊢
          rw [updates]
          rfl
        · rw [if_neg permitted, if_neg permitted]
          rfl

/-- A move that was made is found made. -/
theorem transition_again
    (moves : transition repository tenantId jobId target detail first.usage first.now =
      .ok (moved, updated)) :
    transition updated tenantId jobId target detail again.usage again.now =
      .ok (moved, updated) := by
  rw [transition_eq] at moves ⊢
  cases found : repository.get tenantId jobId with
  | error missing =>
      rw [found] at moves
      cases moves
  | ok job =>
      rw [found] at moves
      dsimp only at moves
      split at moves
      · rename_i already
        obtain ⟨rfl, rfl⟩ := Prod.mk.inj (Except.ok.inj moves)
        rw [found]
        exact if_pos already
      · split at moves
        · obtain ⟨rfl, rfl⟩ := Prod.mk.inj (Except.ok.inj moves)
          obtain ⟨rfl, rfl⟩ : job.tenantId = tenantId ∧ job.id = jobId :=
            Prod.mk.inj (JobTable.key_of_get found)
          have isMoved : (repository.add (job.movedTo target detail first.usage
              first.now)).get job.tenantId job.id =
                .ok (job.movedTo target detail first.usage first.now) :=
            JobTable.get_add_self
          rw [isMoved]
          exact if_pos rfl
        · cases moves

/-- A move that was refused is refused again: it is the status of the job that refuses. -/
theorem transition_refused
    (refused : transition repository tenantId jobId target detail first.usage first.now =
      .error error) :
    transition repository tenantId jobId target detail again.usage again.now =
      .error error := by
  rw [transition_eq] at refused ⊢
  cases found : repository.get tenantId jobId with
  | error missing =>
      rw [found] at refused
      exact refused
  | ok job =>
      rw [found] at refused
      dsimp only at refused ⊢
      split at refused
      · cases refused
      · rename_i elsewhere
        split at refused
        · cases refused
        · rename_i forbidden
          rw [if_neg elsewhere, if_neg forbidden]
          exact refused

/-- A move that is asked for again is found made, or is refused again. -/
theorem redeliver_transition (stores : TenantStores) (rest : List Delivery) :
    redeliver (deliverTransition tenantId jobId target detail) stores first rest =
      deliverTransition tenantId jobId target detail stores first := by
  apply redeliver_eq_first
  intro again _
  unfold deliverTransition
  cases outcome : transition stores.jobs tenantId jobId target detail first.usage
      first.now with
  | ok result =>
      dsimp only [performing]
      rw [transition_again outcome]
  | error error =>
      dsimp only [performing]
      rw [transition_refused outcome]

/-- What a record comes to, case by case. -/
theorem addEvidence_eq (repository : InMemoryJobRepository) (id : UUID) (now : Timestamp) :
    addEvidence repository tenantId jobId command id now =
      match repository.get tenantId jobId with
      | .error missing => .error missing
      | .ok _ =>
          match (repository.evidenceOf (tenantId, jobId)).find? (isSameRecord command) with
          | some existing => .ok (existing, repository)
          | none =>
              if command.Published now then
                .ok (⟨command, id, jobId, tenantId, now⟩,
                  repository.appendEvidence ⟨command, id, jobId, tenantId, now⟩)
              else .error (.invalidEvidence
                ⟨"evidence cannot carry a future publication date"⟩) := by
  unfold addEvidence ResearchJobService.addEvidence InMemoryJobRepository.listEvidence
  cases found : repository.get tenantId jobId with
  | error missing => rfl
  | ok job =>
      simp only [Bind.bind, Except.bind, Except.map]
      cases (repository.evidenceOf (tenantId, jobId)).find? (isSameRecord command) with
      | some existing => rfl
      | none =>
          dsimp only
          split
          · unfold InMemoryJobRepository.addEvidence
            rw [found]
            rfl
          · rfl

theorem evidenceOf_appendEvidence_self {id : UUID} {now : Timestamp} :
    (repository.appendEvidence ⟨command, id, jobId, tenantId, now⟩).evidenceOf
        (tenantId, jobId) =
      repository.evidenceOf (tenantId, jobId) ++ [⟨command, id, jobId, tenantId, now⟩] := by
  have isIts : EvidenceRecord.key ⟨command, id, jobId, tenantId, now⟩ = (tenantId, jobId) :=
    rfl
  rw [InMemoryJobRepository.evidenceOf_appendEvidence, if_pos isIts]

/-- A record is found by what it was made from. -/
theorem isSameRecord_self (id : UUID) (now : Timestamp) :
    isSameRecord command ⟨command, id, jobId, tenantId, now⟩ = true := by
  simp [isSameRecord]

/-- Whatever was done with a record is found done. -/
theorem addEvidence_again {id : UUID} {now : Timestamp}
    (adds : addEvidence repository tenantId jobId command id now = .ok (record, updated)) :
    addEvidence updated tenantId jobId command again.id again.now = .ok (record, updated) := by
  rw [addEvidence_eq] at adds ⊢
  cases found : repository.get tenantId jobId with
  | error missing =>
      rw [found] at adds
      cases adds
  | ok job =>
      rw [found] at adds
      cases stored : (repository.evidenceOf (tenantId, jobId)).find?
          (isSameRecord command) with
      | some existing =>
          rw [stored] at adds
          obtain ⟨rfl, rfl⟩ := Prod.mk.inj (Except.ok.inj adds)
          rw [found]
          dsimp only
          rw [stored]
      | none =>
          rw [stored] at adds
          dsimp only at adds
          split at adds
          · obtain ⟨rfl, rfl⟩ := Prod.mk.inj (Except.ok.inj adds)
            have still : (repository.appendEvidence ⟨command, id, jobId, tenantId, now⟩).get
                tenantId jobId = .ok job := found
            have isStored : ((repository.appendEvidence
                ⟨command, id, jobId, tenantId, now⟩).evidenceOf (tenantId, jobId)).find?
                  (isSameRecord command) = some ⟨command, id, jobId, tenantId, now⟩ := by
              rw [evidenceOf_appendEvidence_self, List.find?_append, stored, Option.none_or]
              exact List.find?_cons_of_pos (isSameRecord_self id now)
            rw [still]
            dsimp only
            rw [isStored]
          · cases adds

/-- The clock has passed the date of the record. -/
def isReady (command : EvidenceRecordCreate) (delivery : Delivery) : Bool :=
  command.Published delivery.now

/-- Before its date nothing becomes of a record. -/
theorem addEvidence_early (early : isReady command first = false) :
    addEvidence repository tenantId jobId command first.id first.now =
      match repository.get tenantId jobId with
      | .error missing => .error missing
      | .ok _ =>
          match (repository.evidenceOf (tenantId, jobId)).find? (isSameRecord command) with
          | some existing => .ok (existing, repository)
          | none => .error (.invalidEvidence
              ⟨"evidence cannot carry a future publication date"⟩) := by
  rw [addEvidence_eq, if_neg (of_decide_eq_false early)]

/-- From its date on, a record is refused only where there is no job. -/
theorem addEvidence_refused (ready : isReady command first = true)
    (refused : addEvidence repository tenantId jobId command first.id first.now =
      .error error) :
    addEvidence repository tenantId jobId command again.id again.now = .error error := by
  rw [addEvidence_eq] at refused ⊢
  cases found : repository.get tenantId jobId with
  | error missing =>
      rw [found] at refused
      exact refused
  | ok job =>
      rw [found, if_pos (of_decide_eq_true ready)] at refused
      dsimp only at refused
      split at refused <;> cases refused

/-- A record is settled by the first delivery that its date allows. -/
theorem redeliver_evidence (stores : TenantStores) (rest : List Delivery) :
    redeliver (deliverEvidence tenantId jobId command) stores first rest =
      deliverEvidence tenantId jobId command stores
        (((first :: rest).find? (isReady command)).getD first) := by
  apply redeliver_eq_find
  · intro stamp again early
    unfold deliverEvidence
    rw [addEvidence_early early]
    constructor
    · cases stores.jobs.get tenantId jobId with
      | error missing => rfl
      | ok job =>
          dsimp only
          cases (stores.jobs.evidenceOf (tenantId, jobId)).find? (isSameRecord command) <;> rfl
    · intro alsoEarly
      rw [addEvidence_early alsoEarly]
  · intro stamp again ready
    unfold deliverEvidence
    cases outcome : addEvidence stores.jobs tenantId jobId command stamp.id stamp.now with
    | ok result =>
        dsimp only [performing]
        rw [addEvidence_again outcome]
    | error error =>
        dsimp only [performing]
        rw [addEvidence_refused ready outcome]

/-- Findings are those that were recorded last. -/
theorem redeliver_findings (findings : List Finding) (stores : TenantStores)
    (rest : List Delivery) :
    redeliver (deliverFindings tenantId jobId findings) stores first rest =
      deliverFindings tenantId jobId findings stores (rest.getLastD first) := by
  apply redeliver_eq_last
  intro stores stamp again
  unfold deliverFindings recordFindings ResearchJobService.recordFindings
    InMemoryJobRepository.replaceFindings
  cases found : stores.jobs.get tenantId jobId with
  | error missing =>
      simp only [Bind.bind, Except.bind, performing, found]
  | ok job =>
      have still (findings : Dict JobKey (List FindingRecord)) :
          InMemoryJobRepository.get { stores.jobs with findings := findings } tenantId jobId =
            .ok job := found
      simp only [Bind.bind, Except.bind, Except.map, pure, Except.pure, performing, still,
        Dict.set_set]

end JobActivities

/-! ## A run of the workflow -/

/-- How each call of `JobActivities` is delivered: once, and then again so many times.
It may depend on how many calls there have been before. -/
abbrev Deliveries : Type := Nat → PipelineCall → Delivery × List Delivery

/-- The stores of a deployment, what the other activities keep, and the number of calls of
`JobActivities` so far. -/
structure DeliveryWorld (World : Type) where
  stores : TenantStores
  others : World
  delivered : Nat := 0

namespace DeliveryWorld

variable {World : Type}

/-- One more call of `JobActivities` has been answered. -/
def landed {Value : Type} (world : DeliveryWorld World)
    (result : Except PyException Value × TenantStores) :
    Except PyException Value × DeliveryWorld World :=
  (result.1, { world with stores := result.2, delivered := world.delivered + 1 })

/-- Carry out an activity as often as it is delivered. -/
def carry {Value : Type} (world : DeliveryWorld World)
    (perform : TenantStores → Delivery → Except PyException Value × TenantStores)
    (deliveries : Delivery × List Delivery) :
    Except PyException Value × DeliveryWorld World :=
  world.landed (redeliver perform world.stores deliveries.1 deliveries.2)

/-- What answers a run of the workflow: `JobActivities`, delivered at least once, and the
other activities, which may read and write the stores. -/
def handler (deliveries : Deliveries)
    (others : Handler PipelineCall PipelineCall.Answer PyException (DeliveryWorld World)) :
    Handler PipelineCall PipelineCall.Answer PyException (DeliveryWorld World)
  | world, .transition tenantId jobId target detail =>
      world.carry (JobActivities.deliverTransition tenantId jobId target detail)
        (deliveries world.delivered (.transition tenantId jobId target detail))
  | world, .addEvidence tenantId jobId command =>
      world.carry (JobActivities.deliverEvidence tenantId jobId command)
        (deliveries world.delivered (.addEvidence tenantId jobId command))
  | world, .recordFindings tenantId jobId findings =>
      world.carry (JobActivities.deliverFindings tenantId jobId findings)
        (deliveries world.delivered (.recordFindings tenantId jobId findings))
  | world, call => others world call

/-- The delivery that counts: the last one of findings, the first one of evidence that its
date allows, and the first one of a move. -/
def settling : PipelineCall → Delivery × List Delivery → Delivery
  | .addEvidence _ _ command, (first, rest) =>
      ((first :: rest).find? (JobActivities.isReady command)).getD first
  | .recordFindings .., (first, rest) => rest.getLastD first
  | _, (first, _) => first

theorem settling_mem (call : PipelineCall) (deliveries : Delivery × List Delivery) :
    settling call deliveries ∈ deliveries.1 :: deliveries.2 := by
  obtain ⟨first, rest⟩ := deliveries
  cases call with
  | addEvidence tenantId jobId command =>
      change ((first :: rest).find? (JobActivities.isReady command)).getD first ∈ first :: rest
      cases found : (first :: rest).find? (JobActivities.isReady command) with
      | some delivery => exact List.mem_of_find?_eq_some found
      | none => exact List.mem_cons_self
  | recordFindings tenantId jobId findings => exact List.getLastD_mem_cons
  | _ => exact List.mem_cons_self

/-- The same calls, each delivered once. -/
def once (deliveries : Deliveries) : Deliveries := fun count call =>
  (settling call (deliveries count call), [])

variable {deliveries : Deliveries} {world : DeliveryWorld World}
  {others : Handler PipelineCall PipelineCall.Answer PyException (DeliveryWorld World)}

theorem handler_transition (tenantId : String) (jobId : UUID) (target : JobStatus)
    (detail : Option String) :
    handler deliveries others world (.transition tenantId jobId target detail) =
      world.landed (JobActivities.deliverTransition tenantId jobId target detail world.stores
        (once deliveries world.delivered (.transition tenantId jobId target detail)).1) :=
  congrArg world.landed (JobActivities.redeliver_transition ..)

theorem handler_addEvidence (tenantId : String) (jobId : UUID)
    (command : EvidenceRecordCreate) :
    handler deliveries others world (.addEvidence tenantId jobId command) =
      world.landed (JobActivities.deliverEvidence tenantId jobId command world.stores
        (once deliveries world.delivered (.addEvidence tenantId jobId command)).1) :=
  congrArg world.landed (JobActivities.redeliver_evidence ..)

theorem handler_recordFindings (tenantId : String) (jobId : UUID) (findings : List Finding) :
    handler deliveries others world (.recordFindings tenantId jobId findings) =
      world.landed (JobActivities.deliverFindings tenantId jobId findings world.stores
        (once deliveries world.delivered (.recordFindings tenantId jobId findings)).1) :=
  congrArg world.landed (JobActivities.redeliver_findings ..)

/-- A call that is delivered again is answered, and leaves the stores, as if it had been
delivered once. -/
theorem handler_once (call : PipelineCall) :
    handler (once deliveries) others world call = handler deliveries others world call := by
  cases call with
  | transition tenantId jobId target detail => exact (handler_transition ..).symm
  | addEvidence tenantId jobId command => exact (handler_addEvidence ..).symm
  | recordFindings tenantId jobId findings => exact (handler_recordFindings ..).symm
  | _ => rfl

end DeliveryWorld

/-- At-least-once delivery is harmless: however often the activities are delivered, a run
of the workflow ends as one in which each is delivered once, by a delivery that it really
had: with the same answers, the same stores and the same identifiers. -/
theorem redelivery_harmless {World α : Type} (deliveries : Deliveries)
    (others : Handler PipelineCall PipelineCall.Answer PyException (DeliveryWorld World))
    (pipeline : Pipeline α) (world : DeliveryWorld World) :
    ∃ single : Nat → PipelineCall → Delivery,
      (∀ count call, single count call ∈
        (deliveries count call).1 :: (deliveries count call).2) ∧
      interpret (DeliveryWorld.handler deliveries others) pipeline world =
        interpret (DeliveryWorld.handler (fun count call => (single count call, [])) others)
          pipeline world := by
  refine ⟨fun count call => DeliveryWorld.settling call (deliveries count call), ?_, ?_⟩
  · exact fun count call => DeliveryWorld.settling_mem call (deliveries count call)
  · have same : DeliveryWorld.handler (DeliveryWorld.once deliveries) others =
        DeliveryWorld.handler deliveries others :=
      funext fun world => funext fun call => DeliveryWorld.handler_once call
    rw [← same]
    rfl

end ResearchPlatform
