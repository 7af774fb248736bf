import ResearchPlatform.Agents.PlanValidation
import ResearchPlatform.Properties.ExecutionOrder
import ResearchPlatform.Workflow.Orchestration

/-!
# Plans whose dependencies resolve

The validator of a plan accepts exactly the dependencies that stay in range and have no cycle.
These are the plans whose tasks can be built, under distinct identifiers, and put into an
order of execution.
-/

namespace ResearchPlatform

open Foundation

/-! ## The specification -/

section Specification

variable (dependsOn : List (List Nat))

def IndicesInRange : Prop :=
  ∀ needed ∈ dependsOn, ∀ index ∈ needed, index < dependsOn.length

/-- The task at the position lists the index among its dependencies. -/
def DependsOn (position index : Nat) : Prop :=
  ∃ needed, dependsOn[position]? = some needed ∧ index ∈ needed

def IndexCycle : Prop :=
  ∃ position, Relation.TransGen (DependsOn dependsOn) position position

/-- The identifier of the task at the position. -/
def identifierAt (identifiers : List UUID) (index : Nat) : Except ValidationError UUID :=
  (identifiers[index]?).elim (.error ⟨"list index out of range"⟩) .ok

/-- The task for what was planned at the position, its dependencies mapped to identifiers. -/
def plannedTask (job : ResearchJob) (identifiers : List UUID) (created : Nat → Timestamp)
    (planned : PlannedTask × Nat) : Except ValidationError ResearchTask := do
  let identifier ← identifierAt identifiers planned.2
  let dependencies ← planned.1.dependsOn.mapM (identifierAt identifiers)
  let task := Pipeline.taskFrom planned.1 job (identifier, created planned.2)
  ResearchTask.validate { task with dependencies }

/-- One task for each planned task. -/
def plannedTasks (job : ResearchJob) (identifiers : List UUID) (created : Nat → Timestamp)
    (planned : List PlannedTask) : Except ValidationError (List ResearchTask) :=
  planned.zipIdx.mapM (plannedTask job identifiers created)

end Specification

/-! ## The validator -/

section Validator

variable {dependsOn : List (List Nat)} {placed remaining : Finset Nat} {level : Nat}

def neededPositions (dependsOn : List (List Nat)) (position : Nat) : List Nat :=
  dependsOn.getD position []

/-- The positions as items that name their dependencies. -/
abbrev PositionsCycle (dependsOn : List (List Nat)) : Prop :=
  HasCycle id (neededPositions dependsOn) (List.range dependsOn.length)

theorem dependsOn_iff {position index : Nat} :
    DependsOn dependsOn position index ↔ index ∈ neededPositions dependsOn position := by
  rw [neededPositions, List.getD_eq_getElem?_getD, DependsOn]
  cases dependsOn[position]? <;> simp

theorem lt_of_dependsOn {position index : Nat} (first : DependsOn dependsOn position index) :
    position < dependsOn.length := by
  obtain ⟨needed, found, -⟩ := first
  exact (List.getElem?_eq_some_iff.mp found).1

theorem IndicesInRange.lt (inRange : IndicesInRange dependsOn) {position index : Nat}
    (first : DependsOn dependsOn position index) : index < dependsOn.length := by
  obtain ⟨needed, found, member⟩ := first
  exact inRange needed (List.mem_of_getElem? found) index member

theorem IndicesInRange.not_dangles (inRange : IndicesInRange dependsOn) :
    ¬ Dangles id (neededPositions dependsOn) (List.range dependsOn.length) := by
  intro dangles
  obtain ⟨position, -, index, needed, unlisted⟩ := dangles
  apply unlisted
  rw [List.map_id, List.mem_range]
  exact inRange.lt (dependsOn_iff.mpr needed)

theorem IndicesInRange.positionsCycle_iff (inRange : IndicesInRange dependsOn) :
    PositionsCycle dependsOn ↔ IndexCycle dependsOn := by
  have same : Needs id (neededPositions dependsOn) (List.range dependsOn.length) =
      DependsOn dependsOn := by
    funext position index
    rw [Needs, List.mem_range, List.mem_range, ← dependsOn_iff]
    apply propext
    constructor
    · exact fun first => first.2.2
    · exact fun first => ⟨lt_of_dependsOn first, inRange.lt first, first⟩
  rw [PositionsCycle, HasCycle, same, IndexCycle]

/-- What the first loop of the validator checks, position by position. -/
theorem inRange_and_notSelf_iff :
    (IndicesInRange dependsOn ∧ ∀ position, ¬ DependsOn dependsOn position position) ↔
      ∀ (position : Nat) (needed : List Nat), dependsOn[position]? = some needed →
        (∀ index ∈ needed, index < dependsOn.length) ∧ position ∉ needed := by
  constructor
  · intro both position needed found
    refine ⟨both.1 needed (List.mem_of_getElem? found), ?_⟩
    exact fun itself => both.2 position ⟨needed, found, itself⟩
  · intro each
    refine ⟨?_, ?_⟩
    · intro needed member
      obtain ⟨position, found⟩ := List.getElem?_of_mem member
      exact (each position needed found).1
    · intro position itself
      obtain ⟨needed, found, isNeeded⟩ := itself
      exact (each position needed found).2 isNeeded

theorem refuseDependency_eq_ok {count position dependency : Nat} :
    refuseDependency count position dependency = .ok () ↔
      dependency < count ∧ dependency ≠ position := by
  unfold refuseDependency
  by_cases outside : count ≤ dependency
  · rw [if_pos outside]
    exact iff_of_false (by simp) fun both => Nat.not_lt.mpr outside both.1
  · rw [if_neg outside, ite_eq_right_iff]
    constructor
    · intro passes
      refine ⟨Nat.lt_of_not_le outside, fun itself => ?_⟩
      cases passes itself
    · exact fun both itself => absurd itself both.2

theorem mem_readyPositions {position : Nat} :
    position ∈ readyPositions dependsOn placed remaining ↔
      position ∈ remaining ∧ ∀ index ∈ neededPositions dependsOn position, index ∈ placed := by
  rw [readyPositions, Finset.mem_filter, neededPositions]

/-- The state of the loop after so many layers. -/
structure CycleState (dependsOn : List (List Nat)) (level : Nat)
    (placed remaining : Finset Nat) : Prop where
  inRange : IndicesInRange dependsOn
  placedTo : PlacedTo id (neededPositions dependsOn) (List.range dependsOn.length) level
    (· ∈ placed)
  left : remaining = Finset.range dependsOn.length \ placed

namespace CycleState

theorem mem_remaining (state : CycleState dependsOn level placed remaining) {position : Nat} :
    position ∈ remaining ↔ position ∈ List.range dependsOn.length ∧ position ∉ placed := by
  rw [state.left, Finset.mem_sdiff, Finset.mem_range, List.mem_range]

/-- Who is ready makes up the next level. -/
theorem mem_ready (state : CycleState dependsOn level placed remaining) {position : Nat} :
    position ∈ readyPositions dependsOn placed remaining ↔
      position ∈ List.range dependsOn.length ∧
        IsLevel id (neededPositions dependsOn) (List.range dependsOn.length) position level := by
  rw [mem_readyPositions, state.mem_remaining, isLevel_iff, and_assoc,
    and_comm (a := position ∉ placed)]
  apply and_congr_right
  intro member
  have isPlaced : position ∈ placed ↔ _ := state.placedTo position member
  rw [state.placedTo.ready_iff state.inRange.not_dangles member, isPlaced]

/-- The loop goes on with one more layer. -/
theorem next (state : CycleState dependsOn level placed remaining) :
    CycleState dependsOn (level + 1) (placed ∪ readyPositions dependsOn placed remaining)
      (remaining \ readyPositions dependsOn placed remaining) := by
  refine ⟨state.inRange, ?_, ?_⟩
  · apply state.placedTo.succ state.inRange.not_dangles
      (by rw [List.map_id]; exact List.nodup_range)
    intro position member
    rw [Finset.mem_union]
    by_cases already : position ∈ placed
    · exact iff_of_true (Or.inl already) (Or.inl already)
    · apply or_congr_right
      rw [mem_readyPositions]
      constructor
      · exact fun ready => ⟨position, member, ready.2, rfl⟩
      · intro found
        obtain ⟨other, -, ready, same⟩ := found
        obtain rfl : other = position := same
        exact ⟨state.mem_remaining.mpr ⟨member, already⟩, ready⟩
  · rw [← Finset.sup_eq_union, ← sdiff_sdiff, ← state.left]

theorem acyclic_of_done (state : CycleState dependsOn level placed ∅) :
    ¬ PositionsCycle dependsOn := by
  intro cycle
  obtain ⟨position, member, above⟩ := cycle.exists_not_isBelow level
  have unplaced : position ∉ placed := mt (state.placedTo position member).mp above
  exact Finset.notMem_empty position (state.mem_remaining.mpr ⟨member, unplaced⟩)

theorem cycle_of_stuck (state : CycleState dependsOn level placed remaining)
    (some : remaining ≠ ∅) (stuck : readyPositions dependsOn placed remaining = ∅) :
    PositionsCycle dependsOn := by
  by_contra acyclic
  obtain ⟨position, isLeft⟩ := Finset.nonempty_iff_ne_empty.mpr some
  obtain ⟨member, unplaced⟩ := state.mem_remaining.mp isLeft
  have above := mt (state.placedTo position member).mpr unplaced
  obtain ⟨next, nextMember, isLevel⟩ := exists_next_level acyclic ⟨position, member, above⟩
  have isReady := state.mem_ready.mpr ⟨nextMember, isLevel⟩
  rw [stuck] at isReady
  exact Finset.notMem_empty next isReady

/-- The loop accepts where there is no cycle.  The induction is on what remains. -/
theorem rejectCyclesFrom_eq_ok (state : CycleState dependsOn level placed remaining) :
    rejectCyclesFrom dependsOn placed remaining = .ok () ↔ ¬ PositionsCycle dependsOn := by
  induction size : remaining.card using Nat.strong_induction_on
    generalizing level placed remaining with
  | _ size inductionHypothesis =>
      rw [rejectCyclesFrom]
      by_cases done : remaining = ∅
      · rw [if_pos done]
        subst done
        exact iff_of_true rfl state.acyclic_of_done
      · rw [if_neg done]
        by_cases stuck : readyPositions dependsOn placed remaining = ∅
        · rw [dif_pos stuck]
          exact iff_of_false (by simp) (not_not_intro (state.cycle_of_stuck done stuck))
        · rw [dif_neg stuck]
          exact inductionHypothesis _ (size ▸ card_sdiff_readyPositions_lt stuck) state.next rfl

end CycleState

/-- The validator accepts indices in range without a cycle. -/
theorem dependenciesMustResolve_eq_ok :
    dependenciesMustResolve dependsOn = .ok () ↔
      IndicesInRange dependsOn ∧ ¬ IndexCycle dependsOn := by
  have checks : (dependsOn.zipIdx.forM fun entry =>
      entry.1.forM (refuseDependency dependsOn.length entry.2)) = .ok () ↔
        IndicesInRange dependsOn ∧ ∀ position, ¬ DependsOn dependsOn position position := by
    rw [inRange_and_notSelf_iff]
    simp only [forM_eq_ok_iff, refuseDependency_eq_ok]
    constructor
    · intro passed position needed found
      have entry := passed (needed, position) (List.mk_mem_zipIdx_iff_getElem?.mpr found)
      exact ⟨fun index member => (entry index member).1,
        fun itself => (entry position itself).2 rfl⟩
    · intro each entry member index isNeeded
      obtain ⟨inside, notSelf⟩ := each entry.2 entry.1 (List.mem_zipIdx_iff_getElem?.mp member)
      exact ⟨inside index isNeeded, ne_of_mem_of_not_mem isNeeded notSelf⟩
  have loop (inRange : IndicesInRange dependsOn) :
      rejectCycles dependsOn = .ok () ↔ ¬ IndexCycle dependsOn := by
    have start : CycleState dependsOn 0 ∅ (Finset.range dependsOn.length) :=
      ⟨inRange, placedTo_zero (by simp), by simp⟩
    rw [rejectCycles, start.rejectCyclesFrom_eq_ok, inRange.positionsCycle_iff]
  have both : dependenciesMustResolve dependsOn = .ok () ↔
      (dependsOn.zipIdx.forM fun entry =>
        entry.1.forM (refuseDependency dependsOn.length entry.2)) = .ok () ∧
        rejectCycles dependsOn = .ok () := by
    unfold dependenciesMustResolve
    constructor
    · intro accepts
      obtain ⟨⟨⟩, first, second⟩ := bind_eq_ok.mp accepts
      exact ⟨first, second⟩
    · exact fun both => bind_eq_ok.mpr ⟨(), both⟩
  rw [both, checks, and_assoc]
  apply and_congr_right
  intro inRange
  rw [loop inRange]
  constructor
  · exact fun both => both.2
  · intro acyclic
    exact ⟨fun position itself => acyclic ⟨position, .single itself⟩, acyclic⟩

end Validator

/-! ## The tasks -/

section Tasks

variable {job : ResearchJob} {identifiers : List UUID} {created : Nat → Timestamp}
  {planned : List PlannedTask} {tasks : List ResearchTask}

theorem identifierAt_eq_ok {index : Nat} {identifier : UUID} :
    identifierAt identifiers index = .ok identifier ↔ identifiers[index]? = some identifier := by
  rw [identifierAt]
  cases identifiers[index]? <;> simp

theorem validate_eq_ok {task result : ResearchTask} :
    task.validate = .ok result ↔ task.Valid ∧ task = result :=
  ite_eq_ok_iff

/-- The task is what was planned, under its identifier. -/
structure MirrorsPlan (identifiers : List UUID) (planned : PlannedTask) (position : Nat)
    (task : ResearchTask) : Prop where
  identifier : identifiers[position]? = some task.id
  dependencies : List.Forall₂ (fun index dependency => identifiers[index]? = some dependency)
    planned.dependsOn task.dependencies
  hasZone : task.createdAt.hasZone = true

theorem mirrors_of_plannedTask {planned : PlannedTask} {position : Nat} {task : ResearchTask}
    (builds : plannedTask job identifiers created (planned, position) = .ok task) :
    MirrorsPlan identifiers planned position task := by
  obtain ⟨identifier, isIdentifier, builds⟩ := bind_eq_ok.mp builds
  obtain ⟨dependencies, areDependencies, builds⟩ := bind_eq_ok.mp builds
  obtain ⟨-, rfl⟩ := validate_eq_ok.mp builds
  refine ⟨identifierAt_eq_ok.mp isIdentifier, ?_, rfl⟩
  exact (mapM_eq_ok_iff.mp areDependencies).imp fun _ _ => identifierAt_eq_ok.mp

theorem exists_identifierAt {index : Nat} :
    (∃ identifier, identifierAt identifiers index = .ok identifier) ↔
      index < identifiers.length := by
  simp only [identifierAt_eq_ok, List.getElem?_eq_some_iff]
  constructor
  · intro found
    obtain ⟨identifier, inside, -⟩ := found
    exact inside
  · exact fun inside => ⟨identifiers[index], inside, rfl⟩

/-- A dependency that is mapped to the identifier of a position is that position. -/
theorem mem_mapped_iff (distinct : identifiers.Nodup) {position : Nat} {identifier : UUID}
    (isIdentifier : identifiers[position]? = some identifier) {indices : List Nat}
    {dependencies : List UUID}
    (mapped : List.Forall₂ (fun index dependency => identifiers[index]? = some dependency)
      indices dependencies) : identifier ∈ dependencies ↔ position ∈ indices := by
  induction mapped with
  | nil => exact iff_of_false List.not_mem_nil List.not_mem_nil
  | @cons index dependency indices dependencies first _ inductionHypothesis =>
      have same : identifier = dependency ↔ position = index := by
        constructor
        · rintro rfl
          have inside := (List.getElem?_eq_some_iff.mp isIdentifier).1
          exact (List.getElem?_inj inside distinct).mp (isIdentifier.trans first.symm)
        · rintro rfl
          exact Option.some.inj (isIdentifier.symm.trans first)
      rw [List.mem_cons, List.mem_cons, inductionHypothesis, same]

/-- A task can be built where its dependencies are in range and not itself. -/
theorem exists_plannedTask (distinct : identifiers.Nodup)
    (tenant : 1 ≤ job.tenantId.length ∧ job.tenantId.length ≤ 100)
    {planned : PlannedTask} {position : Nat} (inside : position < identifiers.length) :
    (∃ task, plannedTask job identifiers created (planned, position) = .ok task) ↔
      (∀ index ∈ planned.dependsOn, index < identifiers.length) ∧
        position ∉ planned.dependsOn := by
  have isIdentifier : identifiers[position]? = some identifiers[position] :=
    List.getElem?_eq_getElem inside
  constructor
  · intro builds
    obtain ⟨task, builds⟩ := builds
    obtain ⟨identifier, found, builds⟩ := bind_eq_ok.mp builds
    obtain ⟨dependencies, areDependencies, builds⟩ := bind_eq_ok.mp builds
    obtain ⟨valid, -⟩ := validate_eq_ok.mp builds
    have each := exists_mapM_eq_ok.mp ⟨dependencies, areDependencies⟩
    have mapped := (mapM_eq_ok_iff.mp areDependencies).imp fun _ _ => identifierAt_eq_ok.mp
    have notItself : identifier ∉ dependencies := valid.notItself
    rw [mem_mapped_iff distinct (identifierAt_eq_ok.mp found) mapped] at notItself
    exact ⟨fun index member => exists_identifierAt.mp (each index member), notItself⟩
  · intro both
    obtain ⟨dependencies, areDependencies⟩ : ∃ dependencies,
        planned.dependsOn.mapM (identifierAt identifiers) = .ok dependencies :=
      exists_mapM_eq_ok.mpr fun index member => exists_identifierAt.mpr (both.1 index member)
    have mapped := (mapM_eq_ok_iff.mp areDependencies).imp fun _ _ => identifierAt_eq_ok.mp
    refine ⟨_, bind_eq_ok.mpr ⟨identifiers[position], identifierAt_eq_ok.mpr isIdentifier,
      bind_eq_ok.mpr ⟨dependencies, areDependencies, validate_eq_ok.mpr ⟨?_, rfl⟩⟩⟩⟩
    refine ⟨tenant, ?_, ?_, ?_, ?_⟩
    · have bounded := planned.dependenciesBounded
      rw [mapped.length_eq] at bounded
      exact bounded.trans (by decide)
    · exact planned.requirementsInRange.2.trans (by decide)
    · exact planned.restrictionsBounded.trans (by decide)
    · exact mt (mem_mapped_iff distinct isIdentifier mapped).mp both.2

/-- All tasks were built: each is what was planned at its position. -/
theorem mirrors_at (builds : plannedTasks job identifiers created planned = .ok tasks)
    {position : Nat} {task : ResearchTask} (found : tasks[position]? = some task) :
    ∃ plan, planned[position]? = some plan ∧ MirrorsPlan identifiers plan position task := by
  have pairs := mapM_eq_ok_iff.mp builds
  obtain ⟨inside, rfl⟩ := List.getElem?_eq_some_iff.mp found
  have within : position < planned.zipIdx.length := pairs.length_eq ▸ inside
  have isPlanned : position < planned.length := by rwa [List.length_zipIdx] at within
  have built : plannedTask job identifiers created (planned[position], position) =
      .ok tasks[position] := by simpa using pairs.get within inside
  exact ⟨planned[position], List.getElem?_eq_getElem isPlanned, mirrors_of_plannedTask built⟩

theorem length_plannedTasks (builds : plannedTasks job identifiers created planned = .ok tasks) :
    tasks.length = planned.length := by
  have same := (mapM_eq_ok_iff.mp builds).length_eq
  rw [List.length_zipIdx] at same
  exact same.symm

theorem map_id_plannedTasks (builds : plannedTasks job identifiers created planned = .ok tasks)
    (sameLength : identifiers.length = planned.length) :
    tasks.map (·.id) = identifiers := by
  have lengths := length_plannedTasks builds
  apply List.ext_getElem (by rw [List.length_map, lengths, sameLength])
  intro position inside within
  rw [List.length_map] at inside
  obtain ⟨plan, -, mirrors⟩ := mirrors_at builds (List.getElem?_eq_getElem inside)
  rw [List.getElem_map]
  exact (Option.some.inj ((List.getElem?_eq_getElem within).symm.trans mirrors.identifier)).symm

/-- A task needs another where the position of one lists the position of the other. -/
theorem needs_iff_dependsOn (builds : plannedTasks job identifiers created planned = .ok tasks)
    (distinct : identifiers.Nodup)
    {position index : Nat} {task other : ResearchTask} (found : tasks[position]? = some task)
    (isOther : tasks[index]? = some other) :
    Needs ResearchTask.id ResearchTask.dependencies tasks task other ↔
      DependsOn (planned.map (·.dependsOn)) position index := by
  obtain ⟨plan, isPlan, mirrors⟩ := mirrors_at builds found
  obtain ⟨otherPlan, -, otherMirrors⟩ := mirrors_at builds isOther
  have asks : DependsOn (planned.map (·.dependsOn)) position index ↔ index ∈ plan.dependsOn := by
    rw [DependsOn, List.getElem?_map, isPlan]
    simp
  rw [asks, ← mem_mapped_iff distinct otherMirrors.identifier mirrors.dependencies, Needs]
  constructor
  · exact fun needed => needed.2.2
  · exact fun listed => ⟨List.mem_of_getElem? found, List.mem_of_getElem? isOther, listed⟩

/-- The tasks have a cycle of dependencies where the positions have. -/
theorem hasDependencyCycle_iff
    (builds : plannedTasks job identifiers created planned = .ok tasks)
    (distinct : identifiers.Nodup) (sameLength : identifiers.length = planned.length)
    (inRange : IndicesInRange (planned.map (·.dependsOn))) :
    HasDependencyCycle tasks ↔ IndexCycle (planned.map (·.dependsOn)) := by
  have count : (planned.map (·.dependsOn)).length = tasks.length := by
    rw [List.length_map, length_plannedTasks builds]
  have distinctTasks : (tasks.map (·.id)).Nodup := by
    rw [map_id_plannedTasks builds sameLength]
    exact distinct
  rw [← inRange.positionsCycle_iff]
  constructor
  · apply HasCycle.transfer fun task position => tasks[position]? = some task
    · exact fun task member => List.getElem?_of_mem member
    · intro task first second isFirst isSecond
      have inside := (List.getElem?_eq_some_iff.mp isFirst).1
      exact (List.getElem?_inj inside (List.Nodup.of_map _ distinctTasks)).mp
        (isFirst.trans isSecond.symm)
    · intro task other position needed found
      obtain ⟨index, isOther⟩ := List.getElem?_of_mem needed.2.1
      refine ⟨index, isOther, ?_⟩
      have step :=
        (needs_iff_dependsOn builds distinct found isOther).mp needed
      refine ⟨List.mem_range.mpr (lt_of_dependsOn step), List.mem_range.mpr (inRange.lt step), ?_⟩
      exact dependsOn_iff.mp step
  · apply HasCycle.transfer fun position task => tasks[position]? = some task
    · intro position member
      rw [List.mem_range, count] at member
      exact ⟨tasks[position], List.getElem?_eq_getElem member⟩
    · intro position first second isFirst isSecond
      exact Option.some.inj (isFirst.symm.trans isSecond)
    · intro position index task needed found
      have inside : index < tasks.length := by
        rw [← count]
        exact List.mem_range.mp needed.2.1
      have isOther : tasks[index]? = some tasks[index] := List.getElem?_eq_getElem inside
      refine ⟨tasks[index], isOther, ?_⟩
      exact (needs_iff_dependsOn builds distinct found isOther).mpr
        (dependsOn_iff.mpr needed.2.2)

/-- Tasks that were built depend on tasks of the list. -/
theorem not_hasUnknownDependency
    (builds : plannedTasks job identifiers created planned = .ok tasks)
    (sameLength : identifiers.length = planned.length) : ¬ HasUnknownDependency tasks := by
  intro unknown
  obtain ⟨task, member, dependency, needed, unlisted⟩ := unknown
  obtain ⟨position, found⟩ := List.getElem?_of_mem member
  obtain ⟨plan, -, mirrors⟩ := mirrors_at builds found
  apply unlisted
  rw [map_id_plannedTasks builds sameLength]
  obtain ⟨place, inside, rfl⟩ := List.getElem_of_mem needed
  have within : place < plan.dependsOn.length := mirrors.dependencies.length_eq ▸ inside
  exact List.mem_of_getElem? (mirrors.dependencies.get within inside)

/-- Tasks that were built have comparable creation times. -/
theorem not_mixesZones (builds : plannedTasks job identifiers created planned = .ok tasks) :
    ¬ MixesZones tasks := by
  have aware : ∀ task ∈ tasks, task.createdAt.hasZone = true := by
    intro task member
    obtain ⟨position, found⟩ := List.getElem?_of_mem member
    obtain ⟨plan, -, mirrors⟩ := mirrors_at builds found
    exact mirrors.hasZone
  intro mixes
  obtain ⟨first, isFirst, second, isSecond, level, -, -, apart⟩ := mixes
  exact apart ((aware first isFirst).trans (aware second isSecond).symm)

/-- Tasks that were built can be ordered where the positions have no cycle. -/
theorem resolves_iff (builds : plannedTasks job identifiers created planned = .ok tasks)
    (distinct : identifiers.Nodup) (sameLength : identifiers.length = planned.length)
    (inRange : IndicesInRange (planned.map (·.dependsOn))) :
    (∃ ordered, resolveExecutionOrder tasks = .ok ordered) ↔
      ¬ IndexCycle (planned.map (·.dependsOn)) := by
  have distinctTasks : (tasks.map (·.id)).Nodup := by
    rw [map_id_plannedTasks builds sameLength]
    exact distinct
  rw [resolveExecutionOrder_returns_iff distinctTasks,
    hasDependencyCycle_iff builds distinct sameLength inRange]
  constructor
  · exact fun orderable => orderable.2.1
  · intro acyclic
    exact ⟨not_hasUnknownDependency builds sameLength, acyclic, not_mixesZones builds⟩

end Tasks

/-! ## The result -/

/-- All tasks can be built where the indices are in range and none names its own position. -/
theorem exists_plannedTasks {job : ResearchJob} {identifiers : List UUID}
    {created : Nat → Timestamp} {planned : List PlannedTask} (distinct : identifiers.Nodup)
    (sameLength : identifiers.length = planned.length)
    (tenant : 1 ≤ job.tenantId.length ∧ job.tenantId.length ≤ 100) :
    (∃ tasks, plannedTasks job identifiers created planned = .ok tasks) ↔
      IndicesInRange (planned.map (·.dependsOn)) ∧
        ∀ position, ¬ DependsOn (planned.map (·.dependsOn)) position position := by
  rw [inRange_and_notSelf_iff, plannedTasks, exists_mapM_eq_ok, List.length_map, ← sameLength]
  constructor
  · intro builds position needed found
    rw [List.getElem?_map] at found
    obtain ⟨plan, isPlan, rfl⟩ := Option.map_eq_some_iff.mp found
    have inside : position < identifiers.length :=
      sameLength ▸ (List.getElem?_eq_some_iff.mp isPlan).1
    exact (exists_plannedTask distinct tenant inside).mp
      (builds (plan, position) (List.mk_mem_zipIdx_iff_getElem?.mpr isPlan))
  · intro each entry member
    obtain ⟨plan, position⟩ := entry
    have isPlan := List.mk_mem_zipIdx_iff_getElem?.mp member
    have inside : position < identifiers.length :=
      sameLength ▸ (List.getElem?_eq_some_iff.mp isPlan).1
    apply (exists_plannedTask distinct tenant inside).mpr
    apply each position plan.dependsOn
    rw [List.getElem?_map, isPlan, Option.map_some]

/-- The validator of a plan accepts exactly the indices in range without a cycle, and these
are the plans whose tasks can be built and ordered. -/
theorem planValidation_spec :
    (∀ dependsOn : List (List Nat), dependenciesMustResolve dependsOn = .ok () ↔
      IndicesInRange dependsOn ∧ ¬ IndexCycle dependsOn) ∧
    ∀ (job : ResearchJob) (identifiers : List UUID) (created : Nat → Timestamp)
      (planned : List PlannedTask), identifiers.Nodup →
      identifiers.length = planned.length →
      1 ≤ job.tenantId.length ∧ job.tenantId.length ≤ 100 →
      (dependenciesMustResolve (planned.map (·.dependsOn)) = .ok () ↔
        ∃ tasks, plannedTasks job identifiers created planned = .ok tasks ∧
          ∃ ordered, resolveExecutionOrder tasks = .ok ordered) := by
  refine ⟨fun dependsOn => dependenciesMustResolve_eq_ok, ?_⟩
  intro job identifiers created planned distinct sameLength tenant
  rw [dependenciesMustResolve_eq_ok]
  constructor
  · intro accepted
    obtain ⟨inRange, acyclic⟩ := accepted
    have noSelf (position : Nat) : ¬ DependsOn (planned.map (·.dependsOn)) position position :=
      fun itself => acyclic ⟨position, .single itself⟩
    obtain ⟨tasks, builds⟩ :=
      (exists_plannedTasks distinct sameLength tenant).mpr ⟨inRange, noSelf⟩
    exact ⟨tasks, builds, (resolves_iff builds distinct sameLength inRange).mpr acyclic⟩
  · intro resolved
    obtain ⟨tasks, builds, resolved⟩ := resolved
    obtain ⟨inRange, -⟩ := (exists_plannedTasks distinct sameLength tenant).mp ⟨tasks, builds⟩
    exact ⟨inRange, (resolves_iff builds distinct sameLength inRange).mp resolved⟩

section Example

def planner : ResearchJob where
  id := 7
  tenantId := "acme"
  requesterId := "amy"
  question := ⟨"What sells?", by decide⟩
  createdAt := 0
  updatedAt := 0

def survey : PlannedTask where
  objective := surveyTask.objective
  assignedAgent := .researcher
  evidenceRequirements := [⟨"Prices", by decide⟩]
  requirementsInRange := by decide
  restrictionsBounded := noTexts_bounded
  dependenciesBounded := noDependencies_bounded
  notThePlanner := researcher_notThePlanner

def comparison : PlannedTask :=
  { survey with dependsOn := [0], dependenciesBounded := by decide }

theorem planValidation_spec_of_two :
    ([1, 2] : List UUID).Nodup ∧ ([1, 2] : List UUID).length = [survey, comparison].length ∧
      (1 ≤ planner.tenantId.length ∧ planner.tenantId.length ≤ 100) ∧
      (dependenciesMustResolve ([survey, comparison].map (·.dependsOn)) = .ok () ↔
        ∃ tasks, plannedTasks planner [1, 2] (fun _ => 0) [survey, comparison] = .ok tasks ∧
          ∃ ordered, resolveExecutionOrder tasks = .ok ordered) :=
  ⟨by decide, rfl, by decide,
    planValidation_spec.2 planner [1, 2] (fun _ => 0) [survey, comparison]
      (by decide) rfl (by decide)⟩

end Example

end ResearchPlatform
