import ResearchPlatform.Domain.Tasks
import ResearchPlatform.Foundation.Layers
import ResearchPlatform.Foundation.Ordering
import ResearchPlatform.Foundation.Outcome

/-!
# The order of execution

`resolveExecutionOrder` raises where the tasks cannot be ordered, or where the creation times
of one level cannot be compared.  Otherwise its result has the tasks level by level, each level
in the order of creation.
-/

namespace ResearchPlatform

open Foundation

/-! ## The specification -/

section Specification

variable (tasks : List ResearchTask)

/-- The longest chain of dependencies of the task has so many steps. -/
def TaskLevel (task : ResearchTask) (level : Nat) : Prop :=
  IsLevel ResearchTask.id ResearchTask.dependencies tasks task level

/-- A task depends on one that is not in the list. -/
def HasUnknownDependency : Prop := Dangles ResearchTask.id ResearchTask.dependencies tasks

/-- A task depends on itself, by way of others or not. -/
def HasDependencyCycle : Prop := HasCycle ResearchTask.id ResearchTask.dependencies tasks

/-- Of two tasks of one level, one creation time carries a zone and the other does not. -/
def MixesZones : Prop :=
  ∃ first ∈ tasks, ∃ second ∈ tasks, ∃ level, TaskLevel tasks first level ∧
    TaskLevel tasks second level ∧ first.createdAt.hasZone ≠ second.createdAt.hasZone

/-- Every task stands after its dependencies. -/
def AfterDependencies (ordered : List ResearchTask) : Prop :=
  ∀ before task after, ordered = before ++ task :: after →
    ∀ dependency ∈ task.dependencies, dependency ∈ before.map (·.id)

/-- The tasks in levels, each sorted stably by creation time. -/
structure IsLeveled (ordered : List ResearchTask) (level : ResearchTask → Nat)
    (layers : List (List ResearchTask)) : Prop where
  isLevel : ∀ task ∈ tasks, TaskLevel tasks task (level task)
  inLayer : ∀ task ∈ tasks, level task < layers.length
  ordered : ordered = layers.flatten
  sorted : ∀ index layer, layers[index]? = some layer →
    IsStableSort (·.createdAt.micros) (tasks.filter (level · = index)) layer

/-- What the order of execution is. -/
structure IsExecutionOrder (ordered : List ResearchTask) : Prop where
  perm : ordered.Perm tasks
  after : AfterDependencies ordered
  leveled : ∃ level layers, IsLeveled tasks ordered level layers

end Specification

/-! ## The loop -/

section Loop

variable {tasks layer : List ResearchTask} {layers : List (List ResearchTask)}
  {placed : List UUID} {remaining ordered : List ResearchTask}

/-- One level of the tasks, sorted. -/
structure IsLayer (tasks : List ResearchTask) (index : Nat) (layer : List ResearchTask) :
    Prop where
  sorted : ∃ inLayer : ResearchTask → Bool,
    (∀ task ∈ tasks, inLayer task = true ↔ TaskLevel tasks task index) ∧
      IsStableSort (·.createdAt.micros) (tasks.filter inLayer) layer
  zones : ∀ first ∈ layer, ∀ second ∈ layer,
    first.createdAt.hasZone = second.createdAt.hasZone

theorem IsLayer.mem_iff {index : Nat} (isLayer : IsLayer tasks index layer)
    {task : ResearchTask} : task ∈ layer ↔ task ∈ tasks ∧ TaskLevel tasks task index := by
  obtain ⟨inLayer, holds, sorted⟩ := isLayer.sorted
  rw [sorted.perm.mem_iff, List.mem_filter]
  exact and_congr_right fun member => holds task member

/-- The state of the loop after so many layers. -/
structure LoopState (tasks : List ResearchTask) (layers : List (List ResearchTask))
    (placed : List UUID) (remaining : List ResearchTask) : Prop where
  placedTo :
    PlacedTo ResearchTask.id ResearchTask.dependencies tasks layers.length (· ∈ placed)
  left : remaining = tasksLeft placed tasks
  known : ∀ identifier ∈ placed, identifier ∈ layers.flatten.map (·.id)
  after : AfterDependencies layers.flatten
  perm : (layers.flatten ++ remaining).Perm tasks
  isLayer : ∀ index layer, layers[index]? = some layer → IsLayer tasks index layer

theorem sortByCreation_eq_ok (sorts : sortByCreation tasks = .ok ordered) :
    IsStableSort (·.createdAt.micros) tasks ordered ∧
      ∀ first ∈ tasks, ∀ second ∈ tasks,
        first.createdAt.hasZone = second.createdAt.hasZone := by
  unfold sortByCreation at sorts
  split at sorts
  · rename_i zones
    rw [← Except.ok.inj sorts]
    exact ⟨isStableSort_insertionSort _ tasks, zones⟩
  · cases sorts

theorem AfterDependencies.append (before : AfterDependencies ordered)
    (known : ∀ task ∈ layer, ∀ dependency ∈ task.dependencies,
      dependency ∈ ordered.map (·.id)) : AfterDependencies (ordered ++ layer) := by
  intro first task last whole dependency needed
  rcases List.append_eq_append_iff.mp whole with ⟨between, rfl, later⟩ | ⟨between, rfl, later⟩
  · have member : task ∈ layer := by
      rw [later]
      exact List.mem_append_right between List.mem_cons_self
    rw [List.map_append]
    exact List.mem_append_left _ (known task member dependency needed)
  · cases between with
    | nil =>
        have member : task ∈ layer := by
          rw [← List.nil_append layer, ← later]
          exact List.mem_cons_self
        simpa using known task member dependency needed
    | cons head rest =>
        obtain ⟨rfl, -⟩ := List.cons.inj later
        exact before first task rest rfl dependency needed

theorem loopState_nil : LoopState tasks [] [] tasks where
  placedTo := placedTo_zero (by simp)
  left := by simp [tasksLeft]
  known := by simp
  after := by
    intro before task after whole
    simp at whole
  perm := by simp
  isLayer := by simp

/-- Who is ready makes up the next level. -/
theorem LoopState.mem_ready (state : LoopState tasks layers placed remaining)
    (closed : ¬ HasUnknownDependency tasks) {task : ResearchTask} :
    task ∈ readyTasks placed remaining ↔
      task ∈ tasks ∧ TaskLevel tasks task layers.length := by
  rw [readyTasks, state.left, tasksLeft, List.mem_filter, List.mem_filter, decide_eq_true_iff,
    decide_eq_true_iff, TaskLevel, isLevel_iff, and_assoc, and_comm (a := task.id ∉ placed)]
  apply and_congr_right
  intro member
  have isPlaced : task.id ∈ placed ↔ _ := state.placedTo task member
  rw [state.placedTo.ready_iff closed member, isPlaced]

theorem tasksLeft_nowPlaced :
    tasksLeft (nowPlaced placed remaining) (tasksLeft placed tasks) =
      tasksLeft (nowPlaced placed remaining) tasks := by
  rw [tasksLeft, tasksLeft, tasksLeft, List.filter_filter]
  apply List.filter_congr
  intro task _
  by_cases isPlaced : task.id ∈ placed
  · have still : task.id ∈ nowPlaced placed remaining := List.mem_append_left _ isPlaced
    simp [still]
  · simp [isPlaced]

theorem mem_readyTasks {task : ResearchTask} :
    task ∈ readyTasks placed remaining ↔
      task ∈ remaining ∧ ∀ dependency ∈ task.dependencies, dependency ∈ placed := by
  rw [readyTasks, List.mem_filter, decide_eq_true_iff]

theorem mem_tasksLeft {task : ResearchTask} :
    task ∈ tasksLeft placed tasks ↔ task ∈ tasks ∧ task.id ∉ placed := by
  rw [tasksLeft, List.mem_filter, decide_eq_true_iff]

/-- What is placed next are the tasks that are ready. -/
theorem mem_nowPlaced_iff (distinct : (tasks.map (·.id)).Nodup)
    (among : ∀ task ∈ remaining, task ∈ tasks) {task : ResearchTask} (member : task ∈ tasks) :
    task.id ∈ nowPlaced placed remaining ↔
      task.id ∈ placed ∨ task ∈ readyTasks placed remaining := by
  rw [nowPlaced, List.mem_append]
  apply or_congr_right
  constructor
  · intro inReady
    obtain ⟨other, isReady, same⟩ := List.mem_map.mp inReady
    have otherMember := among other (mem_readyTasks.mp isReady).1
    obtain rfl := List.inj_on_of_nodup_map distinct otherMember member same
    exact isReady
  · exact fun isReady => List.mem_map_of_mem isReady

/-- The remaining tasks are those that are placed next and those that are left. -/
theorem perm_ready_left (distinct : (tasks.map (·.id)).Nodup)
    (left : remaining = tasksLeft placed tasks) :
    (readyTasks placed remaining ++
      tasksLeft (nowPlaced placed remaining) remaining).Perm remaining := by
  have among : ∀ task ∈ remaining, task ∈ tasks := by
    intro task member
    rw [left] at member
    exact (mem_tasksLeft.mp member).1
  have complement : tasksLeft (nowPlaced placed remaining) remaining =
      remaining.filter fun task =>
        !decide (∀ dependency ∈ task.dependencies, dependency ∈ placed) := by
    apply List.filter_congr
    intro task member
    have unplaced : task.id ∉ placed := by
      rw [left] at member
      exact (mem_tasksLeft.mp member).2
    have places := @mem_nowPlaced_iff tasks placed remaining distinct among task (among task member)
    rw [← decide_not, decide_eq_decide, places, mem_readyTasks]
    simp only [unplaced, member, false_or, true_and]
  rw [complement]
  exact List.filter_append_perm _ remaining

/-- The loop goes on with one more layer. -/
theorem LoopState.next (state : LoopState tasks layers placed remaining)
    (distinct : (tasks.map (·.id)).Nodup) (closed : ¬ HasUnknownDependency tasks)
    (sorts : sortByCreation (readyTasks placed remaining) = .ok layer) :
    LoopState tasks (layers ++ [layer]) (nowPlaced placed remaining)
      (tasksLeft (nowPlaced placed remaining) remaining) := by
  obtain ⟨sorted, zones⟩ := sortByCreation_eq_ok sorts
  have flat : (layers ++ [layer]).flatten = layers.flatten ++ layer := by simp
  have among : ∀ task ∈ remaining, task ∈ tasks := by
    intro task member
    rw [state.left] at member
    exact (mem_tasksLeft.mp member).1
  have isReady {task : ResearchTask} : task ∈ layer ↔ task ∈ readyTasks placed remaining :=
    sorted.perm.mem_iff
  refine ⟨?_, ?_, ?_, ?_, ?_, ?_⟩
  · rw [List.length_append, List.length_singleton]
    apply state.placedTo.succ closed distinct
    intro task member
    rw [mem_nowPlaced_iff distinct among member]
    by_cases isPlaced : task.id ∈ placed
    · exact iff_of_true (Or.inl isPlaced) (Or.inl isPlaced)
    · apply or_congr_right
      rw [mem_readyTasks]
      constructor
      · exact fun ready => ⟨task, member, ready.2, rfl⟩
      · intro found
        obtain ⟨other, otherMember, ready, same⟩ := found
        obtain rfl := List.inj_on_of_nodup_map distinct otherMember member same
        refine ⟨?_, ready⟩
        rw [state.left]
        exact mem_tasksLeft.mpr ⟨member, isPlaced⟩
  · have step := @tasksLeft_nowPlaced tasks placed remaining
    rw [← state.left] at step
    exact step
  · intro identifier member
    rw [flat, List.map_append]
    rcases List.mem_append.mp member with before | now
    · exact List.mem_append_left _ (state.known identifier before)
    · obtain ⟨task, taskReady, rfl⟩ := List.mem_map.mp now
      exact List.mem_append_right _ (List.mem_map_of_mem (isReady.mpr taskReady))
  · rw [flat]
    apply state.after.append
    intro task member dependency needed
    exact state.known dependency ((mem_readyTasks.mp (isReady.mp member)).2 dependency needed)
  · rw [flat, List.append_assoc]
    have both := (sorted.perm.append_right
      (tasksLeft (nowPlaced placed remaining) remaining)).trans
        (perm_ready_left distinct state.left)
    exact (both.append_left layers.flatten).trans state.perm
  · intro index other found
    rcases Nat.lt_trichotomy index layers.length with earlier | rfl | later
    · rw [List.getElem?_append_left earlier] at found
      exact state.isLayer index other found
    · rw [List.getElem?_concat_length] at found
      obtain rfl := Option.some.inj found
      refine ⟨⟨fun task => decide (task ∈ readyTasks placed remaining), ?_, ?_⟩, ?_⟩
      · intro task member
        rw [decide_eq_true_iff, state.mem_ready closed]
        exact and_iff_right member
      · have same : tasks.filter (· ∈ readyTasks placed remaining) =
            readyTasks placed remaining := by
          conv_rhs => rw [readyTasks, state.left, tasksLeft, List.filter_filter]
          apply List.filter_congr
          intro task member
          rw [← Bool.decide_and, decide_eq_decide, mem_readyTasks, state.left, mem_tasksLeft]
          simp only [member, true_and, and_comm]
        rw [same]
        exact sorted
      · intro first isFirst second isSecond
        exact zones first (isReady.mp isFirst) second (isReady.mp isSecond)
    · rw [List.getElem?_eq_none (by simp; omega)] at found
      cases found

/-- Where tasks remain and none is ready, there is a cycle. -/
theorem LoopState.cycle_of_stuck (state : LoopState tasks layers placed remaining)
    (closed : ¬ HasUnknownDependency tasks) (some : remaining ≠ [])
    (stuck : readyTasks placed remaining = []) : HasDependencyCycle tasks := by
  by_contra acyclic
  obtain ⟨task, member⟩ := List.exists_mem_of_ne_nil remaining some
  rw [state.left] at member
  obtain ⟨inTasks, unplaced⟩ := mem_tasksLeft.mp member
  have isPlaced : task.id ∈ placed ↔ _ := state.placedTo task inTasks
  obtain ⟨next, nextMember, isLevel⟩ :=
    exists_next_level acyclic ⟨task, inTasks, mt isPlaced.mpr unplaced⟩
  have isReady := (state.mem_ready closed).mpr ⟨nextMember, isLevel⟩
  rw [stuck] at isReady
  cases isReady

/-- Where the tasks of a level cannot be sorted, their times are not comparable. -/
theorem LoopState.mixesZones (state : LoopState tasks layers placed remaining)
    (closed : ¬ HasUnknownDependency tasks) {error : OrderError}
    (raises : sortByCreation (readyTasks placed remaining) = .error error) :
    MixesZones tasks := by
  unfold sortByCreation at raises
  split at raises
  · cases raises
  · rename_i differ
    by_contra same
    apply differ
    intro first isFirst second isSecond
    obtain ⟨firstMember, firstLevel⟩ := (state.mem_ready closed).mp isFirst
    obtain ⟨secondMember, secondLevel⟩ := (state.mem_ready closed).mp isSecond
    by_contra apart
    exact same ⟨first, firstMember, second, secondMember, _, firstLevel, secondLevel, apart⟩

/-- What the loop returns, and when it raises.  The induction is on the tasks that remain. -/
theorem placeTasks_outcome (state : LoopState tasks layers placed remaining)
    (distinct : (tasks.map (·.id)).Nodup) (closed : ¬ HasUnknownDependency tasks) :
    (∀ ordered, placeTasks layers.flatten placed remaining = .ok ordered →
      ∃ all final, ordered = all.flatten ∧ LoopState tasks all final []) ∧
    ∀ error, placeTasks layers.flatten placed remaining = .error error →
      HasDependencyCycle tasks ∨ MixesZones tasks := by
  induction size : remaining.length using Nat.strong_induction_on
    generalizing layers placed remaining with
  | _ size inductionHypothesis =>
      rw [placeTasks]
      by_cases done : remaining = []
      · rw [if_pos done]
        subst done
        refine ⟨?_, ?_⟩
        · intro ordered returns
          exact ⟨layers, placed, (Except.ok.inj returns).symm, state⟩
        · intro error raises
          cases raises
      · rw [if_neg done]
        by_cases stuck : readyTasks placed remaining = []
        · rw [dif_pos stuck]
          refine ⟨?_, ?_⟩
          · intro ordered returns
            cases returns
          · intro error _
            exact Or.inl (state.cycle_of_stuck closed done stuck)
        · rw [dif_neg stuck]
          cases sorts : sortByCreation (readyTasks placed remaining) with
          | error error =>
              refine ⟨?_, ?_⟩
              · intro ordered returns
                cases returns
              · intro error _
                exact Or.inr (state.mixesZones closed sorts)
          | ok layer =>
              have next := state.next distinct closed sorts
              have flat : (layers ++ [layer]).flatten = layers.flatten ++ layer := by simp
              have further := inductionHypothesis _ (size ▸ length_tasksLeft_lt stuck) next rfl
              rw [flat] at further
              exact further

/-- At the end of the loop every task is below the last layer. -/
theorem LoopState.isBelow (state : LoopState tasks layers placed []) {task : ResearchTask}
    (member : task ∈ tasks) :
    IsBelow ResearchTask.id ResearchTask.dependencies tasks layers.length task := by
  have isPlaced : task.id ∈ placed ↔ _ := state.placedTo task member
  apply isPlaced.mp
  by_contra unplaced
  have left := mem_tasksLeft.mpr ⟨member, unplaced⟩
  rw [← state.left] at left
  cases left

/-- The end of the loop is an order of execution. -/
theorem LoopState.isExecutionOrder (state : LoopState tasks layers placed []) :
    IsExecutionOrder tasks layers.flatten := by
  have perm := state.perm
  rw [List.append_nil] at perm
  refine ⟨perm, state.after, ?_⟩
  have levels (task : ResearchTask) : ∃ level, task ∈ tasks →
      level < layers.length ∧ TaskLevel tasks task level := by
    by_cases member : task ∈ tasks
    · obtain ⟨level, less, isLevel⟩ := exists_isLevel (state.isBelow member)
      exact ⟨level, fun _ => ⟨less, isLevel⟩⟩
    · exact ⟨0, fun isMember => absurd isMember member⟩
  choose level isLevel using levels
  refine ⟨level, layers, fun task member => (isLevel task member).2,
    fun task member => (isLevel task member).1, rfl, ?_⟩
  intro index layer found
  obtain ⟨inLayer, holds, sorted⟩ := (state.isLayer index layer found).sorted
  have same : tasks.filter (level · = index) = tasks.filter inLayer := by
    apply List.filter_congr
    intro task member
    rw [Bool.eq_iff_iff, decide_eq_true_iff, holds task member]
    constructor
    · intro isIndex
      rw [← isIndex]
      exact (isLevel task member).2
    · exact fun isIndex => (isLevel task member).2.eq isIndex
  rw [same]
  exact sorted

/-- At the end of the loop nothing is left that could have made it raise. -/
theorem LoopState.orderable (state : LoopState tasks layers placed []) :
    ¬ HasDependencyCycle tasks ∧ ¬ MixesZones tasks := by
  refine ⟨?_, ?_⟩
  · intro cycle
    obtain ⟨task, member, above⟩ := cycle.exists_not_isBelow layers.length
    exact above (state.isBelow member)
  · intro mixes
    obtain ⟨first, firstMember, second, secondMember, level, isFirst, isSecond, apart⟩ := mixes
    have inLayers : level < layers.length := by
      obtain ⟨least, less, isLeast⟩ := exists_isLevel (state.isBelow firstMember)
      exact isFirst.eq isLeast ▸ less
    have isLayer := state.isLayer level _ (List.getElem?_eq_getElem inLayers)
    exact apart (isLayer.zones first (isLayer.mem_iff.mpr ⟨firstMember, isFirst⟩)
      second (isLayer.mem_iff.mpr ⟨secondMember, isSecond⟩))

end Loop

/-! ## The result -/

theorem refuseUnknownTasks_eq_ok {tasks : List ResearchTask} {task : ResearchTask} :
    refuseUnknownTasks tasks task = .ok () ↔
      ∀ dependency ∈ task.dependencies, dependency ∈ tasks.map (·.id) := by
  unfold refuseUnknownTasks
  by_cases none : (task.dependencies.filter (· ∉ tasks.map (·.id))).map UUID.str = []
  · simp only [none, if_true, true_iff]
    intro dependency member
    have unlisted := List.filter_eq_nil_iff.mp (List.map_eq_nil_iff.mp none) dependency member
    simpa using unlisted
  · simp only [none, if_false]
    refine iff_of_false (by simp) ?_
    intro known
    apply none
    rw [List.map_eq_nil_iff, List.filter_eq_nil_iff]
    intro dependency member
    simp only [decide_eq_true_eq, not_not]
    exact known dependency member

theorem refuseUnknownTasks_accepts {tasks : List ResearchTask} :
    tasks.forM (refuseUnknownTasks tasks) = .ok () ↔ ¬ HasUnknownDependency tasks := by
  rw [forM_eq_ok_iff]
  constructor
  · intro checked dangles
    obtain ⟨task, member, dependency, needed, unlisted⟩ := dangles
    exact unlisted (refuseUnknownTasks_eq_ok.mp (checked task member) dependency needed)
  · intro closed task member
    apply refuseUnknownTasks_eq_ok.mpr
    intro dependency needed
    by_contra unlisted
    exact closed ⟨task, member, dependency, needed, unlisted⟩

/-- The result comes from the loop where every dependency is known. -/
theorem resolveExecutionOrder_eq_ok {tasks ordered : List ResearchTask} :
    resolveExecutionOrder tasks = .ok ordered ↔
      ¬ HasUnknownDependency tasks ∧ placeTasks [] [] tasks = .ok ordered := by
  rw [← refuseUnknownTasks_accepts]
  unfold resolveExecutionOrder
  constructor
  · intro returns
    obtain ⟨⟨⟩, checked, placed⟩ := bind_eq_ok.mp returns
    exact ⟨checked, placed⟩
  · exact fun both => bind_eq_ok.mpr ⟨(), both⟩

theorem resolveExecutionOrder_returns_iff {tasks : List ResearchTask}
    (distinct : (tasks.map (·.id)).Nodup) :
    (∃ ordered, resolveExecutionOrder tasks = .ok ordered) ↔
      ¬ HasUnknownDependency tasks ∧ ¬ HasDependencyCycle tasks ∧ ¬ MixesZones tasks := by
  simp only [resolveExecutionOrder_eq_ok, exists_and_left]
  apply and_congr_right
  intro closed
  obtain ⟨returns, raises⟩ := placeTasks_outcome loopState_nil distinct closed
  constructor
  · intro placed
    obtain ⟨ordered, outcome⟩ := placed
    obtain ⟨layers, final, -, state⟩ := returns ordered outcome
    exact state.orderable
  · intro orderable
    cases outcome : placeTasks [] [] tasks with
    | ok ordered => exact ⟨ordered, rfl⟩
    | error error =>
        rcases raises error outcome with cycle | mixes
        · exact absurd cycle orderable.1
        · exact absurd mixes orderable.2

/-- `resolveExecutionOrder` raises exactly where a dependency is unknown, the dependencies
have a cycle or the times of a level are not comparable, and otherwise orders the tasks. -/
theorem resolveExecutionOrder_spec {tasks : List ResearchTask}
    (distinct : (tasks.map (·.id)).Nodup) :
    ((∃ error, resolveExecutionOrder tasks = .error error) ↔
      HasUnknownDependency tasks ∨ HasDependencyCycle tasks ∨ MixesZones tasks) ∧
    ∀ ordered, resolveExecutionOrder tasks = .ok ordered → IsExecutionOrder tasks ordered := by
  refine ⟨?_, ?_⟩
  · have returns := resolveExecutionOrder_returns_iff distinct
    rw [← not_or, ← not_or] at returns
    have raises : (∃ error, resolveExecutionOrder tasks = .error error) ↔
        ¬ ∃ ordered, resolveExecutionOrder tasks = .ok ordered := by
      cases resolveExecutionOrder tasks <;> simp
    rw [raises, returns, not_not]
  · intro ordered outcome
    obtain ⟨closed, placed⟩ := resolveExecutionOrder_eq_ok.mp outcome
    obtain ⟨layers, final, rfl, state⟩ :=
      (placeTasks_outcome loopState_nil distinct closed).1 ordered placed
    exact state.isExecutionOrder

section Examples

def surveyTask : ResearchTask where
  id := 1
  jobId := 7
  tenantId := "acme"
  objective := ⟨"Survey the market", by decide⟩
  assignedAgent := .researcher
  createdAt := ⟨5, true⟩

/-- A task whose creation time carries no zone. -/
def localTask : ResearchTask :=
  { surveyTask with id := 2, createdAt := ⟨3, false⟩ }

def reportTask : ResearchTask :=
  { surveyTask with id := 3, assignedAgent := .reporter, dependencies := [1] }

theorem resolveExecutionOrder_spec_of_two :
    ([reportTask, surveyTask].map (·.id)).Nodup ∧
      ((∃ error, resolveExecutionOrder [reportTask, surveyTask] = .error error) ↔
        HasUnknownDependency [reportTask, surveyTask] ∨
          HasDependencyCycle [reportTask, surveyTask] ∨ MixesZones [reportTask, surveyTask]) ∧
      ∀ ordered, resolveExecutionOrder [reportTask, surveyTask] = .ok ordered →
        IsExecutionOrder [reportTask, surveyTask] ordered :=
  ⟨by decide, resolveExecutionOrder_spec (by decide)⟩

/-- Nothing depends on anything here, and still the tasks are refused. -/
theorem mixed_zones_refused :
    ([surveyTask, localTask].map (·.id)).Nodup ∧ surveyTask.Valid ∧ localTask.Valid ∧
      resolveExecutionOrder [surveyTask, localTask] =
        .error (.typeError "can't compare offset-naive and offset-aware datetimes") ∧
      ¬ HasUnknownDependency [surveyTask, localTask] ∧
      ¬ HasDependencyCycle [surveyTask, localTask] := by
  have free : ∀ task ∈ [surveyTask, localTask], task.dependencies = [] := by decide
  refine ⟨by decide, by decide, by decide, ?_, ?_, ?_⟩
  · have known : [surveyTask, localTask].forM (refuseUnknownTasks [surveyTask, localTask]) =
        .ok () := forM_eq_ok_iff.mpr fun task member =>
      refuseUnknownTasks_eq_ok.mpr (by simp [free task member])
    have ready : readyTasks [] [surveyTask, localTask] = [surveyTask, localTask] := by decide
    rw [resolveExecutionOrder, known]
    change placeTasks [] [] [surveyTask, localTask] = _
    rw [placeTasks, if_neg (by decide), dif_neg (by rw [ready]; decide), ready]
    rfl
  · intro unknown
    obtain ⟨task, member, dependency, needed, -⟩ := unknown
    rw [free task member] at needed
    cases needed
  · intro cycle
    obtain ⟨task, chain⟩ := cycle
    obtain ⟨needed, step, -⟩ := Relation.TransGen.head'_iff.mp chain
    have listed := step.2.2
    rw [free task step.1] at listed
    cases listed

end Examples

end ResearchPlatform
