import ResearchPlatform.Domain.Models

/-!
# Tasks

`ResearchTask` is the unit of work the planner assigns to one agent, and
`resolveExecutionOrder` puts tasks into an order in which each comes after its dependencies.
-/

namespace ResearchPlatform

inductive AgentRole where
  | planner
  | researcher
  | analyst
  | critic
  | reporter
  deriving DecidableEq, Repr

/-- `agent_role.value`. -/
def AgentRole.value : AgentRole → String
  | planner => "planner"
  | researcher => "researcher"
  | analyst => "analyst"
  | critic => "critic"
  | reporter => "reporter"

structure ResearchTask where
  id : UUID
  jobId : UUID
  tenantId : String
  objective : NonEmptyText
  assignedAgent : AgentRole
  dependencies : List UUID := []
  evidenceRequirements : List NonEmptyText := []
  sourceRestrictions : List NonEmptyText := []
  createdAt : DateTime
  deriving DecidableEq

namespace ResearchTask

/-- The field limits of `ResearchTask`, and `task_must_not_depend_on_itself`. -/
structure Valid (task : ResearchTask) : Prop where
  tenantInRange : 1 ≤ task.tenantId.length ∧ task.tenantId.length ≤ 100
  dependenciesBounded : task.dependencies.length ≤ 50
  requirementsBounded : task.evidenceRequirements.length ≤ 50
  restrictionsBounded : task.sourceRestrictions.length ≤ 50
  notItself : task.id ∉ task.dependencies

instance (task : ResearchTask) : Decidable task.Valid :=
  decidable_of_iff
    ((1 ≤ task.tenantId.length ∧ task.tenantId.length ≤ 100) ∧
      task.dependencies.length ≤ 50 ∧ task.evidenceRequirements.length ≤ 50 ∧
      task.sourceRestrictions.length ≤ 50 ∧ task.id ∉ task.dependencies)
    ⟨fun ⟨tenant, dependencies, requirements, restrictions, notItself⟩ =>
        ⟨tenant, dependencies, requirements, restrictions, notItself⟩,
      fun valid =>
        ⟨valid.tenantInRange, valid.dependenciesBounded, valid.requirementsBounded,
          valid.restrictionsBounded, valid.notItself⟩⟩

/-- `ResearchTask(...)`: construct a task or raise. -/
def validate (task : ResearchTask) : Except ValidationError ResearchTask :=
  if task.Valid then .ok task
  else .error ⟨"a research task breaks its own validators"⟩

end ResearchTask

/-! ## The order of execution -/

inductive OrderError where
  | valueError (message : String)
  | typeError (message : String)
  deriving DecidableEq

/-- Raise where a task depends on tasks that are not in the list. -/
def refuseUnknownTasks (tasks : List ResearchTask) (task : ResearchTask) :
    Except OrderError Unit :=
  let missing := (task.dependencies.filter (· ∉ tasks.map (·.id))).map UUID.str
  if missing = [] then .ok ()
  else .error (.valueError
    ("task " ++ task.id.str ++ " depends on unknown tasks: " ++ ", ".intercalate missing))

/-- `tasks.sort(key=lambda task: task.created_at)`.  Times are only compared where all of
them carry a zone or none does. -/
def sortByCreation (tasks : List ResearchTask) : Except OrderError (List ResearchTask) :=
  if ∀ first ∈ tasks, ∀ second ∈ tasks,
      first.createdAt.hasZone = second.createdAt.hasZone then
    .ok (tasks.insertionSort fun first second =>
      first.createdAt.micros ≤ second.createdAt.micros)
  else .error (.typeError "can't compare offset-naive and offset-aware datetimes")

/-- The tasks whose dependencies are all placed. -/
def readyTasks (placed : List UUID) (remaining : List ResearchTask) : List ResearchTask :=
  remaining.filter fun task => ∀ dependency ∈ task.dependencies, dependency ∈ placed

/-- The identifiers that are placed once the tasks that are ready are. -/
def nowPlaced (placed : List UUID) (remaining : List ResearchTask) : List UUID :=
  placed ++ (readyTasks placed remaining).map (·.id)

/-- The tasks that are not placed. -/
def tasksLeft (placed : List UUID) (remaining : List ResearchTask) : List ResearchTask :=
  remaining.filter (·.id ∉ placed)

theorem length_tasksLeft_lt {placed : List UUID} {remaining : List ResearchTask}
    (some : readyTasks placed remaining ≠ []) :
    (tasksLeft (nowPlaced placed remaining) remaining).length < remaining.length := by
  obtain ⟨task, isReady⟩ := List.exists_mem_of_ne_nil _ some
  apply List.length_filter_lt_length_iff_exists.mpr
  refine ⟨task, (List.mem_filter.mp isReady).1, ?_⟩
  simp only [decide_eq_true_eq, not_not]
  exact List.mem_append_right placed (List.mem_map_of_mem isReady)

/-- The loop of `resolve_execution_order`. -/
def placeTasks (ordered : List ResearchTask) (placed : List UUID)
    (remaining : List ResearchTask) : Except OrderError (List ResearchTask) :=
  if remaining = [] then .ok ordered
  else if _ : readyTasks placed remaining = [] then
    .error (.valueError "research task dependencies contain a cycle")
  else do
    let ready ← sortByCreation (readyTasks placed remaining)
    placeTasks (ordered ++ ready) (nowPlaced placed remaining)
      (tasksLeft (nowPlaced placed remaining) remaining)
  termination_by remaining.length
  decreasing_by exact length_tasksLeft_lt ‹_›

/-- `resolve_execution_order`. -/
def resolveExecutionOrder (tasks : List ResearchTask) :
    Except OrderError (List ResearchTask) := do
  tasks.forM (refuseUnknownTasks tasks)
  placeTasks [] [] tasks

end ResearchPlatform
