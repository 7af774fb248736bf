import ResearchPlatform.Mcp.SandboxBackends

/-!
# The containers of calculations

What the container runtime is asked in one run of a calculation, as the history of one
container: it is started at most once, without a network and with the screened code on its
standard input, and killed by name when it runs out of time.
-/

namespace ResearchPlatform

open Foundation Program

/-- Where the container of a run stands.  It is `overdue` when the client stopped waiting for
it, which does not stop it, and `broken` by a command that is out of turn. -/
inductive ContainerPhase where
  | absent
  | unstarted
  | ended (completed : CompletedProcess)
  | overdue (name : String)
  | killed (name : String)
  | broken

/-- The options that withhold the network, the privileges and the resources of the host. -/
def confinement (cpuSeconds memoryMib : Int) : List (List String) :=
  [["--network", "none"], ["--memory", toString memoryMib ++ "m"],
    ["--memory-swap", toString memoryMib ++ "m"], ["--cpus", "1"], ["--pids-limit", "64"],
    ["--ulimit", "cpu=" ++ toString cpuSeconds ++ ":" ++ toString cpuSeconds],
    ["--read-only"], ["--cap-drop", "ALL"], ["--security-opt", "no-new-privileges"],
    ["--user", "65534:65534"]]

namespace DockerSandboxBackend

variable (backend : DockerSandboxBackend)

/-- The command starts a container of that name within its confinement: every option stands
before the image, where the runtime reads it. -/
def Starts (name : String) (cpuSeconds memoryMib : Int) (command : List String) : Prop :=
  ∃ options, command = [backend.docker, "run"] ++ options ++
      [backend.image, "python", "-I", "-c", entrypoint] ∧
    ∀ option ∈ ["--rm"] :: ["--name", name] :: confinement cpuSeconds memoryMib,
      option <:+: options

theorem starts_command {name : String} {cpuSeconds memoryMib : Int} :
    backend.Starts name cpuSeconds memoryMib (backend.command name cpuSeconds memoryMib) := by
  refine ⟨((backend.command name cpuSeconds memoryMib).drop 2).take 25, rfl, ?_⟩
  simp [command, confinement, List.infix_cons_iff]

/-- What one command makes of the phase. -/
def nextPhase : ContainerPhase → SandboxEvent → ContainerPhase
  | .absent, ⟨.execute _ (some _) (some _), .ok completed⟩ => .ended completed
  | .absent, ⟨.execute command (some _) (some _), .error fault⟩ =>
      if fault = .timeoutExpired then .overdue (command.getD 5 "") else .unstarted
  | .overdue name, ⟨.execute command none none, _⟩ =>
      if command = [backend.docker, "kill", name] then .killed name else .broken
  | _, ⟨.execute .., _⟩ => .broken
  | _, ⟨.api .., _⟩ => .broken
  | phase, _ => phase

/-- The monitor that follows the container. -/
def containerMonitor :
    Monitor SandboxCall SandboxCall.Answer SandboxFault ContainerPhase where
  observe := backend.nextPhase
  admits _ _ := True

/-- What a run leaves of its container: an overdue one was killed, and an output is what one
printed that ended with status zero. -/
inductive Closed (outcome : Except SandboxFault String) : ContainerPhase → Prop where
  | absent (failed : ∀ output, outcome ≠ .ok output) : Closed outcome .absent
  | unstarted (failed : ∀ output, outcome ≠ .ok output) : Closed outcome .unstarted
  | killed (name : String) (failed : ∀ output, outcome ≠ .ok output) :
      Closed outcome (.killed name)
  | ended (completed : CompletedProcess)
      (printed : ∀ output, outcome = .ok output →
        completed.returncode = 0 ∧ output = completed.stdout) :
      Closed outcome (.ended completed)

variable {backend}

theorem closed_judge (completed : CompletedProcess) :
    Closed (judge completed) (.ended completed) := by
  apply Closed.ended
  intro output returned
  rw [judge] at returned
  split at returned
  · cases returned
  · rename_i succeeded
    exact ⟨Decidable.not_not.mp succeeded, (Except.ok.inj returned).symm⟩

/-- An overdue container is killed. -/
theorem ensures_recover_late {name : String} :
    Ensures backend.containerMonitor (backend.recover name .timeoutExpired) (.overdue name)
      fun outcome last => last = .killed name ∧ ∀ completed, outcome ≠ .ok completed := by
  apply ensures_perform_bind.mpr
  intro killed _
  have asked : backend.nextPhase (.overdue name)
      ⟨.execute [backend.docker, "kill", name] none none, killed⟩ = .killed name := if_pos rfl
  cases killed <;> exact ⟨asked, nofun⟩

theorem ensures_recover {name : String} {fault : SandboxFault} {phase : ContainerPhase}
    (inTime : fault ≠ .timeoutExpired) :
    Ensures backend.containerMonitor (backend.recover name fault) phase
      fun outcome last => last = phase ∧ ∀ completed, outcome ≠ .ok completed := by
  cases fault with
  | timeoutExpired => exact absurd rfl inTime
  | _ => exact ⟨rfl, nofun⟩

/-- One run leaves its container closed. -/
theorem ensures_run {code : String} {cpuSeconds memoryMib : Int} :
    Ensures backend.containerMonitor (backend.run code cpuSeconds memoryMib) .absent Closed := by
  apply ensures_perform_bind.mpr
  intro id _
  cases id with
  | error fault => exact .absent nofun
  | ok id =>
      apply ensures_bind.mpr
      apply ensures_rescue.mpr
      apply ensures_perform.mpr
      intro answer _
      cases answer with
      | ok completed => exact closed_judge completed
      | error fault =>
          change Ensures backend.containerMonitor (backend.recover (calculationName id) fault)
            (if fault = .timeoutExpired then .overdue (calculationName id) else .unstarted) _
          split
          · rename_i late
            subst late
            apply ensures_recover_late.mono
            intro outcome last recovered
            obtain ⟨rfl, failed⟩ := recovered
            cases outcome with
            | ok completed => exact absurd rfl (failed completed)
            | error fault => exact .killed _ nofun
          · rename_i inTime
            apply (ensures_recover inTime).mono
            intro outcome last recovered
            obtain ⟨rfl, failed⟩ := recovered
            cases outcome with
            | ok completed => exact absurd rfl (failed completed)
            | error fault => exact .unstarted nofun

/-! ## The service -/

/-- The service over a container runtime. -/
def service (backend : DockerSandboxBackend) (limits : SandboxLimits) (parser : PythonParser) :
    SandboxService where
  backend := some backend.run
  limits := limits
  parser := parser

/-- A command kills a container, or starts one that is confined and reads the screened code
from its standard input.  Nothing else is asked for. -/
def Screens (backend : DockerSandboxBackend) (limits : SandboxLimits) (parser : PythonParser)
    (code : String) : SandboxCall → Prop
  | .uuid => True
  | .execute command none none => ∃ name, command = [backend.docker, "kill", name]
  | .execute command (some input) (some timeout) =>
      parser.Permits code ∧ input = strip code ∧ timeout = backend.wallClockSeconds ∧
        ∃ name, backend.Starts name limits.cpuSeconds limits.memoryMib command
  | _ => False

section Service

variable {limits : SandboxLimits} {parser : PythonParser} {tenantId code : String}

theorem requests_service :
    Requests (Screens backend limits parser code)
      ((backend.service limits parser).run tenantId code) := by
  obtain ⟨fault, -, refused⟩ | ⟨_, configured, permitted, ran⟩ :=
    (backend.service limits parser).run_cases tenantId code
  · rw [refused]
    trivial
  · obtain rfl := Option.some.inj configured
    rw [ran]
    refine requests_bind ?_ fun _ => requests_finish
    refine requests_bind (requests_perform.mpr (by trivial)) fun id => ?_
    refine requests_bind (requests_rescue ?_ fun fault => ?_) fun _ => requests_finish
    · exact requests_perform.mpr ⟨permitted, rfl, rfl, _, backend.starts_command⟩
    · cases fault with
      | timeoutExpired =>
          exact requests_bind (requests_perform.mpr ⟨calculationName id, rfl⟩) fun _ => trivial
      | _ => trivial

theorem ensures_service :
    Ensures backend.containerMonitor ((backend.service limits parser).run tenantId code) .absent
      Closed := by
  obtain ⟨fault, -, refused⟩ | ⟨_, configured, -, ran⟩ :=
    (backend.service limits parser).run_cases tenantId code
  · rw [refused]
    exact .absent nofun
  · obtain rfl := Option.some.inj configured
    rw [ran]
    apply ensures_bind.mpr
    apply ensures_run.mono
    intro outcome last closed
    cases outcome with
    | error fault => exact closed
    | ok text =>
        cases closed with
        | absent failed => exact absurd rfl (failed text)
        | unstarted failed => exact absurd rfl (failed text)
        | killed name failed => exact absurd rfl (failed text)
        | ended completed printed =>
            apply Closed.ended
            intro output returned
            rw [SandboxService.bounded] at returned
            split at returned
            · cases returned
            · rw [← Except.ok.inj returned]
              exact printed text rfl

end Service

end DockerSandboxBackend

end ResearchPlatform
