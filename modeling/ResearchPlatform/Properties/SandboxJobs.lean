import ResearchPlatform.Mcp.SandboxBackends

/-!
# The Jobs of calculations

What the API server is asked in one run of a calculation, as the history of one Job: it is
created at most once, followed, and removed by the last request of the run.
-/

namespace ResearchPlatform

open Foundation Program

/-! ## Reading a manifest -/

/-- One step into a document: a member of an object, or the first item of a list. -/
def Json.item (step : String) : Json → Option Json
  | .object members => (members.find? (·.1 = step)).map Prod.snd
  | .array items => if step = "0" then items.head? else none
  | _ => none

/-- What a document holds at the end of a path. -/
def Json.at (document : Json) : List String → Option Json
  | [] => some document
  | step :: rest => (document.item step).bind fun next => next.at rest

/-- `document["metadata"]["name"]`. -/
def jobNameOf (document : Json) : Option String :=
  match document.at ["metadata", "name"] with
  | some (.text name) => some name
  | _ => none

/-- The path of the pod, and of its container. -/
def podPath : List String := ["spec", "template", "spec"]

def containerPath : List String := podPath ++ ["containers", "0"]

/-- A Job that may run a code: its pod is the one that the network policy cuts off, and has
no way up; the code is a value in its environment. -/
structure ConfinedJob (code : String) (document : Json) : Prop where
  labelled : document.at ["spec", "template", "metadata", "labels", "research-platform/sandbox"] =
    some (.text "calculation")
  neverRetried : document.at ["spec", "backoffLimit"] = some (.int 0)
  neverRestarted : document.at (podPath ++ ["restartPolicy"]) = some (.text "Never")
  noToken : document.at (podPath ++ ["automountServiceAccountToken"]) = some (.bool false)
  unprivileged : document.at (podPath ++ ["securityContext", "runAsNonRoot"]) = some (.bool true)
  noEscalation : document.at
    (containerPath ++ ["securityContext", "allowPrivilegeEscalation"]) = some (.bool false)
  readOnly : document.at
    (containerPath ++ ["securityContext", "readOnlyRootFilesystem"]) = some (.bool true)
  noCapabilities : document.at
    (containerPath ++ ["securityContext", "capabilities", "drop"]) = some (.array [.text "ALL"])
  command : document.at (containerPath ++ ["command"]) =
    some (.array [.text "python", .text "-I", .text "-c",
      .text KubernetesSandboxBackend.entrypoint])
  carried : document.at (containerPath ++ ["env", "0"]) =
    some (.object [("name", .text "CALCULATION"), ("value", .text code)])

/-- Every Job that the backend describes is one of those. -/
theorem KubernetesSandboxBackend.confinedJob_manifest {backend : KubernetesSandboxBackend}
    {name code : String} {cpuSeconds memoryMib : Int} :
    ConfinedJob code (backend.manifest name code cpuSeconds memoryMib) where
  labelled := rfl
  neverRetried := rfl
  neverRestarted := rfl
  noToken := rfl
  unprivileged := rfl
  noEscalation := rfl
  readOnly := rfl
  noCapabilities := rfl
  command := rfl
  carried := rfl

/-! ## One run -/

/-- Where the Job of a run stands.  It is `doubtful` when its creation was asked for and
not confirmed, and `broken` by a request that is out of turn. -/
inductive JobPhase where
  | absent
  | doubtful
  | live (job : String)
  | removed (job : String)
  | broken
  deriving DecidableEq

/-- The phase, and whether the last thing that happened was that no token could be read. -/
structure JobWatch where
  phase : JobPhase := .absent
  tokenLost : Bool := false

namespace KubernetesSandboxBackend

variable (backend : KubernetesSandboxBackend)

/-- What one request makes of the phase. -/
def nextPhase : JobPhase → SandboxEvent → JobPhase
  | .absent, ⟨.api .post path _ (.json document), answer⟩ =>
      match jobNameOf document, answer with
      | some name, .ok _ => if path = backend.jobs then .live (backend.job name) else .broken
      | some _, .error _ => .doubtful
      | none, _ => .broken
  | .live job, ⟨.api .get .., _⟩ => .live job
  | .live job, ⟨.api .delete path _ _, _⟩ => if path = job then .removed job else .broken
  | _, ⟨.api .., _⟩ => .broken
  | _, ⟨.execute .., _⟩ => .broken
  | phase, _ => phase

/-- Whether an event is a token that could not be read. -/
def losesToken : SandboxEvent → Bool
  | ⟨.token, .error _⟩ => true
  | _ => false

/-- The monitor that follows the Job. -/
def jobMonitor : Monitor SandboxCall SandboxCall.Answer SandboxFault JobWatch where
  observe watch event := ⟨backend.nextPhase watch.phase event, losesToken event⟩
  admits _ _ := True

/-- What a run leaves of its Job. -/
inductive Settled (returned : Prop) (watch : JobWatch) : Prop where
  | never (isAbsent : watch.phase = .absent) (failed : ¬ returned)
  | unconfirmed (isDoubtful : watch.phase = .doubtful) (failed : ¬ returned)
  | removed {job : String} (isRemoved : watch.phase = .removed job)
  | unreachable {job : String} (isLive : watch.phase = .live job)
      (noToken : watch.tokenLost = true)

variable {backend}

/-- The calls that follow a Job. -/
def Follows : SandboxCall → Prop
  | .api .get .. | .token | .clock | .sleep _ => True
  | _ => False

theorem requests_request {method : HttpMethod} {path : String} {options : RequestOptions}
    {allowed : SandboxCall → Prop} (token : allowed .token)
    (api : ∀ authorization, allowed (.api method path authorization options)) :
    Requests allowed (request method path options) := by
  apply requests_bind (requests_perform.mpr token)
  exact fun _ => requests_perform.mpr (api _)

theorem requests_wait {turns : Nat} {job : String} :
    Requests Follows (backend.wait turns job) := by
  apply requests_bind (requests_perform.mpr trivial)
  intro now
  apply requests_loop
  intro kept
  apply requests_bind (requests_request trivial fun _ => trivial)
  intro response
  apply requests_bind requests_finish
  intro status
  cases status with
  | some succeeded => trivial
  | none =>
      apply requests_bind (requests_perform.mpr trivial)
      intro now
      split
      · trivial
      · exact requests_bind (requests_perform.mpr trivial) fun _ => trivial

theorem requests_output {name : String} : Requests Follows (backend.output name) := by
  apply requests_bind (requests_request trivial fun _ => trivial)
  intro response
  apply requests_bind requests_finish
  intro pod
  cases pod with
  | none => trivial
  | some pod => exact requests_bind (requests_request trivial fun _ => trivial) fun _ => trivial

theorem requests_follow {turns : Nat} {name : String} :
    Requests Follows (backend.follow turns name) := by
  apply requests_rescue
  · apply requests_bind requests_wait
    intro succeeded
    exact requests_bind requests_output fun _ => trivial
  · exact fun _ => trivial

/-- Following a Job leaves it alive. -/
theorem ensures_follow {turns : Nat} {name job : String} {watch : JobWatch}
    (isLive : watch.phase = .live job) :
    Ensures backend.jobMonitor (backend.follow turns name) watch
      fun _ last => last.phase = .live job := by
  refine requests_follow.ensures_invariant ?_ isLive
  intro watch call follows isLive answer
  change backend.nextPhase watch.phase ⟨call, answer⟩ = .live job
  rw [isLive]
  match call, follows with
  | .api .get .., _ => rfl
  | .token, _ => rfl
  | .clock, _ => rfl
  | .sleep _, _ => rfl

/-- Deleting a live Job removes it, unless the token for it cannot be read. -/
theorem ensures_delete {job : String} {watch : JobWatch} (isLive : watch.phase = .live job) :
    Ensures backend.jobMonitor (delete job) watch fun _ last =>
      last.phase = .removed job ∨ last.phase = .live job ∧ last.tokenLost = true := by
  apply ensures_rescue.mpr
  apply ensures_bind.mpr
  apply ensures_perform_bind.mpr
  intro token _
  cases token with
  | error fault =>
      have unread : (backend.jobMonitor.observe watch ⟨.token, .error fault⟩).phase = .live job ∧
          (backend.jobMonitor.observe watch ⟨.token, .error fault⟩).tokenLost = true :=
        ⟨by simp [jobMonitor, nextPhase, isLive], rfl⟩
      cases fault <;> exact Or.inr unread
  | ok token =>
      apply ensures_perform.mpr
      intro answer _
      have asked : ∀ lost, (backend.jobMonitor.observe ⟨.live job, lost⟩
          ⟨.api .delete job ("Bearer " ++ token) (.params "propagationPolicy" "Background"),
            answer⟩).phase = .removed job := by
        intro lost
        exact if_pos rfl
      have read : (backend.jobMonitor.observe watch ⟨.token, .ok token⟩).phase = .live job := by
        simp [jobMonitor, nextPhase, isLive]
      generalize backend.jobMonitor.observe watch ⟨.token, .ok token⟩ = middle at read
      obtain ⟨phase, lost⟩ := middle
      obtain rfl : phase = .live job := read
      cases answer with
      | ok response => exact Or.inl (asked lost)
      | error fault => cases fault <;> exact Or.inl (asked lost)

/-- The Job is created, or its creation failed. -/
theorem ensures_start {name code : String} {cpuSeconds memoryMib : Int} {lost : Bool} :
    Ensures backend.jobMonitor (backend.start name code cpuSeconds memoryMib) ⟨.absent, lost⟩
      fun outcome last =>
        match outcome with
        | .ok _ => last.phase = .live (backend.job name)
        | .error _ => last.phase = .absent ∨ last.phase = .doubtful := by
  apply ensures_rescue.mpr
  apply ensures_perform_bind.mpr
  intro token _
  cases token with
  | error fault => exact Or.inl rfl
  | ok token =>
      apply ensures_perform.mpr
      intro answer _
      cases answer with
      | ok response => exact if_pos rfl
      | error fault => exact Or.inr rfl

/-- One run leaves its Job settled. -/
theorem ensures_run {turns : Nat} {code : String} {cpuSeconds memoryMib : Int} :
    Ensures backend.jobMonitor (backend.run turns code cpuSeconds memoryMib) {}
      fun outcome last => Settled (∃ output, outcome = .ok output) last := by
  apply ensures_perform_bind.mpr
  intro id _
  cases id with
  | error fault => exact .never rfl (by simp)
  | ok id =>
      apply ensures_bind.mpr
      apply ensures_start.mono
      intro started created isStarted
      cases started with
      | error fault =>
          rcases isStarted with isAbsent | isDoubtful
          · exact .never isAbsent (by simp)
          · exact .unconfirmed isDoubtful (by simp)
      | ok response =>
          apply ensures_bind.mpr
          apply ensures_ensuring.mpr
          apply (ensures_follow isStarted).mono
          intro followed middle isLive
          apply (ensures_delete isLive).mono
          intro cleaned last settled
          have settles : ∀ returned, Settled returned last := by
            intro returned
            rcases settled with isRemoved | ⟨isLive, noToken⟩
            · exact .removed isRemoved
            · exact .unreachable isLive noToken
          cases cleaned with
          | error fault => exact settles _
          | ok _ =>
              cases followed with
              | error fault => exact settles _
              | ok pair => exact settles _

/-! ## The service -/

/-- The service over a cluster. -/
def service (backend : KubernetesSandboxBackend) (turns : Nat) (limits : SandboxLimits)
    (parser : PythonParser) : SandboxService where
  backend := some (backend.run turns)
  limits := limits
  parser := parser

/-- A call that asks for a Job asks for one that may run the screened code, and no call
starts a process. -/
def Screens (parser : PythonParser) (code : String) : SandboxCall → Prop
  | .api .post _ _ options =>
      parser.Permits code ∧ ∃ document, options = .json document ∧ ConfinedJob (strip code) document
  | .execute .. => False
  | _ => True

section Service

variable {turns : Nat} {limits : SandboxLimits} {parser : PythonParser} {tenantId code : String}

theorem Follows.screens {call : SandboxCall} (follows : Follows call) :
    Screens parser code call :=
  match call, follows with
  | .api .get .., _ => trivial
  | .token, _ => trivial
  | .clock, _ => trivial
  | .sleep _, _ => trivial

theorem requests_delete {job : String} : Requests (Screens parser code) (delete job) := by
  apply requests_rescue
  · exact requests_bind (requests_request trivial fun _ => trivial) fun _ => trivial
  · intro fault
    cases fault <;> trivial

theorem requests_run {cpuSeconds memoryMib : Int} (permitted : parser.Permits code) :
    Requests (Screens parser code)
      (backend.run turns (strip code) cpuSeconds memoryMib) := by
  refine requests_bind (requests_perform.mpr (by trivial)) ?_
  intro id
  apply requests_bind
  · refine requests_rescue (requests_request trivial ?_) fun _ => trivial
    exact fun _ => ⟨permitted, _, rfl, confinedJob_manifest⟩
  · intro started
    refine requests_bind ?_ fun _ => requests_finish
    exact requests_ensuring (requests_follow.mono fun _ => Follows.screens) requests_delete

theorem requests_service :
    Requests (Screens parser code)
      ((backend.service turns limits parser).run tenantId code) := by
  obtain ⟨fault, -, refused⟩ | ⟨_, configured, permitted, ran⟩ :=
    (backend.service turns limits parser).run_cases tenantId code
  · rw [refused]
    trivial
  · obtain rfl := Option.some.inj configured
    rw [ran]
    exact requests_bind (requests_run permitted) fun _ => requests_finish

/-- A run of the service leaves its Job settled. -/
theorem ensures_service :
    Ensures backend.jobMonitor ((backend.service turns limits parser).run tenantId code) {}
      fun outcome last => Settled (∃ output, outcome = .ok output) last := by
  obtain ⟨fault, -, refused⟩ | ⟨_, configured, -, ran⟩ :=
    (backend.service turns limits parser).run_cases tenantId code
  · rw [refused]
    exact .never rfl (by simp)
  · obtain rfl := Option.some.inj configured
    rw [ran]
    apply ensures_bind.mpr
    apply ensures_run.mono
    intro outcome last settled
    cases outcome with
    | error fault => exact settled
    | ok output =>
        cases settled with
        | never isAbsent failed => exact absurd ⟨output, rfl⟩ failed
        | unconfirmed isDoubtful failed => exact absurd ⟨output, rfl⟩ failed
        | removed isRemoved => exact .removed isRemoved
        | unreachable isLive noToken => exact .unreachable isLive noToken

end Service

end KubernetesSandboxBackend

end ResearchPlatform
