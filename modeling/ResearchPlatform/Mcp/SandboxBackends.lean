import Mathlib.Data.Rat.Defs
import ResearchPlatform.Domain.Identifiers
import ResearchPlatform.Domain.Json
import ResearchPlatform.Foundation.Loops
import ResearchPlatform.Mcp.SandboxBoundary

/-!
# The sandbox backends

`SandboxService.run` over `DockerSandboxBackend` and over `KubernetesSandboxBackend`, as
programs over a container runtime, the Kubernetes API server and the clock.
-/

namespace ResearchPlatform

open Foundation Program

/-! ## The calls -/

inductive HttpMethod where
  | get
  | post
  | delete
  deriving DecidableEq

/-- What a request carries besides its path. -/
inductive RequestOptions where
  | bare
  | json (document : Json)
  | params (name value : String)
  deriving DecidableEq

/-- The calls that running a calculation makes.  `execute` is `subprocess.run`. -/
inductive SandboxCall where
  | uuid
  | execute (command : List String) (input : Option String) (timeout : Option Int)
  | token
  | api (method : HttpMethod) (path authorization : String) (options : RequestOptions)
  | clock
  | sleep (seconds : Rat)
  deriving DecidableEq

/-- A process that ended. -/
structure CompletedProcess where
  returncode : Int
  stdout : String
  stderr : Option String

/-- A response that `raise_for_status` let pass: its text, and its document where the text
is JSON. -/
structure ApiResponse where
  text : String
  document : Option Json

abbrev SandboxCall.Answer : SandboxCall → Type
  | uuid => UUID
  | execute .. => CompletedProcess
  | token => String
  | api .. => ApiResponse
  | clock => Rat
  | sleep _ => Unit

abbrev Sandboxing (α : Type) : Type := Program SandboxCall SandboxCall.Answer SandboxFault α

abbrev SandboxEvent : Type := Event SandboxCall SandboxCall.Answer SandboxFault

/-- `SandboxBackend`: how to run a code within its CPU seconds and its memory. -/
abbrev SandboxBackend : Type := String → Int → Int → Sandboxing String

/-- `MAX_ERROR_CHARACTERS`. -/
def maxErrorCharacters : Nat := 2000

/-- `text.strip()[-MAX_ERROR_CHARACTERS:]`. -/
def errorDetail (text : String) : String :=
  String.ofList ((strip text).toList.drop ((strip text).length - maxErrorCharacters))

/-- `uuid4().hex`. -/
def UUID.hex (identifier : UUID) : String :=
  String.ofList (hexDigits 32 identifier.int.val)

/-- The name that a run gives its container or its Job. -/
def calculationName (id : UUID) : String := "research-calculation-" ++ id.hex

/-! ## Docker -/

structure DockerSandboxBackend where
  image : String := "python:3.12-alpine"
  wallClockSeconds : Int := 30
  docker : String := "docker"

namespace DockerSandboxBackend

variable (backend : DockerSandboxBackend)

/-- `ENTRYPOINT`. -/
def entrypoint : String :=
  "import sys; exec(compile(sys.stdin.read(), '<calculation>', 'exec'), " ++
    "\x7b'__name__': '__main__'\x7d)"

/-- `command`. -/
def command (name : String) (cpuSeconds memoryMib : Int) : List String :=
  [backend.docker, "run", "--rm", "--interactive", "--name", name, "--network", "none",
    "--memory", toString memoryMib ++ "m", "--memory-swap", toString memoryMib ++ "m",
    "--cpus", "1", "--pids-limit", "64",
    "--ulimit", "cpu=" ++ toString cpuSeconds ++ ":" ++ toString cpuSeconds,
    "--read-only", "--tmpfs", "/tmp:rw,noexec,nosuid,size=64m", "--cap-drop", "ALL",
    "--security-opt", "no-new-privileges", "--user", "65534:65534",
    backend.image, "python", "-I", "-c", entrypoint]

/-- The two `except` clauses of `run`. -/
def recover (name : String) : SandboxFault → Sandboxing CompletedProcess
  | .timeoutExpired => do
      let _ ← perform (SandboxCall.execute [backend.docker, "kill", name] none none)
      raise (.calculationFailed ("the calculation exceeded " ++
        toString backend.wallClockSeconds ++ " seconds and was stopped"))
  | .osError message =>
      raise (.calculationFailed ("no container runtime could be started: " ++ message))
  | fault => raise fault

/-- What is made of a container that ended. -/
def judge (completed : CompletedProcess) : Except SandboxFault String :=
  if completed.returncode ≠ 0 then
    .error (.calculationFailed ("the calculation exited with status " ++
      toString completed.returncode ++ ": " ++ errorDetail (completed.stderr.getD "")))
  else
    .ok completed.stdout

/-- `DockerSandboxBackend.run`. -/
def run : SandboxBackend := fun code cpuSeconds memoryMib => do
  let id ← perform .uuid
  let name := calculationName id
  let completed ← (perform (SandboxCall.execute (backend.command name cpuSeconds memoryMib) (some code)
    (some backend.wallClockSeconds))).rescue (backend.recover name)
  lift (judge completed)

end DockerSandboxBackend

/-! ## Kubernetes -/

/-- `KubernetesSandboxBackend`, with `str` of the JSON values that are not text. -/
structure KubernetesSandboxBackend where
  clusterNamespace : String
  image : String := "python:3.12-alpine"
  wallClockSeconds : Int := 30
  runtimeClass : Option String := none
  startupSeconds : Int := 60
  isolationSeconds : Int := 15
  pollSeconds : Rat := 1 / 2
  strOf : Json → String

namespace KubernetesSandboxBackend

variable (backend : KubernetesSandboxBackend)

/-- `NOT_ISOLATED`. -/
def notIsolated : String := "sandbox-not-isolated"

/-- `ENTRYPOINT`. -/
def entrypoint : String :=
  "\nimport os, resource, socket, sys, time\n" ++
  "target = (os.environ['KUBERNETES_SERVICE_HOST'], " ++
    "int(os.environ['KUBERNETES_SERVICE_PORT']))\n" ++
  "give_up = time.monotonic() + float(os.environ.pop('CALCULATION_ISOLATION_SECONDS'))\n" ++
  "blocked = 0\n" ++
  "while blocked < 2:\n" ++
  "    try:\n" ++
  "        socket.create_connection(target, timeout=1).close()\n" ++
  "    except OSError:\n" ++
  "        blocked += 1\n" ++
  "        continue\n" ++
  "    blocked = 0\n" ++
  "    if time.monotonic() >= give_up:\n" ++
  "        sys.exit('" ++ notIsolated ++ "')\n" ++
  "    time.sleep(0.25)\n" ++
  "limit = int(os.environ.pop('CALCULATION_CPU_SECONDS'))\n" ++
  "resource.setrlimit(resource.RLIMIT_CPU, (limit, limit))\n" ++
  "code = os.environ.pop('CALCULATION')\n" ++
  "exec(compile(code, '<calculation>', 'exec'), \x7b'__name__': '__main__'\x7d)\n"

/-- The labels of a Job and of its pod. -/
def labels : Json := .object [("research-platform/sandbox", .text "calculation")]

/-- An environment variable of the container. -/
def environmentVariable (name value : String) : Json :=
  .object [("name", .text name), ("value", .text value)]

/-- The container of a Job. -/
def container (code : String) (cpuSeconds memoryMib : Int) : Json :=
  .object [
    ("name", .text "calculation"),
    ("image", .text backend.image),
    ("command", .array [.text "python", .text "-I", .text "-c", .text entrypoint]),
    ("env", .array [
      environmentVariable "CALCULATION" code,
      environmentVariable "CALCULATION_CPU_SECONDS" (toString cpuSeconds),
      environmentVariable "CALCULATION_ISOLATION_SECONDS" (toString backend.isolationSeconds)]),
    ("resources", .object [
      ("limits", .object [
        ("cpu", .text "1"),
        ("memory", .text (toString memoryMib ++ "Mi")),
        ("ephemeral-storage", .text "64Mi")]),
      ("requests", .object [("cpu", .text "100m"), ("memory", .text "64Mi")])]),
    ("securityContext", .object [
      ("allowPrivilegeEscalation", .bool false),
      ("readOnlyRootFilesystem", .bool true),
      ("capabilities", .object [("drop", .array [.text "ALL"])])]),
    ("volumeMounts", .array [
      .object [("name", .text "scratch"), ("mountPath", .text "/tmp")]])]

/-- The runtime class, where one is named. -/
def runtimeClassName : List (String × Json) :=
  match backend.runtimeClass with
  | some named => if named = "" then [] else [("runtimeClassName", .text named)]
  | none => []

/-- The pod of a Job. -/
def pod (code : String) (cpuSeconds memoryMib : Int) : Json :=
  .object ([
    ("restartPolicy", .text "Never"),
    ("automountServiceAccountToken", .bool false),
    ("enableServiceLinks", .bool false),
    ("securityContext", .object [
      ("runAsNonRoot", .bool true),
      ("runAsUser", .int 65534),
      ("runAsGroup", .int 65534),
      ("seccompProfile", .object [("type", .text "RuntimeDefault")])]),
    ("containers", .array [backend.container code cpuSeconds memoryMib]),
    ("volumes", .array [
      .object [
        ("name", .text "scratch"),
        ("emptyDir", .object [("medium", .text "Memory"), ("sizeLimit", .text "64Mi")])]])]
    ++ backend.runtimeClassName)

/-- `manifest`. -/
def manifest (name code : String) (cpuSeconds memoryMib : Int) : Json :=
  .object [
    ("apiVersion", .text "batch/v1"),
    ("kind", .text "Job"),
    ("metadata", .object [("name", .text name), ("labels", labels)]),
    ("spec", .object [
      ("backoffLimit", .int 0),
      ("activeDeadlineSeconds", .int (backend.wallClockSeconds + backend.isolationSeconds)),
      ("ttlSecondsAfterFinished", .int 300),
      ("template", .object [
        ("metadata", .object [("labels", labels)]),
        ("spec", backend.pod code cpuSeconds memoryMib)])])]

/-- The path of the namespace's Jobs. -/
def jobs : String := "/apis/batch/v1/namespaces/" ++ backend.clusterNamespace ++ "/jobs"

/-- The path of one Job. -/
def job (name : String) : String := backend.jobs ++ "/" ++ name

/-- The path of the namespace's pods. -/
def pods : String := "/api/v1/namespaces/" ++ backend.clusterNamespace ++ "/pods"

/-- `_request`. -/
def request (method : HttpMethod) (path : String) (options : RequestOptions) :
    Sandboxing ApiResponse := do
  let token ← perform .token
  perform (SandboxCall.api method path ("Bearer " ++ token) options)

/-- `response.json()`. -/
def ApiResponse.json (response : ApiResponse) : Except SandboxFault Json :=
  match response.document with
  | some document => .ok document
  | none => .error (.raised "the body is not JSON")

/-- `document.get(name, default)`. -/
def get (name : String) (default : Json) : Json → Except SandboxFault Json
  | .object members => .ok (((members.find? (·.1 = name)).map Prod.snd).getD default)
  | _ => .error (.raised "the document has no attribute 'get'")

/-- The items that a `for` loop takes from a document. -/
def iterate : Json → Except SandboxFault (List Json)
  | .array items => .ok items
  | .object members => .ok (members.map fun entry => .text entry.1)
  | .text value => .ok (value.toList.map fun char => .text (String.singleton char))
  | _ => .error (.raised "the document is not iterable")

/-- The loop over the conditions: whether the Job has finished, and how. -/
def finished : List Json → Except SandboxFault (Option Bool)
  | [] => .ok none
  | condition :: rest => do
      let status ← get "status" .null condition
      if status ≠ .text "True" then
        finished rest
      else
        let type ← get "type" .null condition
        if type = .text "Complete" then
          return some true
        else if type = .text "Failed" then
          let reason ← get "reason" .null condition
          if reason = .text "DeadlineExceeded" then
            throw (.calculationFailed ("the calculation exceeded " ++
              toString backend.wallClockSeconds ++ " seconds and was stopped"))
          else
            return some false
        else
          finished rest

/-- What a response says of its Job. -/
def readStatus (response : ApiResponse) : Except SandboxFault (Option Bool) := do
  let document ← ApiResponse.json response
  let status ← get "status" (.object []) document
  let conditions ← get "conditions" (.array []) status
  let conditions ← iterate conditions
  backend.finished conditions

/-- The time that a Job is given. -/
def allowance : Rat :=
  backend.wallClockSeconds + backend.isolationSeconds + backend.startupSeconds

/-- One turn of the loop of `_wait`. -/
def poll (job : String) (deadline : Rat) : Unit → Sandboxing (Unit ⊕ Bool) := fun _ => do
  let response ← request .get job .bare
  let status ← lift (backend.readStatus response)
  match status with
  | some succeeded => return .inr succeeded
  | none =>
      let now ← perform .clock
      if deadline ≤ now then
        raise (.calculationFailed "the calculation job did not finish in time and was removed")
      else
        let _ ← perform (.sleep backend.pollSeconds)
        return .inl ()

/-- `_wait`, in at most so many turns. -/
def wait (turns : Nat) (job : String) : Sandboxing Bool := do
  let now ← perform .clock
  loop (backend.poll job (now + backend.allowance)) .starved turns ()

/-- `f"{value}"`. -/
def formatted : Json → String
  | .text value => value
  | value => backend.strOf value

/-- The name of the first pod that was listed, or `none` where there are no pods. -/
def firstPod (response : ApiResponse) : Except SandboxFault (Option String) := do
  let found ← ApiResponse.json response
  let items ← get "items" (.array []) found
  match items with
  | .null | .bool false | .int 0 | .float "0.0" | .float "-0.0" | .text "" | .array []
  | .object [] => return none
  | .array (.object pod :: _) =>
      match pod.find? (·.1 = "metadata") with
      | some (_, .object metadata) =>
          match metadata.find? (·.1 = "name") with
          | some (_, name) => return some (backend.formatted name)
          | none => throw (.raised "the pod has no name")
      | _ => throw (.raised "the pod has no metadata")
  | _ => throw (.raised "the items have no first pod")

/-- `_output`. -/
def output (name : String) : Sandboxing String := do
  let response ← request .get backend.pods (.params "labelSelector" ("job-name=" ++ name))
  let pod ← lift (backend.firstPod response)
  match pod with
  | none => return ""
  | some pod => do
      let log ← request .get (backend.pods ++ "/" ++ pod ++ "/log") .bare
      return log.text

/-- `_delete`. -/
def delete (job : String) : Sandboxing Unit :=
  ((request .delete job (.params "propagationPolicy" "Background")).bind fun _ =>
    finish (.ok ())).rescue fun
      | .httpError _ => finish (.ok ())
      | fault => raise fault

/-- `except httpx.HTTPError`, with the text that the failure is given. -/
def translate (text : String) : SandboxFault → SandboxFault
  | .httpError message => .calculationFailed (text ++ message)
  | fault => fault

/-- Creating the Job. -/
def start (name code : String) (cpuSeconds memoryMib : Int) : Sandboxing ApiResponse :=
  (request .post backend.jobs
    (.json (backend.manifest name code cpuSeconds memoryMib))).rescue fun fault =>
      raise (translate "no calculation job could be started: " fault)

/-- Following the Job to its end. -/
def follow (turns : Nat) (name : String) : Sandboxing (Bool × String) :=
  (do
    let succeeded ← backend.wait turns (backend.job name)
    let output ← backend.output name
    return (succeeded, output)).rescue fun fault =>
      raise (translate "the calculation job could not be followed: " fault)

/-- What is made of a Job that ended. -/
def judge (succeeded : Bool) (output : String) : Except SandboxFault String :=
  if !succeeded && notIsolated.toList.isSuffixOf (strip output).toList then
    .error (.calculationFailed ("the calculation was not run: the cluster does not cut " ++
      "calculation pods off from the network. The sandbox NetworkPolicy must exist in this " ++
      "namespace and the network plugin must enforce it."))
  else if !succeeded then
    .error (.calculationFailed
      ("the calculation did not finish successfully: " ++ errorDetail output))
  else
    .ok output

/-- `KubernetesSandboxBackend.run`. -/
def run (turns : Nat) : SandboxBackend := fun code cpuSeconds memoryMib => do
  let id ← perform .uuid
  let name := calculationName id
  let _ ← backend.start name code cpuSeconds memoryMib
  let (succeeded, output) ← (backend.follow turns name).ensuring (delete (backend.job name))
  lift (judge succeeded output)

end KubernetesSandboxBackend

/-! ## The service -/

/-- `SandboxService`. -/
structure SandboxService where
  backend : Option SandboxBackend
  limits : SandboxLimits := .standard
  parser : PythonParser

namespace SandboxService

variable (service : SandboxService)

/-- `len(output.encode("utf-8")) > self.limits.max_output_bytes`. -/
def bounded (output : String) : Except SandboxFault String :=
  if service.limits.maxOutputBytes < output.utf8ByteSize then
    .error (.calculationNotAllowed ("the calculation produced more than " ++
      toString service.limits.maxOutputBytes ++ " bytes"))
  else
    .ok output

/-- `SandboxService.run`. -/
def run (tenantId code : String) : Sandboxing String :=
  if strip tenantId = "" then
    raise (.calculationNotAllowed "a calculation must identify its tenant")
  else do
    let screened ← lift (service.parser.screenCalculation code)
    match service.backend with
    | none =>
        raise (.sandboxUnavailable
          "no isolated runtime is configured, so the calculation was not executed")
    | some backend => do
        let output ← backend screened service.limits.cpuSeconds service.limits.memoryMib
        lift (service.bounded output)

variable {service}

/-- A submission is refused before anything is asked for, or its screened code is run. -/
theorem run_cases (tenantId code : String) :
    (∃ fault ≠ .starved, service.run tenantId code = raise fault) ∨
      ∃ backend, service.backend = some backend ∧ service.parser.Permits code ∧
        service.run tenantId code =
          (backend (strip code) service.limits.cpuSeconds service.limits.memoryMib).bind
            fun output => lift (service.bounded output) := by
  rw [run]
  split
  · exact Or.inl ⟨.calculationNotAllowed _, nofun, rfl⟩
  · change (∃ fault ≠ .starved, (lift (service.parser.screenCalculation code)).bind _ = raise fault) ∨
      ∃ backend, _ ∧ _ ∧ (lift (service.parser.screenCalculation code)).bind _ = _
    cases screened : service.parser.screenCalculation code with
    | error fault =>
        refine Or.inl ⟨fault, ?_, rfl⟩
        rintro rfl
        exact service.parser.screenCalculation_fed screened
    | ok candidate =>
        obtain ⟨permitted, rfl⟩ := PythonParser.screenCalculation_eq_ok.mp screened
        cases configured : service.backend with
        | none => exact Or.inl ⟨.sandboxUnavailable _, nofun, rfl⟩
        | some backend => exact Or.inr ⟨backend, rfl, permitted, rfl⟩

end SandboxService

end ResearchPlatform
