import ResearchPlatform.Mcp.SandboxBackends

/-!
# Inside the pod

The script that a calculation's pod runs ahead of the submitted code: `ENTRYPOINT` of the
Kubernetes backend, as a program over the pod's environment, its network and its clock.
-/

namespace ResearchPlatform

open Foundation Program

/-- What the script raises.  `systemExit` is `sys.exit`, and `starved` is none of Python's: the
loop of the model ran out of its turns. -/
inductive PodFault where
  | osError (message : String)
  | systemExit (message : String)
  | raised (message : String)
  | starved
  deriving DecidableEq

/-- The calls of the script.  `setrlimit` limits the CPU time and `execute` runs the submitted
code. -/
inductive PodCall where
  | environ (name : String)
  | pop (name : String)
  | connect (host : String) (port : Int)
  | monotonic
  | sleep (seconds : Rat)
  | setrlimit (seconds : Int)
  | execute (code : String)
  deriving DecidableEq

abbrev PodCall.Answer : PodCall → Type
  | environ _ => String
  | pop _ => String
  | connect .. => Unit
  | monotonic => Rat
  | sleep _ => Unit
  | setrlimit _ => Unit
  | execute _ => Unit

abbrev InPod (α : Type) : Type := Program PodCall PodCall.Answer PodFault α

abbrev PodEvent : Type := Event PodCall PodCall.Answer PodFault

/-- What the script uses of Python: `int(text)` and `float(text)`, which are `none` where they
raise `ValueError`. -/
structure PodPython where
  int : String → Option Int
  float : String → Option Rat

/-- What was read, or the `ValueError`. -/
def orValueError {α : Type} : Option α → Except PodFault α
  | some value => .ok value
  | none => .error (.raised "invalid literal")

namespace PodPython

variable (python : PodPython)

/-- One turn of the loop, with the refusals so far. -/
def probe (host : String) (port : Int) (giveUp : Rat) (blocked : Nat) : InPod (Nat ⊕ Unit) :=
  if blocked < 2 then do
    let answer ← (perform (PodCall.connect host port)).attempt
    match answer with
    | .error (.osError _) => return .inl (blocked + 1)
    | .error fault => raise fault
    | .ok _ => do
        let now ← perform PodCall.monotonic
        if giveUp ≤ now then
          raise (.systemExit KubernetesSandboxBackend.notIsolated)
        else
          let _ ← perform (PodCall.sleep (1 / 4))
          return .inl 0
  else
    return .inr ()

/-- Limit the CPU time and run the submitted code. -/
def calculate : InPod Unit := do
  let limit ← perform (PodCall.pop "CALCULATION_CPU_SECONDS")
  let limit ← lift (orValueError (python.int limit))
  let _ ← perform (PodCall.setrlimit limit)
  let code ← perform (PodCall.pop "CALCULATION")
  perform (PodCall.execute code)

/-- The script, with at most so many turns of its loop. -/
def script (turns : Nat) : InPod Unit := do
  let host ← perform (PodCall.environ "KUBERNETES_SERVICE_HOST")
  let port ← perform (PodCall.environ "KUBERNETES_SERVICE_PORT")
  let port ← lift (orValueError (python.int port))
  let now ← perform PodCall.monotonic
  let seconds ← perform (PodCall.pop "CALCULATION_ISOLATION_SECONDS")
  let seconds ← lift (orValueError (python.float seconds))
  loop (probe host port (now + seconds)) .starved turns 0
  python.calculate

end PodPython

end ResearchPlatform
