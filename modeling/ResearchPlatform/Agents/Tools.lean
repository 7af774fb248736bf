import ResearchPlatform.Agents.Provenance
import ResearchPlatform.Mcp.Gateway

/-!
# The tools of an agent

`buildAgentTools` gives an agent one tool for each capability it may execute, and
a tool reaches its capability through the gateway only.
-/

namespace ResearchPlatform

open Foundation

/-- `CapabilityTool`. -/
structure CapabilityTool where
  capability : Capability
  principal : Principal
  jobId : UUID
  taskId : UUID
  budget : ResearchBudget

/-- `build_agent_tools`. -/
def buildAgentTools (registry : CapabilityRegistry) (principal : Principal)
    (jobId taskId : UUID) (budget : ResearchBudget) :
    Except ValueError (List CapabilityTool) :=
  if principal.agentRole = none then
    .error ⟨"only an agent principal has a restricted tool set"⟩
  else
    .ok (((registry.discover principal).filter (·.isExecutableBy principal)).map
      fun capability => ⟨capability, principal, jobId, taskId, budget⟩)

/-- Every tool is built for the principal, the job and the task it was asked for,
on a capability within the principal's clearance. -/
theorem mem_buildAgentTools {registry : CapabilityRegistry} {principal : Principal}
    {jobId taskId : UUID} {budget : ResearchBudget} {tools : List CapabilityTool}
    {tool : CapabilityTool}
    (built : buildAgentTools registry principal jobId taskId budget = .ok tools)
    (member : tool ∈ tools) :
    tool.principal = principal ∧ tool.jobId = jobId ∧ tool.taskId = taskId ∧
      tool.capability.maxAccessClass ≤ principal.clearance := by
  unfold buildAgentTools at built
  split at built
  · cases built
  · cases built
    obtain ⟨capability, offered, rfl⟩ := List.mem_map.mp member
    have executable := (List.mem_filter.mp offered).2
    have visible := Capability.isVisibleTo_of_isExecutableBy executable
    exact ⟨rfl, rfl, rfl, Capability.le_clearance_of_isVisibleTo visible⟩

/-- What a call of a tool comes to, unless it raises. -/
inductive ToolAnswer where
  | refused (text : String)
  | returned (result : InvocationResult)
  deriving DecidableEq

/-- The text the agent is given.  The notice that flagged content ends with is
left out, as the flags are. -/
def ToolAnswer.text : ToolAnswer → String
  | refused text => text
  | returned result =>
      "[tool_invocation_id: " ++ result.invocation.id.str ++ "]\n" ++ result.content.text

namespace CapabilityTool

/-- The arguments of a call: those that a generic tool was given under
`arguments`, or else the named ones; the job is the platform's to supply. -/
def arguments (tool : CapabilityTool) (given : Arguments) : Arguments :=
  let own :=
    match given.entries with
    | [("arguments", .object members)] =>
        members.foldl (fun dict member => dict.set member.1 member.2) ∅
    | _ => given
  if tool.capability.key = ("evidence", "retrieve") then
    own.set "job_id" (.text tool.jobId.str)
  else
    own

/-- The call that `_run` makes. -/
def request (tool : CapabilityTool)
    (approvalProvider : Capability → Arguments → Option ApprovalRequest)
    (given : Arguments) : InvokeRequest where
  principal := tool.principal
  jobId := tool.jobId
  taskId := tool.taskId
  server := tool.capability.server.val
  capabilityName := tool.capability.name.val
  arguments := tool.arguments given
  budget := tool.budget
  approval := approvalProvider tool.capability (tool.arguments given)

/-- What `_run` makes of the end of the invocation: a denial and a failure are
told to the agent, and any other exception is raised. -/
def answerOf :
    Except GatewayFault InvocationResult → Except GatewayFault ToolAnswer
  | .ok result => .ok (.returned result)
  | .error (.denied reason _) => .ok (.refused ("denied: " ++ reason))
  | .error (.failed reason _) => .ok (.refused ("failed: " ++ reason))
  | .error fault => .error fault

/-- The ledger after a call: `_run` records every result that was returned. -/
def recordIn (tool : CapabilityTool) (given : Arguments) (ledger : EvidenceLedger) :
    Except GatewayFault ToolAnswer → EvidenceLedger
  | .ok (.returned result) =>
      ledger.record result.invocation tool.capability (tool.arguments given)
        result.content.text
  | _ => ledger

theorem job_of_retrieve {tool : CapabilityTool} {given : Arguments}
    (retrieves : tool.capability.key = ("evidence", "retrieve")) :
    (tool.arguments given).get? "job_id" = some (.text tool.jobId.str) := by
  simp [arguments, retrieves]

end CapabilityTool

end ResearchPlatform
