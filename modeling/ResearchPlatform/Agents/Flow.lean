import Mathlib.Data.Rat.Floor
import ResearchPlatform.Agents.Tools
import ResearchPlatform.Mcp.Breaker

/-!
# One agent step

`AgentContractFlow`: ask an agent for its contract, judge the response, and have it
corrected a bounded number of times.  What agents and tools answer is open.
-/

namespace ResearchPlatform

open Foundation Program

/-! ## Responses -/

/-- What parsing or verifying a response raises: a pydantic error, another
`ValueError`, or an exception of another kind. -/
inductive ResponseError where
  | invalid (error : ValidationError)
  | value (message : String)
  | other (message : String)
  deriving DecidableEq

/-- `UnverifiableEvidence` is a `ValueError`, a `TypeError` is not. -/
def ProvenanceError.raised : ProvenanceError → ResponseError
  | unverifiable message => .value message
  | invalid error => .invalid error
  | typeError message => .other message

/-- A contract: its name, its JSON schema, `json.loads` with the message of its
`JSONDecodeError`, and `model_validate`. -/
structure Contract (α : Type) where
  name : String
  schema : String
  loads : String → Except String Json
  modelValidate : Json → Except ValidationError α

namespace Contract

variable {α : Type} (contract : Contract α)

/-- `describe_contract`. -/
def describe : String :=
  "Respond with a single JSON object for a " ++ contract.name ++ ", and nothing else: " ++
    "no prose and no code fence. Use exactly the field names in this JSON Schema, and " ++
    "return an instance of it, not the schema itself.\n" ++ contract.schema

/-- `parse_agent_output`. -/
def parseAgentOutput (raw : String) : Except ResponseError α :=
  let text := strip raw
  if text = "" then .error (.value "the agent returned an empty response")
  else
    match contract.loads text with
    | .error message =>
        .error (.value ("the agent response is not valid JSON: " ++ message))
    | .ok document => (contract.modelValidate document).mapError .invalid

end Contract

/-! ## Usage -/

/-- The figures of `usage_metrics` that are numbers. -/
structure UsageMetrics where
  promptTokens : Option ℚ := none
  completionTokens : Option ℚ := none
  deriving DecidableEq

/-- `_count`. -/
def countTokens (figure : Option ℚ) : Nat := ⌊figure.getD 0⌋₊

/-- `AgentCallStats`. -/
structure AgentCallStats where
  attempts : Nat := 0
  promptTokens : Nat := 0
  completionTokens : Nat := 0
  deriving DecidableEq

namespace AgentCallStats

/-- `observe`. -/
def observe (stats : AgentCallStats) (usage : Option UsageMetrics) : AgentCallStats :=
  let metrics := usage.getD {}
  { attempts := stats.attempts + 1
    promptTokens := stats.promptTokens + countTokens metrics.promptTokens
    completionTokens := stats.completionTokens + countTokens metrics.completionTokens }

/-- `corrections`. -/
def corrections (stats : AgentCallStats) : Nat := stats.attempts - 1

end AgentCallStats

theorem noPricing_nonnegative : (0 : ℚ) ≤ 0 ∧ (0 : ℚ) ≤ 0 := by decide

/-- `TokenPricing`. -/
structure TokenPricing where
  inputPerMillionUsd : ℚ := 0
  outputPerMillionUsd : ℚ := 0
  nonnegative : 0 ≤ inputPerMillionUsd ∧ 0 ≤ outputPerMillionUsd := by
    first | exact noPricing_nonnegative | decide

/-- `cost_of`. -/
def TokenPricing.costOf (pricing : TokenPricing) (promptTokens completionTokens : Nat) : ℚ :=
  (promptTokens * pricing.inputPerMillionUsd +
    completionTokens * pricing.outputPerMillionUsd) / 1000000

/-! ## Turns of an agent -/

/-- A call that an agent makes of one of its tools. -/
structure ToolUse (tools : List CapabilityTool) where
  tool : CapabilityTool
  offered : tool ∈ tools
  given : Arguments
  answer : Except GatewayFault ToolAnswer

/-- What one `kickoff` comes to: the calls of tools, in order, the reported usage and
the response. -/
structure AgentTurn (tools : List CapabilityTool) where
  uses : List (ToolUse tools) := []
  usage : Option UsageMetrics := none
  raw : String

/-- The ledger of the task after a turn. -/
def AgentTurn.recordIn {tools : List CapabilityTool} (turn : AgentTurn tools)
    (ledger : EvidenceLedger) : EvidenceLedger :=
  turn.uses.foldl (fun ledger use => use.tool.recordIn use.given ledger use.answer) ledger

/-- The calls of an agent step.  `utcNow` stands for the readings that are made while
one response is verified. -/
inductive AgentCall where
  | ensureWithin (jobId : UUID) (budget : ResearchBudget)
  | monotonic
  | kickoff (tools : List CapabilityTool) (message : String)
  | utcNow
  | recordAgentCall (jobId : UUID) (amounts : AgentCallAmounts)

abbrev AgentCall.Answer : AgentCall → Type
  | ensureWithin .. => Unit
  | monotonic => ℚ
  | kickoff tools _ => AgentTurn tools
  | utcNow => Nat → Timestamp
  | recordAgentCall .. => JobUsage

/-- What an agent step raises.  `raised` is any exception of a collaborator. -/
inductive AgentFault where
  | budgetExhausted (error : BudgetExhausted)
  | correctionExhausted (contract : String) (attempts : Nat) (failures : List String)
  | response (error : ResponseError)
  | valueError (error : ValueError)
  | raised (message : String)
  deriving DecidableEq

abbrev AgentStep (α : Type) : Type := Program AgentCall AgentCall.Answer AgentFault α

/-- Make one call and return its answer. -/
def AgentCall.make (call : AgentCall) : AgentStep call.Answer := perform call

/-! ## The flow -/

/-- `ContractState`, with what the flow counts and what the tools of the task noted. -/
structure ContractState where
  attempts : Nat := 0
  raw : String := ""
  failures : List String := []
  stats : AgentCallStats := {}
  ledger : EvidenceLedger := ∅

/-- `AgentContractFlow`.  What `verify` does depends on the ledger of the task and on
the clock. -/
structure AgentContractFlow (α : Type) where
  tools : List CapabilityTool
  contract : Contract α
  instructions : String
  maxAttempts : Nat := 3
  verify : EvidenceLedger → (Nat → Timestamp) → α → Except ResponseError Unit :=
    fun _ _ _ => .ok ()
  oneAllowed : 1 ≤ maxAttempts := by decide

/-- How `judge` ends an attempt. -/
inductive Judged (α : Type) where
  | accepted (value : α)
  | rejected (failure : String)
  | exhausted (failure : String)

/-- How the flow ends, and its state then. -/
structure FlowEnd (α : Type) where
  outcome : Except AgentFault α
  state : ContractState

namespace AgentContractFlow

variable {α : Type} (flow : AgentContractFlow α)

/-- The state after a turn of the agent, as `_ask` leaves it. -/
def answered (state : ContractState) (turn : AgentTurn flow.tools) : ContractState where
  attempts := state.attempts + 1
  raw := turn.raw
  failures := state.failures
  stats := state.stats.observe turn.usage
  ledger := turn.recordIn state.ledger

/-- Parse the response and verify it. -/
def check (state : ContractState) (now : Nat → Timestamp) : Except ResponseError α := do
  let parsed ← flow.contract.parseAgentOutput state.raw
  flow.verify state.ledger now parsed
  return parsed

/-- A response that is refused. -/
def refuse (state : ContractState) (failure : String) : Judged α :=
  if state.attempts ≥ flow.maxAttempts then .exhausted failure else .rejected failure

/-- `judge`: only a `ValueError` is a refusal. -/
def judge (state : ContractState) (now : Nat → Timestamp) :
    Except ResponseError (Judged α) :=
  match flow.check state now with
  | .ok parsed => .ok (.accepted parsed)
  | .error (.invalid error) => .ok (flow.refuse state error.message)
  | .error (.value message) => .ok (flow.refuse state message)
  | .error (.other message) => .error (.other message)

/-- The message of `correct`. -/
def correction (failure : String) : String :=
  flow.instructions ++ "\n\nYour previous response was rejected: " ++ failure ++
    "\nRespond again with the corrected JSON only, and nothing else."

/-- The end of a flow that produced no contract. -/
def exhausted (state : ContractState) : FlowEnd α :=
  ⟨.error (.correctionExhausted flow.contract.name state.attempts state.failures), state⟩

/-- What follows a judgement; a rejected response is corrected. -/
def conclude (correct : ContractState → String → AgentStep (FlowEnd α))
    (state : ContractState) :
    Except ResponseError (Judged α) → AgentStep (FlowEnd α)
  | .error error => finish (.ok ⟨.error (.response error), state⟩)
  | .ok (.accepted value) => finish (.ok ⟨.ok value, state⟩)
  | .ok (.exhausted failure) =>
      finish (.ok (flow.exhausted { state with failures := state.failures ++ [failure] }))
  | .ok (.rejected failure) =>
      correct { state with failures := state.failures ++ [failure] }
        (flow.correction failure)

/-- `_ask`, then `judge`. -/
def attempt (correct : ContractState → String → AgentStep (FlowEnd α))
    (state : ContractState) (message : String) : AgentStep (FlowEnd α) :=
  request (.kickoff flow.tools message) fun
    | .error fault =>
        finish (.ok ⟨.error fault, { state with attempts := state.attempts + 1 }⟩)
    | .ok turn =>
        request .utcNow fun
          | .error fault => finish (.ok ⟨.error fault, flow.answered state turn⟩)
          | .ok now =>
              flow.conclude correct (flow.answered state turn)
                (flow.judge (flow.answered state turn) now)

/-- One attempt, and as many more as are left. -/
def attempts : Nat → ContractState → String → AgentStep (FlowEnd α)
  | 0 => flow.attempt fun state _ => finish (.ok (flow.exhausted state))
  | left + 1 => flow.attempt (attempts left)

/-- `kickoff_async`, then `accepted`. -/
def kickoff : AgentStep (FlowEnd α) :=
  flow.attempts (flow.maxAttempts - 1) {} flow.instructions

end AgentContractFlow

end ResearchPlatform
