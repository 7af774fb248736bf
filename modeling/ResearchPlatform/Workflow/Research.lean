import ResearchPlatform.Agents.Flow
import ResearchPlatform.Workflow.Activities

/-!
# The research activity

`ResearchActivities`: an agent step against the budget of its job, and the research of
one task, whose records are the platform's own.
-/

namespace ResearchPlatform

open Foundation Program

/-- `ResearchActivities`, with what it uses of Python and the contract that a
researcher is held to. -/
structure ResearchActivities where
  registry : CapabilityRegistry
  python : PythonText
  claims : Contract EvidenceClaims
  pricing : TokenPricing := {}

namespace ResearchActivities

variable (activities : ResearchActivities)

/-- What a step that took this long has spent. -/
def amounts (stats : AgentCallStats) (elapsed : ℚ) : AgentCallAmounts where
  promptTokens := stats.promptTokens
  completionTokens := stats.completionTokens
  costUsd := activities.pricing.costOf stats.promptTokens stats.completionTokens
  activeSeconds := elapsed
  corrections := stats.corrections

/-- `_ask`: what a step spent is recorded whether or not it succeeded.  With the
contract comes the ledger of the task. -/
def ask {α : Type} (job : ResearchJob) (flow : AgentContractFlow α) :
    AgentStep (α × EvidenceLedger) := do
  AgentCall.make (.ensureWithin job.id job.budget)
  let started ← AgentCall.make .monotonic
  let ended ← flow.kickoff
  let finished ← AgentCall.make .monotonic
  let _ ← AgentCall.make
    (.recordAgentCall job.id (activities.amounts ended.state.stats (finished - started)))
  lift (ended.outcome.map fun value => (value, ended.state.ledger))

/-- The texts, or the fallback when there are none. -/
def listed (texts : List NonEmptyText) (fallback : String) : String :=
  if texts = [] then fallback else ", ".intercalate (texts.map (·.val))

/-- The instructions of `research`. -/
def researchInstructions (task : ResearchTask) : String :=
  "Objective: " ++ task.objective.val ++ "\n" ++
    "Evidence requirements: " ++ listed task.evidenceRequirements "none stated" ++ "\n" ++
    "Source restrictions: " ++ listed task.sourceRestrictions "none" ++ "\n\n" ++
    "Collect evidence with your tools and produce EvidenceClaims. Each claim " ++
    "quotes an excerpt exactly as a tool returned it and gives the " ++
    "tool_invocation_id printed at the top of that tool result. Record any " ++
    "requirement you could not meet instead of guessing at it."

/-- The flow that a researcher's step runs as. -/
def researchFlow (task : ResearchTask) (tools : List CapabilityTool) :
    AgentContractFlow EvidenceClaims where
  tools := tools
  contract := activities.claims
  instructions := researchInstructions task ++ "\n\n" ++ activities.claims.describe
  verify ledger now claimed :=
    match verifyClaims activities.python claimed ledger task.id now with
    | .ok _ => .ok ()
    | .error error => .error error.raised

/-- `research`. -/
def research (job : ResearchJob) (task : ResearchTask) : AgentStep EvidenceSubmission := do
  let principal ← lift ((principalFor job .researcher).mapError .valueError)
  let tools ← lift
    ((buildAgentTools activities.registry principal job.id task.id job.budget).mapError
      .valueError)
  let (claims, ledger) ← activities.ask job (activities.researchFlow task tools)
  let now ← AgentCall.make .utcNow
  lift ((verifyClaims activities.python claims ledger task.id now).mapError fun error =>
    .response error.raised)

end ResearchActivities

/-! ## What the tools of a task noted -/

/-- Every entry of the ledger is of a tool that was offered. -/
def EvidenceLedger.OfTools (tools : List CapabilityTool) (ledger : EvidenceLedger) : Prop :=
  ∀ identifier observed, ledger.get? identifier = some observed →
    ∃ tool ∈ tools, observed.capability = tool.capability

/-- What a tool notes of a result. -/
def CapabilityTool.noted (tool : CapabilityTool) (given : Arguments)
    (result : InvocationResult) : ObservedContent :=
  ⟨result.invocation, tool.capability, tool.arguments given, result.content.text⟩

/-- Every entry stands under the identifier of its own call and is of this kind. -/
def EvidenceLedger.Notes (kind : ObservedContent → Prop) (ledger : EvidenceLedger) : Prop :=
  ∀ identifier observed, ledger.get? identifier = some observed →
    observed.invocation.id = identifier ∧ kind observed

/-- What the tools of a turn returned is of this kind. -/
def AgentTurn.Returned {tools : List CapabilityTool} (kind : ObservedContent → Prop)
    (turn : AgentTurn tools) : Prop :=
  ∀ use ∈ turn.uses, ∀ result, use.answer = .ok (.returned result) →
    kind (use.tool.noted use.given result)

/-- The monitor of agents whose tools return nothing but what is of this kind. -/
def turnMonitor (kind : List CapabilityTool → ObservedContent → Prop) :
    Monitor AgentCall AgentCall.Answer AgentFault Unit where
  observe _ _ := ()
  admits _ event :=
    match event with
    | ⟨.kickoff tools _, .ok turn⟩ => turn.Returned (kind tools)
    | _ => True

section Ledger

variable {kind : ObservedContent → Prop} {ledger : EvidenceLedger}

theorem EvidenceLedger.notes_empty : EvidenceLedger.Notes kind (∅ : EvidenceLedger) := by
  intro identifier observed found
  simp at found

theorem EvidenceLedger.Notes.recordIn (notes : ledger.Notes kind) {tool : CapabilityTool}
    {given : Arguments} {answer : Except GatewayFault ToolAnswer}
    (isKind : ∀ result, answer = .ok (.returned result) → kind (tool.noted given result)) :
    (tool.recordIn given ledger answer).Notes kind := by
  unfold CapabilityTool.recordIn
  split
  · rename_i result
    intro identifier observed found
    unfold EvidenceLedger.record at found
    rw [Dict.get?_set] at found
    split at found
    · rename_i same
      rw [← Option.some.inj found]
      exact ⟨same.symm, isKind result rfl⟩
    · exact notes identifier observed found
  · exact notes

theorem EvidenceLedger.Notes.turn {tools : List CapabilityTool} (notes : ledger.Notes kind)
    {turn : AgentTurn tools} (returned : turn.Returned kind) :
    (turn.recordIn ledger).Notes kind := by
  unfold AgentTurn.recordIn
  unfold AgentTurn.Returned at returned
  generalize turn.uses = uses at returned
  induction uses generalizing ledger with
  | nil => exact notes
  | cons use rest inductionHypothesis =>
      refine inductionHypothesis ?_ ?_
      · exact notes.recordIn (returned use List.mem_cons_self)
      · exact fun other member => returned other (List.mem_cons_of_mem _ member)

end Ledger

/-! ## What a flow and a step return -/

section Flows

variable {α : Type} {flow : AgentContractFlow α} {state : ContractState}
  {correct : ContractState → String → AgentStep (FlowEnd α)} {message : String}
  {kind : List CapabilityTool → ObservedContent → Prop}

/-- An attempt notes what the flow's own tools returned. -/
theorem AgentContractFlow.promises_attempt
    (corrects : ∀ state message, state.ledger.Notes (kind flow.tools) →
      Promises (turnMonitor kind) (correct state message) () fun ended =>
        ended.state.ledger.Notes (kind flow.tools))
    (notes : state.ledger.Notes (kind flow.tools)) :
    Promises (turnMonitor kind) (flow.attempt correct state message) () fun ended =>
      ended.state.ledger.Notes (kind flow.tools) := by
  intro turn admitted
  cases turn with
  | error fault =>
      intro ended same
      rw [← Except.ok.inj same]
      exact notes
  | ok turn =>
      have noted : (flow.answered state turn).ledger.Notes (kind flow.tools) :=
        notes.turn admitted
      intro now _
      cases now with
      | error fault =>
          intro ended same
          rw [← Except.ok.inj same]
          exact noted
      | ok now =>
          change Promises (turnMonitor kind) (flow.conclude correct (flow.answered state turn)
            (flow.judge (flow.answered state turn) now)) () _
          cases flow.judge (flow.answered state turn) now with
          | error error =>
              intro ended same
              rw [← Except.ok.inj same]
              exact noted
          | ok judgement =>
              cases judgement with
              | accepted value =>
                  intro ended same
                  rw [← Except.ok.inj same]
                  exact noted
              | exhausted failure =>
                  intro ended same
                  rw [← Except.ok.inj same]
                  exact noted
              | rejected failure => exact corrects _ _ noted

theorem AgentContractFlow.promises_kickoff :
    Promises (turnMonitor kind) flow.kickoff () fun ended =>
      ended.state.ledger.Notes (kind flow.tools) := by
  have each (left : Nat) : ∀ state message, state.ledger.Notes (kind flow.tools) →
      Promises (turnMonitor kind) (flow.attempts left state message) () fun ended =>
        ended.state.ledger.Notes (kind flow.tools) := by
    induction left with
    | zero =>
        intro state message
        apply promises_attempt
        intro state message noted ended same
        rw [← Except.ok.inj same]
        exact noted
    | succ left inductionHypothesis =>
        exact fun state message => promises_attempt inductionHypothesis
  exact each _ _ _ EvidenceLedger.notes_empty

namespace ResearchActivities

variable {activities : ResearchActivities} {job : ResearchJob} {task : ResearchTask}

theorem promises_ask :
    Promises (turnMonitor kind) (activities.ask job flow) () fun answer =>
      answer.2.Notes (kind flow.tools) := by
  apply promises_bind_of_forall
  intro _ _
  apply promises_bind_of_forall
  intro started _
  apply promises_bind AgentContractFlow.promises_kickoff
  intro ended notes _
  apply promises_bind_of_forall
  intro finished _
  apply promises_bind_of_forall
  intro recorded _ answer ends
  obtain ⟨value, -, rfl⟩ := map_eq_ok.mp ends
  exact notes

/-- What a researcher's claims were verified against. -/
theorem promises_research :
    Promises (turnMonitor kind) (activities.research job task) () fun submission =>
      ∃ principal tools claims ledger now,
        principalFor job .researcher = .ok principal ∧
          buildAgentTools activities.registry principal job.id task.id job.budget =
            .ok tools ∧
          EvidenceLedger.Notes (kind tools) ledger ∧
          verifyClaims activities.python claims ledger task.id now = .ok submission := by
  apply promises_bind (promises_lift.mpr fun _ same => same)
  intro principal made _
  apply promises_bind (promises_lift.mpr fun _ same => same)
  intro tools built _
  apply promises_bind promises_ask
  intro answer notes _
  apply promises_bind_of_forall
  intro now _ submission verified
  exact ⟨principal, tools, answer.1, answer.2, now, mapError_eq_ok.mp made,
    mapError_eq_ok.mp built, notes, mapError_eq_ok.mp verified⟩

/-- What a researcher submitted was verified against what the tools of the task
returned. -/
structure Verified (activities : ResearchActivities) (job : ResearchJob)
    (task : ResearchTask) (submission : EvidenceSubmission) : Prop where
  traced : ∃ principal tools claims ledger now,
    principalFor job .researcher = .ok principal ∧
      buildAgentTools activities.registry principal job.id task.id job.budget = .ok tools ∧
      EvidenceLedger.OfTools tools ledger ∧
      verifyClaims activities.python claims ledger task.id now = .ok submission

theorem returns_research :
    Returns (activities.research job task) (activities.Verified job task) := by
  let ofTool (tools : List CapabilityTool) (observed : ObservedContent) : Prop :=
    ∃ tool ∈ tools, observed.capability = tool.capability
  have admitted : ∀ state event, (turnMonitor ofTool).admits state event := by
    rintro _ ⟨call, answer⟩
    cases call with
    | kickoff tools message =>
        cases answer with
        | error fault => trivial
        | ok turn => exact fun use _ _ _ => ⟨use.tool, use.offered, rfl⟩
    | _ => trivial
  apply (returns_of_promises admitted promises_research).mono
  rintro submission ⟨principal, tools, claims, ledger, now, made, built, notes, verified⟩
  exact ⟨principal, tools, claims, ledger, now, made, built,
    fun identifier observed found => (notes identifier observed found).2, verified⟩

end ResearchActivities

end Flows

section Example

def sumQuestion : NonEmptyText := ⟨"what is the sum?", by decide⟩

def sumTask : ResearchTask where
  id := 2
  jobId := 1
  tenantId := "acme"
  objective := ⟨"add", by decide⟩
  assignedAgent := .researcher
  createdAt := ⟨0, true⟩

end Example

end ResearchPlatform
