import ResearchPlatform.Agents.Flow

/-!
# The two correction loops

`BoundedSchemaCorrection` asks in a loop.  `AgentContractFlow` is a graph of stages, and a
stage runs when something that it listens to has happened.
-/

namespace ResearchPlatform

open Foundation Program

/-- What a `ValueError` is described by; other exceptions are not caught. -/
def ResponseError.failure? : ResponseError → Option String
  | invalid error => some error.message
  | value message => some message
  | other _ => none

/-! ## The loop -/

/-- The calls of `resolve`.  What `verify` raises is caught, so it is an answer. -/
inductive CorrectionCall (α : Type) where
  | produce (correction : Option String)
  | verify (parsed : α)

abbrev CorrectionCall.Answer {α : Type} : CorrectionCall α → Type
  | produce _ => String
  | verify _ => Except ResponseError Unit

abbrev Correcting (α β : Type) : Type :=
  Program (CorrectionCall α) CorrectionCall.Answer AgentFault β

/-- `BoundedSchemaCorrection`. -/
structure BoundedSchemaCorrection where
  maxAttempts : Nat := 3
  oneAllowed : 1 ≤ maxAttempts := by decide

/-- How `resolve` ends, and its `failures` then. -/
structure Resolution (α : Type) where
  outcome : Except AgentFault α
  failures : List String

namespace BoundedSchemaCorrection

variable {α : Type} (correction : BoundedSchemaCorrection) (contract : Contract α)

/-- The body of the `try`. -/
def check (raw : String) : Correcting α (Except ResponseError α) :=
  match contract.parseAgentOutput raw with
  | .error error => finish (.ok (.error error))
  | .ok parsed =>
      (perform (CorrectionCall.verify parsed)).bind fun verified =>
        finish (.ok (verified.map fun _ => parsed))

/-- The attempts that are left, after these failures. -/
def attempts : Nat → Option String → List String → Correcting α (Resolution α)
  | 0, _, failures =>
      finish (.ok ⟨.error (.correctionExhausted contract.name correction.maxAttempts failures),
        failures⟩)
  | left + 1, last, failures =>
      (perform (CorrectionCall.produce last)).bind fun raw =>
        (check contract raw).bind fun
          | .ok parsed => finish (.ok ⟨.ok parsed, failures⟩)
          | .error error =>
              match error.failure? with
              | some failure => attempts left (some failure) (failures ++ [failure])
              | none => finish (.ok ⟨.error (.response error), failures⟩)

/-- `resolve`. -/
def resolve : Correcting α (Resolution α) :=
  correction.attempts contract correction.maxAttempts none []

end BoundedSchemaCorrection

/-! ## The graph -/

/-- The methods of `AgentContractFlow`. -/
inductive FlowStage where
  | request
  | judge
  | correct

/-- What stages listen to: the start, the end of a stage, and the label that a router
returned. -/
inductive FlowEvent where
  | started
  | ended (stage : FlowStage)
  | label (text : String)

/-- `@start()`, `@router(or_(request, "correct"))` and `@listen(REJECTED)`. -/
def FlowEvent.listeners : FlowEvent → List FlowStage
  | started => [.request]
  | ended .request => [.judge]
  | ended .correct => [.judge]
  | ended .judge => []
  | label text => if text = "rejected" then [.correct] else []

/-- The state of the flow, and `_accepted`. -/
structure FlowGraph (α : Type) where
  state : ContractState := {}
  accepted : Option α := none

namespace AgentContractFlow

variable {α : Type} (flow : AgentContractFlow α)

/-- `accepted`: the contract, or the exception that there is none. -/
def readAccepted (graph : FlowGraph α) : FlowEnd α :=
  match graph.accepted with
  | some value => ⟨.ok value, graph.state⟩
  | none => flow.exhausted graph.state

/-- `_ask`, and what follows it. -/
def askThen (message : String) (graph : FlowGraph α)
    (next : FlowGraph α → AgentStep (FlowEnd α)) : AgentStep (FlowEnd α) :=
  request (.kickoff flow.tools message) fun
    | .error fault =>
        finish (.ok ⟨.error fault, { graph.state with attempts := graph.state.attempts + 1 }⟩)
    | .ok turn => next { graph with state := flow.answered graph.state turn }

/-- The state after a response was refused. -/
def failedWith (graph : FlowGraph α) (failure : String) : FlowGraph α :=
  { graph with state :=
      { graph.state with failures := graph.state.failures ++ [failure] } }

/-- A stage runs, and what follows what has happened. -/
def runStage (graph : FlowGraph α)
    (next : FlowGraph α → List FlowEvent → AgentStep (FlowEnd α)) :
    FlowStage → AgentStep (FlowEnd α)
  | .request =>
      flow.askThen flow.instructions graph fun graph => next graph [.ended .request]
  | .correct =>
      flow.askThen (flow.correction (graph.state.failures.getLast?.getD "")) graph
        fun graph => next graph [.ended .correct]
  | .judge =>
      request .utcNow fun
        | .error fault => finish (.ok ⟨.error fault, graph.state⟩)
        | .ok now =>
            match flow.judge graph.state now with
            | .error error => finish (.ok ⟨.error (.response error), graph.state⟩)
            | .ok (.accepted value) =>
                next { graph with accepted := some value } [.ended .judge, .label "accepted"]
            | .ok (.rejected failure) =>
                next (failedWith graph failure) [.ended .judge, .label "rejected"]
            | .ok (.exhausted failure) =>
                next (failedWith graph failure) [.ended .judge, .label "exhausted"]

/-- Run the stages that wait, and then those that listen to what has happened, for as many
stages as the first argument says. -/
def drive : Nat → List FlowStage → FlowGraph α → AgentStep (FlowEnd α)
  | _, [], graph => finish (.ok (flow.readAccepted graph))
  | 0, _ :: _, graph => finish (.ok (flow.readAccepted graph))
  | more + 1, stage :: waiting, graph =>
      flow.runStage graph (fun graph events =>
        drive more (waiting ++ events.flatMap FlowEvent.listeners) graph) stage

/-- The flow as a graph: what listens to its start runs first. -/
def runGraph (stages : Nat) : AgentStep (FlowEnd α) :=
  flow.drive stages FlowEvent.started.listeners {}

end AgentContractFlow

/-! ## The graph is the recursion -/

namespace AgentContractFlow

variable {α : Type} {flow : AgentContractFlow α}

/-- A stage that asks: its message, and that `judge` listens to its end. -/
structure Asks (flow : AgentContractFlow α) (stage : FlowStage) (graph : FlowGraph α)
    (message : String) : Prop where
  asks : ∀ next, flow.runStage graph next stage =
    flow.askThen message graph fun graph => next graph [.ended stage]
  judged : (FlowEvent.ended stage).listeners = [.judge]

theorem asks_request {graph : FlowGraph α} : flow.Asks .request graph flow.instructions :=
  ⟨fun _ => rfl, rfl⟩

theorem asks_correct {graph : FlowGraph α} {failure : String} :
    flow.Asks .correct (failedWith graph failure) (flow.correction failure) := by
  refine ⟨?_, rfl⟩
  intro next
  unfold runStage failedWith
  simp

/-- A response that is rejected leaves attempts. -/
theorem attempts_of_rejected {state : ContractState} {now : Nat → Timestamp}
    {failure : String} (judged : flow.judge state now = .ok (.rejected failure)) :
    state.attempts < flow.maxAttempts := by
  have refused {message : String}
      (same : Except.ok (flow.refuse state message) =
        (.ok (.rejected failure) : Except ResponseError (Judged α))) :
      state.attempts < flow.maxAttempts := by
    unfold refuse at same
    split at same
    · cases same
    · omega
  unfold judge at judged
  split at judged
  · cases judged
  · exact refused judged
  · exact refused judged
  · cases judged

/-- A stage that asks and `judge` are one attempt, when what follows a rejection is what
corrects it. -/
theorem drive_eq_attempt {correct : ContractState → String → AgentStep (FlowEnd α)}
    {more : Nat} {stage : FlowStage} {graph : FlowGraph α} {message : String}
    (asks : flow.Asks stage graph message) (unaccepted : graph.accepted = none)
    (corrects : ∀ state failure, state.attempts = graph.state.attempts + 1 →
      state.attempts < flow.maxAttempts →
        flow.drive more [.correct] (failedWith ⟨state, none⟩ failure) =
          correct { state with failures := state.failures ++ [failure] }
            (flow.correction failure)) :
    flow.drive (more + 1 + 1) [stage] graph = flow.attempt correct graph.state message := by
  obtain ⟨state, accepted⟩ := graph
  obtain rfl : accepted = none := unaccepted
  rw [drive, asks.asks, attempt, askThen]
  congr 1
  funext answer
  cases answer with
  | error fault => rfl
  | ok turn =>
      dsimp only
      rw [List.nil_append, List.flatMap_singleton, asks.judged, drive, runStage]
      congr 1
      funext reading
      cases reading with
      | error fault => rfl
      | ok now =>
          dsimp only
          cases judged : flow.judge (flow.answered state turn) now with
          | error error => rfl
          | ok judgement =>
              cases judgement with
              | accepted value => cases more <;> rfl
              | exhausted failure => cases more <;> rfl
              | rejected failure =>
                  exact corrects _ failure rfl (attempts_of_rejected judged)

/-- The graph makes the attempts that are left.  The induction is on these. -/
theorem drive_eq_attempts {left stages : Nat} {stage : FlowStage} {graph : FlowGraph α}
    {message : String} (asks : flow.Asks stage graph message)
    (unaccepted : graph.accepted = none)
    (counted : graph.state.attempts + left + 1 = flow.maxAttempts)
    (enough : 2 * left + 2 ≤ stages) :
    flow.drive stages [stage] graph = flow.attempts left graph.state message := by
  induction left generalizing stages stage graph message with
  | zero =>
      obtain ⟨more, rfl⟩ : ∃ more, stages = more + 1 + 1 := ⟨stages - 2, by omega⟩
      apply drive_eq_attempt asks unaccepted
      intro state failure counts leaves
      omega
  | succ left inductionHypothesis =>
      obtain ⟨more, rfl⟩ : ∃ more, stages = more + 1 + 1 := ⟨stages - 2, by omega⟩
      apply drive_eq_attempt asks unaccepted
      intro state failure counts leaves
      apply inductionHypothesis asks_correct rfl
      · change state.attempts + left + 1 = flow.maxAttempts
        omega
      · omega

/-- With two stages for each attempt, the graph runs as `kickoff` does. -/
theorem runGraph_eq_kickoff {stages : Nat} (enough : 2 * flow.maxAttempts ≤ stages) :
    flow.runGraph stages = flow.kickoff := by
  have one := flow.oneAllowed
  apply drive_eq_attempts asks_request rfl
  · change 0 + (flow.maxAttempts - 1) + 1 = flow.maxAttempts
    omega
  · omega

end AgentContractFlow

end ResearchPlatform
