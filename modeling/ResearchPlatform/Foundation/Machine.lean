import Mathlib.Data.List.Basic
import Mathlib.Tactic.Common

/-!
# Machines

A machine is a state and a function that takes a step.  What one step keeps
under a condition, every run keeps whose steps meet the condition.
-/

namespace ResearchPlatform.Foundation

variable {State Step : Type} (step : State → Step → State)

/-- The state after the steps, taken in order. -/
def runFrom (state : State) (steps : List Step) : State :=
  steps.foldl step state

/-- Each step meets the condition in the state it is taken from. -/
def StepsMeet (condition : State → Step → Prop) : State → List Step → Prop
  | _, [] => True
  | state, first :: rest =>
      condition state first ∧ StepsMeet condition (step state first) rest

variable {step} {condition : State → Step → Prop}

/-- The invariant rule. -/
theorem invariant_runFrom {invariant : State → Prop}
    (kept : ∀ state next, invariant state → condition state next →
      invariant (step state next))
    {state : State} {steps : List Step} (start : invariant state)
    (meets : StepsMeet step condition state steps) :
    invariant (runFrom step state steps) := by
  induction steps generalizing state with
  | nil => exact start
  | cons next rest inductionHypothesis =>
      obtain ⟨first, others⟩ := meets
      exact inductionHypothesis (kept state next start first) others

end ResearchPlatform.Foundation
