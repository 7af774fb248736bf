import Mathlib.Data.NNRat.Defs
import ResearchPlatform.Domain.Models
import ResearchPlatform.Foundation.Dict
import ResearchPlatform.Foundation.Service

/-!
# Circuit breaking and budget accounting

`mcp/breaker.py`.  Each method runs under a lock, so a breaker and a ledger are
services: one call at a time, from the state that the calls before it left.
-/

namespace ResearchPlatform

open Foundation

/-! ## Circuits -/

inductive CircuitState where
  | closed
  | opened
  | halfOpen
  deriving DecidableEq, Repr

namespace CircuitState

/-- `state.value`. -/
def value : CircuitState → String
  | closed => "closed"
  | opened => "open"
  | halfOpen => "half_open"

/-- `CircuitState(value)`, or `none` where it raises `ValueError`. -/
def ofValue (text : String) : Option CircuitState :=
  [closed, opened, halfOpen].find? (·.value = text)

@[simp]
theorem ofValue_value (state : CircuitState) : ofValue state.value = some state := by
  cases state <;> decide

end CircuitState

/-- `CircuitOpen`. -/
structure CircuitOpen where
  server : String
  openUntil : Timestamp
  deriving DecidableEq

theorem closed_openSince (isOpen : CircuitState.closed = .opened) :
    (none : Option Timestamp).isSome = true := by
  cases isOpen

/-- `_Circuit`.  An open circuit knows since when, which `_refresh` and
`ensure_closed` assert. -/
structure Circuit where
  failures : Nat := 0
  state : CircuitState := .closed
  openedAt : Option Timestamp := none
  openSince : state = .opened → openedAt.isSome = true := by
    first | exact closed_openSince | simp

namespace Circuit

/-- `circuit.opened_at`, after the assertion. -/
def since (circuit : Circuit) (isOpen : circuit.state = .opened) : Timestamp :=
  circuit.openedAt.get (circuit.openSince isOpen)

/-- What `_refresh` makes of a circuit. -/
def refreshed (cooldown : Int) (now : Timestamp) (circuit : Circuit) : Circuit :=
  if isOpen : circuit.state = .opened then
    if now - circuit.since isOpen ≥ cooldown then
      { circuit with state := .halfOpen, openSince := by simp }
    else circuit
  else circuit

end Circuit

structure CircuitBreaker where
  failureThreshold : Nat := 3
  cooldown : Int := 30000000
  thresholdInRange : 1 ≤ failureThreshold := by decide

/-- The readings of the clock in one call: when it looked at each server, and the
last one. -/
structure ClockReadings where
  looked : String → Timestamp
  recorded : Timestamp

/-- A clock that stands still during a call. -/
def ClockReadings.at (now : Timestamp) : ClockReadings :=
  ⟨fun _ => now, now⟩

inductive BreakerCall where
  | stateOf (server : String)
  | states
  | ensureClosed (server : String)
  | recordSuccess (server : String)
  | recordFailure (server : String)
  deriving DecidableEq

/-- What a call returns or raises. -/
inductive BreakerAnswer where
  | state (state : CircuitState)
  | states (states : Dict String CircuitState)
  | done
  | refused (error : CircuitOpen)
  deriving DecidableEq

namespace CircuitBreaker

variable (breaker : CircuitBreaker)

/-- `_refresh`.  A circuit that is not remembered stays so. -/
def refresh (circuits : Dict String Circuit) (server : String) (now : Timestamp) :
    Circuit × Dict String Circuit :=
  match circuits.get? server with
  | some circuit =>
      let looked := circuit.refreshed breaker.cooldown now
      (looked, circuits.set server looked)
  | none => ({}, circuits)

/-- `state_of`. -/
def stateOf (circuits : Dict String Circuit) (server : String)
    (readings : ClockReadings) : CircuitState × Dict String Circuit :=
  let (circuit, circuits) := breaker.refresh circuits server (readings.looked server)
  (circuit.state, circuits)

/-- `states`: each remembered circuit is refreshed in turn. -/
def states (circuits : Dict String Circuit) (readings : ClockReadings) :
    Dict String CircuitState × Dict String Circuit :=
  let looked := circuits.mapValues fun server circuit =>
    circuit.refreshed breaker.cooldown (readings.looked server)
  (looked.mapValues fun _ circuit => circuit.state, looked)

/-- `ensure_closed`. -/
def ensureClosed (circuits : Dict String Circuit) (server : String)
    (readings : ClockReadings) : Except CircuitOpen Unit × Dict String Circuit :=
  let (circuit, circuits) := breaker.refresh circuits server (readings.looked server)
  if isOpen : circuit.state = .opened then
    (.error ⟨server, circuit.since isOpen + breaker.cooldown⟩, circuits)
  else (.ok (), circuits)

/-- `record_success`. -/
def recordSuccess (circuits : Dict String Circuit) (server : String) :
    Dict String Circuit :=
  circuits.set server {}

/-- The circuit that `record_failure` keeps in place of a refreshed one. -/
def failed (circuit : Circuit) (now : Timestamp) : Circuit :=
  if circuit.state = .halfOpen then
    { failures := breaker.failureThreshold, state := .opened, openedAt := some now }
  else if circuit.failures + 1 ≥ breaker.failureThreshold then
    { failures := circuit.failures + 1, state := .opened, openedAt := some now }
  else
    { circuit with failures := circuit.failures + 1 }

/-- `record_failure`. -/
def recordFailure (circuits : Dict String Circuit) (server : String)
    (readings : ClockReadings) : Dict String Circuit :=
  let (circuit, circuits) := breaker.refresh circuits server (readings.looked server)
  circuits.set server (breaker.failed circuit readings.recorded)

/-- The breaker as a service. -/
def service : Service (Dict String Circuit) (BreakerCall × ClockReadings) BreakerAnswer
  | circuits, (.stateOf server, readings) =>
      let (state, circuits) := breaker.stateOf circuits server readings
      (.state state, circuits)
  | circuits, (.states, readings) =>
      let (states, circuits) := breaker.states circuits readings
      (.states states, circuits)
  | circuits, (.ensureClosed server, readings) =>
      match breaker.ensureClosed circuits server readings with
      | (.ok (), circuits) => (.done, circuits)
      | (.error error, circuits) => (.refused error, circuits)
  | circuits, (.recordSuccess server, _) =>
      (.done, recordSuccess circuits server)
  | circuits, (.recordFailure server, readings) =>
      (.done, breaker.recordFailure circuits server readings)

variable {breaker} {circuits : Dict String Circuit} {server : String}
  {readings : ClockReadings}

theorem next_ensureClosed :
    breaker.service.next circuits (.ensureClosed server, readings) =
      (breaker.refresh circuits server (readings.looked server)).2 := by
  by_cases isOpen :
      (breaker.refresh circuits server (readings.looked server)).1.state = .opened <;>
    simp [Service.next, service, ensureClosed, isOpen]

theorem answer_ensureClosed :
    (breaker.service circuits (.ensureClosed server, readings)).1 =
      let circuit := (breaker.refresh circuits server (readings.looked server)).1
      if isOpen : circuit.state = .opened then
        .refused ⟨server, circuit.since isOpen + breaker.cooldown⟩
      else .done := by
  by_cases isOpen :
      (breaker.refresh circuits server (readings.looked server)).1.state = .opened <;>
    simp [service, ensureClosed, isOpen]

end CircuitBreaker

/-! ## Budgets -/

/-- `BudgetExhausted`. -/
structure BudgetExhausted where
  jobId : UUID
  limit : ℚ
  kind : String
  deriving DecidableEq

/-- What one finished agent call spent, as it is handed in. -/
structure AgentCallAmounts where
  promptTokens : Int := 0
  completionTokens : Int := 0
  costUsd : ℚ := 0
  activeSeconds : ℚ := 0
  corrections : Int := 0
  deriving DecidableEq

namespace AgentCallAmounts

/-- The smallest of the amounts is negative. -/
def IsNegative (amounts : AgentCallAmounts) : Prop :=
  amounts.promptTokens < 0 ∨ amounts.completionTokens < 0 ∨ amounts.costUsd < 0 ∨
    amounts.activeSeconds < 0 ∨ amounts.corrections < 0

instance (amounts : AgentCallAmounts) : Decidable amounts.IsNegative :=
  inferInstanceAs (Decidable (_ ∨ _))

/-- The amounts as usage: one agent call and what it spent. -/
def spent (amounts : AgentCallAmounts) : JobUsage where
  agentCalls := 1
  schemaCorrections := amounts.corrections.toNat
  promptTokens := amounts.promptTokens.toNat
  completionTokens := amounts.completionTokens.toNat
  costUsd := amounts.costUsd.toNNRat
  activeSeconds := amounts.activeSeconds.toNNRat

end AgentCallAmounts

namespace JobUsage

instance : Zero JobUsage := ⟨{}⟩

instance : Add JobUsage where
  add first second := {
    toolCalls := first.toolCalls + second.toolCalls
    agentCalls := first.agentCalls + second.agentCalls
    schemaCorrections := first.schemaCorrections + second.schemaCorrections
    promptTokens := first.promptTokens + second.promptTokens
    completionTokens := first.completionTokens + second.completionTokens
    costUsd := first.costUsd + second.costUsd
    activeSeconds := first.activeSeconds + second.activeSeconds }

/-- `total_tokens`. -/
def totalTokens (usage : JobUsage) : Nat := usage.promptTokens + usage.completionTokens

/-- The checks of `ensure_within`, which both ledgers make. -/
def ensureWithin (spent : JobUsage) (jobId : UUID) (budget : ResearchBudget) :
    Except BudgetExhausted Unit :=
  if spent.totalTokens ≥ budget.maxTokens then
    .error ⟨jobId, budget.maxTokens, "token"⟩
  else if (spent.costUsd : ℚ) ≥ budget.maxCostUsd then
    .error ⟨jobId, budget.maxCostUsd, "USD cost"⟩
  else if (spent.activeSeconds : ℚ) ≥ budget.maxRuntimeSeconds then
    .error ⟨jobId, budget.maxRuntimeSeconds, "second runtime"⟩
  else .ok ()

end JobUsage

inductive LedgerCall where
  | usage (jobId : UUID)
  | remainingCalls (jobId : UUID) (budget : ResearchBudget)
  | reserveCall (jobId : UUID) (budget : ResearchBudget)
  | ensureWithin (jobId : UUID) (budget : ResearchBudget)
  | recordAgentCall (jobId : UUID) (amounts : AgentCallAmounts)
  deriving DecidableEq

/-- What a call returns or raises; `negative` is the `ValueError` of recorded usage
that is negative. -/
inductive LedgerAnswer where
  | usage (usage : JobUsage)
  | calls (count : Nat)
  | done
  | exhausted (error : BudgetExhausted)
  | negative
  deriving DecidableEq

/-- What `ensure_within` returns or raises. -/
def LedgerAnswer.ofWithin : Except BudgetExhausted Unit → LedgerAnswer
  | .ok () => .done
  | .error error => .exhausted error

/-- The usage of each job, `_usage`. -/
abbrev BudgetLedger : Type := Dict UUID JobUsage

namespace BudgetLedger

variable (ledger : BudgetLedger) (jobId : UUID) (budget : ResearchBudget)

/-- `usage`. -/
def usage : JobUsage := (ledger.get? jobId).getD {}

/-- `remaining_calls`. -/
def remainingCalls : Nat := budget.maxToolCalls - (ledger.usage jobId).toolCalls

/-- `reserve_call`. -/
def reserveCall : Except BudgetExhausted Nat × BudgetLedger :=
  let (recorded, ledger) := ledger.setDefault jobId {}
  if recorded.toolCalls ≥ budget.maxToolCalls then
    (.error ⟨jobId, budget.maxToolCalls, "tool-call"⟩, ledger)
  else
    (.ok (recorded.toolCalls + 1),
      ledger.set jobId { recorded with toolCalls := recorded.toolCalls + 1 })

/-- `record_agent_call`; `none` where it raises. -/
def recordAgentCall (amounts : AgentCallAmounts) : Option JobUsage × BudgetLedger :=
  if amounts.IsNegative then (none, ledger)
  else
    let (recorded, ledger) := ledger.setDefault jobId {}
    let total := recorded + amounts.spent
    (some total, ledger.set jobId total)

/-- The ledger as a service. -/
def service : Service BudgetLedger LedgerCall LedgerAnswer
  | ledger, .usage jobId => (.usage (ledger.usage jobId), ledger)
  | ledger, .remainingCalls jobId budget =>
      (.calls (ledger.remainingCalls jobId budget), ledger)
  | ledger, .reserveCall jobId budget =>
      match ledger.reserveCall jobId budget with
      | (.ok claimed, ledger) => (.calls claimed, ledger)
      | (.error error, ledger) => (.exhausted error, ledger)
  | ledger, .ensureWithin jobId budget =>
      (.ofWithin ((ledger.usage jobId).ensureWithin jobId budget), ledger)
  | ledger, .recordAgentCall jobId amounts =>
      match ledger.recordAgentCall jobId amounts with
      | (some total, ledger) => (.usage total, ledger)
      | (none, ledger) => (.negative, ledger)

end BudgetLedger

end ResearchPlatform
