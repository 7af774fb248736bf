import ResearchPlatform.Foundation.Redis
import ResearchPlatform.Mcp.Breaker
import ResearchPlatform.Mcp.WebBoundary

/-!
# Limits that the workers share

`persistence/redis_state.py`.  Each script and each pipeline is one atomic step on
the store, and the store answers.
-/

namespace ResearchPlatform

open Foundation

/-! ## Budgets -/

/-- `_usage_from`; `none` where a field is negative, which `JobUsage` refuses. -/
def usageFrom (fields : Dict String Scalar) : Option JobUsage :=
  let toolCalls := Scalar.asInt (fields.get? "tool_calls")
  let agentCalls := Scalar.asInt (fields.get? "agent_calls")
  let schemaCorrections := Scalar.asInt (fields.get? "schema_corrections")
  let promptTokens := Scalar.asInt (fields.get? "prompt_tokens")
  let completionTokens := Scalar.asInt (fields.get? "completion_tokens")
  let costUsd := Scalar.asFloat (fields.get? "cost_usd")
  let activeSeconds := Scalar.asFloat (fields.get? "active_seconds")
  if 0 ≤ toolCalls ∧ 0 ≤ agentCalls ∧ 0 ≤ schemaCorrections ∧ 0 ≤ promptTokens ∧
      0 ≤ completionTokens ∧ 0 ≤ costUsd ∧ 0 ≤ activeSeconds then
    some {
      toolCalls := toolCalls.toNat
      agentCalls := agentCalls.toNat
      schemaCorrections := schemaCorrections.toNat
      promptTokens := promptTokens.toNat
      completionTokens := completionTokens.toNat
      costUsd := costUsd.toNNRat
      activeSeconds := activeSeconds.toNNRat }
  else none

structure RedisBudgetLedger where
  keyPrefix : String := "research"

namespace RedisBudgetLedger

variable (ledger : RedisBudgetLedger) (store : Redis) (jobId : UUID)
  (budget : ResearchBudget)

/-- `_key`. -/
def key : String := ledger.keyPrefix ++ ":budget:" ++ jobId.str

/-- `usage`. -/
def usage : Option JobUsage := usageFrom (store.hgetall (ledger.key jobId))

/-- `remaining_calls`. -/
def remainingCalls : Option Nat :=
  (ledger.usage store jobId).map (budget.maxToolCalls - ·.toolCalls)

/-- `_RESERVE_CALL`. -/
def reserveScript : Int × Redis :=
  let used := Scalar.asInt (store.hget (ledger.key jobId) "tool_calls")
  if used ≥ budget.maxToolCalls then (-1, store)
  else store.hincrby (ledger.key jobId) "tool_calls" 1

/-- `reserve_call`. -/
def reserveCall : Except BudgetExhausted Int × Redis :=
  let (claimed, store) := ledger.reserveScript store jobId budget
  if claimed < 0 then (.error ⟨jobId, budget.maxToolCalls, "tool-call"⟩, store)
  else (.ok claimed, store)

/-- `ensure_within`. -/
def ensureWithin : Option (Except BudgetExhausted Unit) :=
  (ledger.usage store jobId).map (·.ensureWithin jobId budget)

/-- The writes of `_RECORD_AGENT_CALL`. -/
def recordScript (amounts : AgentCallAmounts) : Redis :=
  let key := ledger.key jobId
  let store := (store.hincrby key "agent_calls" 1).2
  let store := (store.hincrby key "schema_corrections" amounts.corrections).2
  let store := (store.hincrby key "prompt_tokens" amounts.promptTokens).2
  let store := (store.hincrby key "completion_tokens" amounts.completionTokens).2
  let store := (store.hincrbyfloat key "cost_usd" amounts.costUsd).2
  (store.hincrbyfloat key "active_seconds" amounts.activeSeconds).2

/-- The ledger as a service; `none` is an exception of `JobUsage`. -/
def service : Service Redis LedgerCall (Option LedgerAnswer)
  | store, .usage jobId => ((ledger.usage store jobId).map .usage, store)
  | store, .remainingCalls jobId budget =>
      ((ledger.remainingCalls store jobId budget).map .calls, store)
  | store, .reserveCall jobId budget =>
      match ledger.reserveCall store jobId budget with
      | (.ok claimed, store) => (some (.calls claimed.toNat), store)
      | (.error error, store) => (some (.exhausted error), store)
  | store, .ensureWithin jobId budget =>
      ((ledger.ensureWithin store jobId budget).map .ofWithin, store)
  | store, .recordAgentCall jobId amounts =>
      if amounts.IsNegative then (some .negative, store)
      else
        let store := ledger.recordScript store jobId amounts
        ((usageFrom (store.hgetall (ledger.key jobId))).map .usage, store)

end RedisBudgetLedger

/-! ## Request rates -/

structure RedisRateLimiter where
  limit : Nat
  window : Int := 60000000
  keyPrefix : String := "research"
  limitInRange : 1 ≤ limit

namespace RedisRateLimiter

variable (limiter : RedisRateLimiter) (store : Redis) (name : String) (now : Timestamp)

/-- `_key`. -/
def key : String := limiter.keyPrefix ++ ":rate:" ++ name

/-- The time of the store itself, in whole milliseconds. -/
def milliseconds : Int := now / 1000

/-- `_REMAINING`. -/
def remainingScript : Nat × Redis :=
  let store := store.zremrangebyscore (limiter.key name) (now - limiter.window)
    (milliseconds now)
  (store.zcard (limiter.key name) (milliseconds now), store)

/-- `math.ceil(window / 1000)`. -/
def timeToLive : Int := -(-limiter.window / 1000)

/-- `_ACQUIRE`. -/
def acquireScript (token : String) : Int × Redis :=
  let key := limiter.key name
  let store := store.zremrangebyscore key (now - limiter.window) (milliseconds now)
  let used := store.zcard key (milliseconds now)
  if used ≥ limiter.limit then (-1, store)
  else
    let store := store.zadd key now token (milliseconds now)
    let store := store.pexpire key limiter.timeToLive (milliseconds now)
    ((limiter.limit : Int) - used - 1, store)

/-- `remaining`. -/
def remaining : Nat × Redis :=
  let (used, store) := limiter.remainingScript store name now
  (limiter.limit - used, store)

/-- `acquire`. -/
def acquire (token : String) : Except RateLimitExceeded Int × Redis :=
  let (left, store) := limiter.acquireScript store name now token
  if left < 0 then (.error ⟨name, limiter.limit, limiter.window⟩, store)
  else (.ok left, store)

/-- The limiter as a service; each script reads the clock once. -/
def service : Service Redis (RateCall × RateReadings) RateAnswer
  | store, (.remaining name, readings) =>
      let (left, store) := limiter.remaining store name readings.pruned
      (.count left, store)
  | store, (.acquire name, readings) =>
      match limiter.acquire store name readings.pruned readings.token with
      | (.ok left, store) => (.count left.toNat, store)
      | (.error error, store) => (.exceeded error, store)

end RedisRateLimiter

/-! ## The circuit breaker -/

structure RedisCircuitBreaker where
  failureThreshold : Nat := 3
  cooldown : Int := 30000000
  keyPrefix : String := "research"
  thresholdInRange : 1 ≤ failureThreshold := by decide

namespace RedisCircuitBreaker

variable (breaker : RedisCircuitBreaker) (store : Redis) (server : String)
  (now : Timestamp)

/-- `_key`. -/
def key : String := breaker.keyPrefix ++ ":circuit:" ++ server

/-- `_servers`. -/
def servers : String := breaker.keyPrefix ++ ":circuits"

/-- `_REFRESH`: the state, when it was opened, and the store. -/
def refresh : (String × Int) × Redis :=
  let key := breaker.key server
  let state := Scalar.asText "closed" (store.hget key "state")
  let openedAt := Scalar.asInt (store.hget key "opened_at")
  if state = "open" ∧ now - openedAt ≥ breaker.cooldown then
    (("half_open", openedAt), store.hset key "state" (.text "half_open"))
  else ((state, openedAt), store)

/-- What `_CIRCUIT_FAILURE` writes to the hash, once it has refreshed it. -/
def failed (store : Redis) (key state : String) (now : Timestamp) : Redis :=
  if state = "half_open" then
    ((store.hset key "state" (.text "open")).hset key "failures"
      (.int breaker.failureThreshold)).hset key "opened_at" (.int now)
  else
    let (failures, store) := store.hincrby key "failures" 1
    if failures ≥ breaker.failureThreshold then
      (store.hset key "state" (.text "open")).hset key "opened_at" (.int now)
    else store

/-- `_CIRCUIT_FAILURE`. -/
def recordFailure : Redis :=
  let ((state, _), store) := breaker.refresh store server now
  (breaker.failed store (breaker.key server) state now).sadd breaker.servers server

/-- `record_success`. -/
def recordSuccess : Redis :=
  (store.del (breaker.key server)).sadd breaker.servers server

/-- `_read`; `none` where the stored state is not a state. -/
def read : Option (CircuitState × Int) × Redis :=
  let ((state, openedAt), store) := breaker.refresh store server now
  ((CircuitState.ofValue state).map (·, openedAt), store)

/-- `state_of`. -/
def stateOf : Option CircuitState × Redis :=
  let (looked, store) := breaker.read store server now
  (looked.map Prod.fst, store)

/-- The loop of `states`, over the sorted servers. -/
def statesOf (readings : ClockReadings) :
    List String → Dict String CircuitState → Redis →
      Option (Dict String CircuitState) × Redis
  | [], states, store => (some states, store)
  | server :: rest, states, store =>
      match breaker.stateOf store server (readings.looked server) with
      | (some state, store) => statesOf readings rest (states.set server state) store
      | (none, store) => (none, store)

/-- `states`. -/
def states (readings : ClockReadings) : Option (Dict String CircuitState) × Redis :=
  breaker.statesOf readings
    ((store.smembers breaker.servers).insertionSort (· ≤ ·)) ∅ store

/-- The breaker as a service; `none` is an exception of `CircuitState(state)`. -/
def service : Service Redis (BreakerCall × ClockReadings) (Option BreakerAnswer)
  | store, (.stateOf server, readings) =>
      let (state, store) := breaker.stateOf store server (readings.looked server)
      (state.map .state, store)
  | store, (.states, readings) =>
      let (states, store) := breaker.states store readings
      (states.map .states, store)
  | store, (.ensureClosed server, readings) =>
      let (looked, store) := breaker.read store server (readings.looked server)
      (looked.map fun (state, openedAt) =>
        if state = .opened then .refused ⟨server, openedAt + breaker.cooldown⟩
        else .done, store)
  | store, (.recordSuccess server, _) => (some .done, breaker.recordSuccess store server)
  | store, (.recordFailure server, readings) =>
      (some .done, breaker.recordFailure store server (readings.looked server))

end RedisCircuitBreaker

end ResearchPlatform
