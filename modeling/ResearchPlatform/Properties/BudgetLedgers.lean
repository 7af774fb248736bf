import ResearchPlatform.Persistence.RedisState

/-!
# Budget ledgers

What a ledger counts is the sum of what was recorded for the job, no job is granted
more tool calls than its budget has, and the ledger over Redis answers as the one
in process memory.  A list of calls is one order in which the workers' calls took
effect.
-/

namespace ResearchPlatform

open Foundation

/-! ## Sums of usage -/

namespace JobUsage

theorem add_def (first second : JobUsage) :
    first + second = {
      toolCalls := first.toolCalls + second.toolCalls
      agentCalls := first.agentCalls + second.agentCalls
      schemaCorrections := first.schemaCorrections + second.schemaCorrections
      promptTokens := first.promptTokens + second.promptTokens
      completionTokens := first.completionTokens + second.completionTokens
      costUsd := first.costUsd + second.costUsd
      activeSeconds := first.activeSeconds + second.activeSeconds } := rfl

theorem zero_def : (0 : JobUsage) = {} := rfl

theorem add_zero (usage : JobUsage) : usage + 0 = usage := by
  simp [add_def, zero_def]

theorem zero_add (usage : JobUsage) : 0 + usage = usage := by
  simp [add_def, zero_def]

end JobUsage

theorem jobUsage_add_assoc (first second third : JobUsage) :
    first + second + third = first + (second + third) := by
  simp [JobUsage.add_def, add_assoc]

/-! ## One ledger -/

/-- What an answered call recorded for a job. -/
def recordedBy (jobId : UUID) : LedgerCall × LedgerAnswer → JobUsage
  | (.reserveCall other _, .calls _) => if other = jobId then { toolCalls := 1 } else 0
  | (.recordAgentCall other amounts, .usage _) =>
      if other = jobId then amounts.spent else 0
  | _ => 0

/-- What the answered calls recorded for a job, in all. -/
def recordedFor (jobId : UUID) (answered : List (LedgerCall × LedgerAnswer)) :
    JobUsage :=
  (answered.map (recordedBy jobId)).sum

/-- The job that a call is about. -/
def LedgerCall.jobId : LedgerCall → UUID
  | usage jobId | remainingCalls jobId _ | reserveCall jobId _ | ensureWithin jobId _
  | recordAgentCall jobId _ => jobId

/-- An attempt to claim a tool call of the job. -/
def reserves (jobId : UUID) : LedgerCall → Bool
  | .reserveCall other _ => other = jobId
  | _ => false

section Ledger

variable {ledger : BudgetLedger} {jobId other : UUID} {budget : ResearchBudget}

theorem usage_set {usage : JobUsage} :
    BudgetLedger.usage (ledger.set other usage) jobId =
      if jobId = other then usage else ledger.usage jobId := by
  by_cases same : jobId = other <;> simp [BudgetLedger.usage, Dict.get?_set, same]

/-- A job that spent its tool calls is known, so that a refusal leaves no trace. -/
theorem reserveCall_of_spent (spent : budget.maxToolCalls ≤ (ledger.usage jobId).toolCalls) :
    ledger.reserveCall jobId budget =
      (.error ⟨jobId, budget.maxToolCalls, "tool-call"⟩, ledger) := by
  have positive := budget.toolCallsInRange.1
  unfold BudgetLedger.usage at spent
  unfold BudgetLedger.reserveCall Dict.setDefault
  cases found : ledger.get? jobId with
  | none =>
      rw [found, Option.getD_none] at spent
      exact absurd (positive.trans spent) (by decide)
  | some recorded =>
      rw [found, Option.getD_some] at spent
      simp [spent]

theorem reserveCall_of_left (left : (ledger.usage jobId).toolCalls < budget.maxToolCalls) :
    ledger.reserveCall jobId budget =
      (.ok ((ledger.usage jobId).toolCalls + 1),
        ledger.set jobId (ledger.usage jobId + { toolCalls := 1 })) := by
  unfold BudgetLedger.reserveCall
  simp only [Dict.setDefault_fst]
  rw [if_neg (by simpa [BudgetLedger.usage] using left), Dict.setDefault_set]
  simp [JobUsage.add_def, BudgetLedger.usage]

theorem recordAgentCall_of_negative (ledger : BudgetLedger) (jobId : UUID)
    {amounts : AgentCallAmounts} (negative : amounts.IsNegative) :
    ledger.recordAgentCall jobId amounts = (none, ledger) :=
  if_pos negative

theorem recordAgentCall_of_not_negative (ledger : BudgetLedger) (jobId : UUID)
    {amounts : AgentCallAmounts} (accepted : ¬ amounts.IsNegative) :
    ledger.recordAgentCall jobId amounts =
      (some (ledger.usage jobId + amounts.spent),
        ledger.set jobId (ledger.usage jobId + amounts.spent)) := by
  rw [BudgetLedger.recordAgentCall, if_neg accepted]
  simp only [Dict.setDefault_fst, Dict.setDefault_set]
  rfl

/-- One call adds to the usage of a job what it recorded for it. -/
theorem usage_next (call : LedgerCall) :
    BudgetLedger.usage (BudgetLedger.service.next ledger call) jobId =
      ledger.usage jobId + recordedBy jobId (call, (BudgetLedger.service ledger call).1) := by
  cases call with
  | usage other => exact (JobUsage.add_zero _).symm
  | remainingCalls other budget => exact (JobUsage.add_zero _).symm
  | ensureWithin other budget =>
      exact (JobUsage.add_zero _).symm
  | reserveCall other budget =>
      by_cases spent : budget.maxToolCalls ≤ (ledger.usage other).toolCalls
      · have refused := reserveCall_of_spent spent
        simp [Service.next, BudgetLedger.service, refused, recordedBy, JobUsage.add_zero]
      · have granted := reserveCall_of_left (Nat.lt_of_not_le spent)
        simp only [Service.next, BudgetLedger.service, granted, recordedBy, usage_set]
        by_cases same : jobId = other
        · simp [same]
        · simp [same, Ne.symm same, JobUsage.add_zero]
  | recordAgentCall other amounts =>
      by_cases negative : amounts.IsNegative
      · have refused := recordAgentCall_of_negative ledger other negative
        simp [Service.next, BudgetLedger.service, refused, recordedBy, JobUsage.add_zero]
      · have accepted := recordAgentCall_of_not_negative ledger other negative
        simp only [Service.next, BudgetLedger.service, accepted, recordedBy, usage_set]
        by_cases same : jobId = other
        · simp [same]
        · simp [same, Ne.symm same, JobUsage.add_zero]

theorem usage_after (calls : List LedgerCall) :
    BudgetLedger.usage (BudgetLedger.service.after ledger calls) jobId =
      ledger.usage jobId +
        recordedFor jobId (calls.zip (BudgetLedger.service.answers ledger calls)) := by
  induction calls generalizing ledger with
  | nil => exact (JobUsage.add_zero _).symm
  | cons call rest inductionHypothesis =>
      rw [Service.after_cons, inductionHypothesis, usage_next, jobUsage_add_assoc]
      rfl

/-- A call that is refused or rejected leaves the ledger as it was. -/
theorem next_of_refused {call : LedgerCall}
    (refused : (BudgetLedger.service ledger call).1 = .negative ∨
      ∃ error, (BudgetLedger.service ledger call).1 = .exhausted error) :
    BudgetLedger.service.next ledger call = ledger := by
  cases call with
  | usage other => rfl
  | remainingCalls other budget => rfl
  | ensureWithin other budget => rfl
  | reserveCall other budget =>
      by_cases spent : budget.maxToolCalls ≤ (ledger.usage other).toolCalls
      · simp [Service.next, BudgetLedger.service, reserveCall_of_spent spent]
      · simp [BudgetLedger.service, reserveCall_of_left (Nat.lt_of_not_le spent)] at refused
  | recordAgentCall other amounts =>
      by_cases negative : amounts.IsNegative
      · simp [Service.next, BudgetLedger.service,
          recordAgentCall_of_negative ledger other negative]
      · simp [BudgetLedger.service,
          recordAgentCall_of_not_negative ledger other negative] at refused

/-! ## Claims on one budget -/

/-- What the claim after `claimed` earlier ones is answered. -/
def claimAnswer (jobId : UUID) (limit claimed : Nat) : LedgerAnswer :=
  if claimed < limit then .calls (claimed + 1)
  else .exhausted ⟨jobId, limit, "tool-call"⟩

theorem answer_reserveCall {claimed : Nat}
    (counted : (ledger.usage jobId).toolCalls = min claimed budget.maxToolCalls) :
    (BudgetLedger.service ledger (.reserveCall jobId budget)).1 =
        claimAnswer jobId budget.maxToolCalls claimed ∧
      (BudgetLedger.usage (BudgetLedger.service.next ledger (.reserveCall jobId budget))
          jobId).toolCalls =
        min (claimed + 1) budget.maxToolCalls := by
  by_cases left : claimed < budget.maxToolCalls
  · have isLeft : (ledger.usage jobId).toolCalls < budget.maxToolCalls := by omega
    have granted := reserveCall_of_left isLeft
    have isCounted : (ledger.usage jobId).toolCalls = claimed := by omega
    simp only [Service.next, BudgetLedger.service, granted, usage_set, claimAnswer,
      if_pos left, if_true, JobUsage.add_def, isCounted, true_and]
    omega
  · have spent : budget.maxToolCalls ≤ (ledger.usage jobId).toolCalls := by omega
    have refused := reserveCall_of_spent spent
    simp only [Service.next, BudgetLedger.service, refused, claimAnswer, if_neg left,
      true_and]
    omega

theorem toolCalls_recordedBy {call : LedgerCall} {answer : LedgerAnswer}
    (other : ¬ reserves jobId call = true) :
    (recordedBy jobId (call, answer)).toolCalls = 0 := by
  cases call with
  | usage name => rfl
  | remainingCalls name budget => rfl
  | ensureWithin name budget => rfl
  | reserveCall name budget =>
      have different : name ≠ jobId := by simpa [reserves] using other
      cases answer <;> simp [recordedBy, different, JobUsage.zero_def]
  | recordAgentCall name amounts =>
      by_cases same : name = jobId <;> cases answer <;>
        simp [recordedBy, same, AgentCallAmounts.spent, JobUsage.zero_def]

/-- The claims on a job, numbered from those that were made before. -/
theorem answersTo_reserves {limit claimed : Nat} (calls : List LedgerCall)
    (sameLimit : ∀ budget, .reserveCall jobId budget ∈ calls → budget.maxToolCalls = limit)
    (counted : (ledger.usage jobId).toolCalls = min claimed limit) :
    BudgetLedger.service.answersTo (reserves jobId) ledger calls =
      (List.range (calls.countP (reserves jobId))).map fun index =>
        claimAnswer jobId limit (claimed + index) := by
  induction calls generalizing ledger claimed with
  | nil => rfl
  | cons call rest inductionHypothesis =>
      have others : ∀ budget, .reserveCall jobId budget ∈ rest →
          budget.maxToolCalls = limit :=
        fun budget member => sameLimit budget (List.mem_cons_of_mem call member)
      rw [Service.answersTo_cons]
      by_cases claims : reserves jobId call = true
      · cases call with
        | reserveCall other budget =>
            have same : other = jobId := by simpa [reserves] using claims
            subst same
            have atLimit : budget.maxToolCalls = limit := sameLimit budget List.mem_cons_self
            subst atLimit
            obtain ⟨answered, counted⟩ := answer_reserveCall counted
            rw [if_pos claims, answered, inductionHypothesis others counted,
              List.countP_cons_of_pos claims, List.range_succ_eq_map]
            simp [Nat.add_assoc, Nat.add_comm 1]
        | usage other => simp [reserves] at claims
        | remainingCalls other budget => simp [reserves] at claims
        | ensureWithin other budget => simp [reserves] at claims
        | recordAgentCall other amounts => simp [reserves] at claims
      · have still : (BudgetLedger.usage (BudgetLedger.service.next ledger call)
            jobId).toolCalls = min claimed limit := by
          rw [usage_next, JobUsage.add_def]
          simpa [toolCalls_recordedBy claims] using counted
        rw [if_neg claims, List.nil_append, inductionHypothesis others still,
          List.countP_cons_of_neg claims]

/-- What is asked about a job is answered from the usage of that job. -/
theorem answers_alike {first second : BudgetLedger} {call : LedgerCall}
    (alike : first.usage call.jobId = second.usage call.jobId) :
    (BudgetLedger.service first call).1 = (BudgetLedger.service second call).1 := by
  cases call with
  | usage other => exact congrArg LedgerAnswer.usage alike
  | remainingCalls other budget =>
      exact congrArg (fun usage : JobUsage =>
        LedgerAnswer.calls (budget.maxToolCalls - usage.toolCalls)) alike
  | ensureWithin other budget =>
      exact congrArg (fun usage : JobUsage =>
        LedgerAnswer.ofWithin (usage.ensureWithin other budget)) alike
  | reserveCall other budget =>
      have isAlike : first.usage other = second.usage other := alike
      by_cases spent : budget.maxToolCalls ≤ (first.usage other).toolCalls
      · have alsoSpent := spent
        rw [isAlike] at alsoSpent
        simp [BudgetLedger.service, reserveCall_of_spent spent,
          reserveCall_of_spent alsoSpent]
      · have left := Nat.lt_of_not_le spent
        have alsoLeft := left
        rw [isAlike] at alsoLeft
        simp [BudgetLedger.service, reserveCall_of_left left,
          reserveCall_of_left alsoLeft, isAlike]
  | recordAgentCall other amounts =>
      have isAlike : first.usage other = second.usage other := alike
      by_cases negative : amounts.IsNegative
      · simp [BudgetLedger.service, recordAgentCall_of_negative _ _ negative]
      · simp [BudgetLedger.service, recordAgentCall_of_not_negative _ _ negative, isAlike]

theorem recordedBy_of_other {call : LedgerCall} {answer : LedgerAnswer}
    (other : call.jobId ≠ jobId) : recordedBy jobId (call, answer) = 0 := by
  cases call <;> cases answer <;> first | rfl | exact if_neg other

/-- Calls about other jobs have no part in the answers about a job. -/
theorem answersTo_job (calls : List LedgerCall) :
    BudgetLedger.service.answersTo (·.jobId = jobId) ledger calls =
      BudgetLedger.service.answers ledger (calls.filter (·.jobId = jobId)) := by
  have seen : ∀ (first second : BudgetLedger) (call : LedgerCall),
      first.usage jobId = second.usage jobId → decide (call.jobId = jobId) = true →
        (BudgetLedger.service first call).1 = (BudgetLedger.service second call).1 ∧
          BudgetLedger.usage (BudgetLedger.service.next first call) jobId =
            BudgetLedger.usage (BudgetLedger.service.next second call) jobId := by
    intro first second call alike about
    have answered : (BudgetLedger.service first call).1 =
        (BudgetLedger.service second call).1 := by
      apply answers_alike
      rw [of_decide_eq_true about, alike]
    exact ⟨answered, by rw [usage_next, usage_next, alike, answered]⟩
  have unseen : ∀ (first second : BudgetLedger) (call : LedgerCall),
      first.usage jobId = second.usage jobId → decide (call.jobId = jobId) = false →
        BudgetLedger.usage (BudgetLedger.service.next first call) jobId =
          second.usage jobId := by
    intro first second call alike about
    rw [usage_next, recordedBy_of_other (of_decide_eq_false about), JobUsage.add_zero, alike]
  exact Service.answersTo_eq_answers_filter seen unseen rfl calls

end Ledger

/-! ## The ledger over Redis -/

/-- The fields of a hash stand for usage. -/
structure Counted (usage : JobUsage) (fields : Dict String Scalar) : Prop where
  toolCalls : Scalar.asInt (fields.get? "tool_calls") = usage.toolCalls
  agentCalls : Scalar.asInt (fields.get? "agent_calls") = usage.agentCalls
  schemaCorrections :
    Scalar.asInt (fields.get? "schema_corrections") = usage.schemaCorrections
  promptTokens : Scalar.asInt (fields.get? "prompt_tokens") = usage.promptTokens
  completionTokens :
    Scalar.asInt (fields.get? "completion_tokens") = usage.completionTokens
  costUsd : Scalar.asFloat (fields.get? "cost_usd") = usage.costUsd
  activeSeconds : Scalar.asFloat (fields.get? "active_seconds") = usage.activeSeconds

section Shared

variable {shared : RedisBudgetLedger} {store : Redis} {jobId : UUID} {usage : JobUsage}
  {fields : Dict String Scalar} {budget : ResearchBudget}

theorem counted_empty : Counted {} ∅ :=
  ⟨rfl, rfl, rfl, rfl, rfl, rfl, rfl⟩

theorem Counted.usageFrom (counted : Counted usage fields) :
    usageFrom fields = some usage := by
  unfold ResearchPlatform.usageFrom
  simp only [counted.toolCalls, counted.agentCalls, counted.schemaCorrections,
    counted.promptTokens, counted.completionTokens, counted.costUsd, counted.activeSeconds,
    Int.natCast_nonneg, NNRat.coe_nonneg, Int.toNat_natCast, NNRat.toNNRat_coe, and_self,
    if_true]

theorem budgetKey_injective {other : UUID} (same : shared.key other = shared.key jobId) :
    other = jobId := by
  have texts : other.str = jobId.str := by
    simpa only [RedisBudgetLedger.key, String.append_right_inj] using same
  have parsed := congrArg UUID.parse texts
  simpa only [UUID.parse_str, Option.some.injEq] using parsed

/-- The store keeps the ledger, each job in its hash. -/
def Keeps (shared : RedisBudgetLedger) (ledger : BudgetLedger) (store : Redis) : Prop :=
  ∀ jobId, Counted (ledger.usage jobId) (store.hgetall (shared.key jobId))

theorem hgetall_hincrby {key field : String} {amount : Int} :
    (store.hincrby key field amount).2.hgetall key =
      (store.hgetall key).set field
        (.int (Scalar.asInt ((store.hgetall key).get? field) + amount)) :=
  Redis.hgetall_hset_self

theorem hgetall_hincrbyfloat {key field : String} {amount : ℚ} :
    (store.hincrbyfloat key field amount).2.hgetall key =
      (store.hgetall key).set field
        (.float (Scalar.asFloat ((store.hgetall key).get? field) + amount)) :=
  Redis.hgetall_hset_self

theorem hgetall_recordScript_of_ne {amounts : AgentCallAmounts} {other : UUID}
    (different : other ≠ jobId) :
    (shared.recordScript store jobId amounts).hgetall (shared.key other) =
      store.hgetall (shared.key other) := by
  have elsewhere : shared.key other ≠ shared.key jobId :=
    fun same => different (budgetKey_injective same)
  simp [RedisBudgetLedger.recordScript, Redis.hincrby, Redis.hincrbyfloat,
    Redis.hgetall_hset_of_ne elsewhere]

/-- A claimed tool call, in the hash. -/
theorem Counted.claimed (counted : Counted usage fields) :
    Counted (usage + { toolCalls := 1 })
      (fields.set "tool_calls" (.int (usage.toolCalls + 1))) := by
  obtain ⟨toolCalls, agentCalls, schemaCorrections, promptTokens, completionTokens, costUsd,
    activeSeconds⟩ := counted
  constructor <;> simp [Dict.get?_set, JobUsage.add_def, *]

theorem Counted.recorded {amounts : AgentCallAmounts} (accepted : ¬ amounts.IsNegative)
    (counted : Counted usage (store.hgetall (shared.key jobId))) :
    Counted (usage + amounts.spent)
      ((shared.recordScript store jobId amounts).hgetall (shared.key jobId)) := by
  simp only [AgentCallAmounts.IsNegative, not_or, not_lt] at accepted
  obtain ⟨promptPositive, completionPositive, costPositive, secondsPositive,
    correctionsPositive⟩ := accepted
  obtain ⟨toolCalls, agentCalls, schemaCorrections, promptTokens, completionTokens, costUsd,
    activeSeconds⟩ := counted
  have cost := Rat.coe_toNNRat _ costPositive
  have seconds := Rat.coe_toNNRat _ secondsPositive
  simp only [RedisBudgetLedger.recordScript, hgetall_hincrbyfloat, hgetall_hincrby]
  constructor <;>
    simp [Dict.get?_set, JobUsage.add_def, AgentCallAmounts.spent, *]

theorem Keeps.usage_eq {ledger : BudgetLedger} (keeps : Keeps shared ledger store)
    (jobId : UUID) : shared.usage store jobId = some (ledger.usage jobId) :=
  (keeps jobId).usageFrom

theorem Keeps.changed {ledger : BudgetLedger} (keeps : Keeps shared ledger store)
    {store' : Redis} {total : JobUsage}
    (counted : Counted total (store'.hgetall (shared.key jobId)))
    (others : ∀ other, other ≠ jobId →
      store'.hgetall (shared.key other) = store.hgetall (shared.key other)) :
    Keeps shared (ledger.set jobId total) store' := by
  intro other
  rw [usage_set]
  by_cases same : other = jobId
  · subst same
    rwa [if_pos rfl]
  · rw [if_neg same, others other same]
    exact keeps other

theorem Keeps.reserveCall_refused {ledger : BudgetLedger}
    (keeps : Keeps shared ledger store)
    (spent : budget.maxToolCalls ≤ (ledger.usage jobId).toolCalls) :
    shared.reserveCall store jobId budget =
      (.error ⟨jobId, budget.maxToolCalls, "tool-call"⟩, store) := by
  have used : Scalar.asInt (store.hget (shared.key jobId) "tool_calls") =
      (ledger.usage jobId).toolCalls := (keeps jobId).toolCalls
  simp [RedisBudgetLedger.reserveCall, RedisBudgetLedger.reserveScript, used, spent]

/-- A claim on the shared budget is answered as one on the ledger. -/
theorem Keeps.reserveCall {ledger : BudgetLedger} (keeps : Keeps shared ledger store)
    (jobId : UUID) (budget : ResearchBudget) :
    (shared.service store (.reserveCall jobId budget)).1 =
        some (BudgetLedger.service ledger (.reserveCall jobId budget)).1 ∧
      Keeps shared (BudgetLedger.service.next ledger (.reserveCall jobId budget))
        (shared.service.next store (.reserveCall jobId budget)) := by
  have used : Scalar.asInt (store.hget (shared.key jobId) "tool_calls") =
      (ledger.usage jobId).toolCalls := (keeps jobId).toolCalls
  by_cases spent : budget.maxToolCalls ≤ (ledger.usage jobId).toolCalls
  · have theirs := keeps.reserveCall_refused spent
    simp only [Service.next, RedisBudgetLedger.service, BudgetLedger.service, theirs,
      reserveCall_of_spent spent]
    exact ⟨trivial, keeps⟩
  · have theirs : shared.reserveCall store jobId budget =
        (.ok ((ledger.usage jobId).toolCalls + 1 : Nat),
          (store.hincrby (shared.key jobId) "tool_calls" 1).2) := by
      have script : shared.reserveScript store jobId budget =
          (((((ledger.usage jobId).toolCalls + 1 : Nat) : Int)),
            (store.hincrby (shared.key jobId) "tool_calls" 1).2) := by
        have notSpent : ¬ ((ledger.usage jobId).toolCalls : Int) ≥ budget.maxToolCalls := by
          omega
        simp only [RedisBudgetLedger.reserveScript, used, if_neg notSpent]
        simp [Redis.hincrby, used]
      have positive : ¬ (((ledger.usage jobId).toolCalls + 1 : Nat) : Int) < 0 := by omega
      simp only [RedisBudgetLedger.reserveCall, script, if_neg positive]
    simp only [Service.next, RedisBudgetLedger.service, BudgetLedger.service, theirs,
      reserveCall_of_left (Nat.lt_of_not_le spent), Int.toNat_natCast]
    refine ⟨trivial, keeps.changed ?_ ?_⟩
    · rw [hgetall_hincrby]
      have known := (keeps jobId).toolCalls
      rw [known]
      exact (keeps jobId).claimed
    · intro other different
      exact Redis.hgetall_hset_of_ne fun same => different (budgetKey_injective same)

theorem Keeps.recordAgentCall {ledger : BudgetLedger} (keeps : Keeps shared ledger store)
    (jobId : UUID) (amounts : AgentCallAmounts) :
    (shared.service store (.recordAgentCall jobId amounts)).1 =
        some (BudgetLedger.service ledger (.recordAgentCall jobId amounts)).1 ∧
      Keeps shared (BudgetLedger.service.next ledger (.recordAgentCall jobId amounts))
        (shared.service.next store (.recordAgentCall jobId amounts)) := by
  by_cases negative : amounts.IsNegative
  · simp only [Service.next, RedisBudgetLedger.service, BudgetLedger.service,
      recordAgentCall_of_negative _ _ negative, if_pos negative]
    exact ⟨trivial, keeps⟩
  · have recorded := (keeps jobId).recorded negative
    simp only [Service.next, RedisBudgetLedger.service, BudgetLedger.service,
      recordAgentCall_of_not_negative _ _ negative, if_neg negative, recorded.usageFrom,
      Option.map_some]
    exact ⟨trivial, keeps.changed recorded fun other different =>
      hgetall_recordScript_of_ne different⟩

/-- One call: both answer the same and the store still keeps the ledger. -/
theorem Keeps.answer {ledger : BudgetLedger} (keeps : Keeps shared ledger store)
    (call : LedgerCall) :
    (shared.service store call).1 = some (BudgetLedger.service ledger call).1 ∧
      Keeps shared (BudgetLedger.service.next ledger call)
        (shared.service.next store call) := by
  cases call with
  | usage jobId =>
      exact ⟨congrArg (Option.map LedgerAnswer.usage) (keeps.usage_eq jobId), keeps⟩
  | remainingCalls jobId budget =>
      refine ⟨?_, keeps⟩
      simp only [RedisBudgetLedger.service, RedisBudgetLedger.remainingCalls,
        keeps.usage_eq, Option.map_some]
      rfl
  | reserveCall jobId budget => exact keeps.reserveCall jobId budget
  | ensureWithin jobId budget =>
      refine ⟨?_, keeps⟩
      simp only [RedisBudgetLedger.service, RedisBudgetLedger.ensureWithin, keeps.usage_eq,
        Option.map_some]
      rfl
  | recordAgentCall jobId amounts => exact keeps.recordAgentCall jobId amounts

theorem keeps_empty : Keeps shared ∅ {} :=
  fun _ => counted_empty

/-- A refused claim and rejected amounts write nothing to the store. -/
theorem Keeps.next_of_refused {ledger : BudgetLedger} (keeps : Keeps shared ledger store)
    {call : LedgerCall}
    (refused : (BudgetLedger.service ledger call).1 = .negative ∨
      ∃ error, (BudgetLedger.service ledger call).1 = .exhausted error) :
    shared.service.next store call = store := by
  cases call with
  | usage jobId => rfl
  | remainingCalls jobId budget => rfl
  | ensureWithin jobId budget => rfl
  | reserveCall jobId budget =>
      by_cases spent : budget.maxToolCalls ≤ (ledger.usage jobId).toolCalls
      · simp [Service.next, RedisBudgetLedger.service, keeps.reserveCall_refused spent]
      · simp [BudgetLedger.service, reserveCall_of_left (Nat.lt_of_not_le spent)] at refused
  | recordAgentCall jobId amounts =>
      by_cases negative : amounts.IsNegative
      · simp [Service.next, RedisBudgetLedger.service, negative]
      · simp [BudgetLedger.service, recordAgentCall_of_not_negative _ _ negative] at refused

theorem Keeps.after {ledger : BudgetLedger} (keeps : Keeps shared ledger store)
    (calls : List LedgerCall) :
    shared.service.answers store calls =
        (BudgetLedger.service.answers ledger calls).map some ∧
      Keeps shared (BudgetLedger.service.after ledger calls)
        (shared.service.after store calls) := by
  induction calls generalizing ledger store with
  | nil => exact ⟨rfl, keeps⟩
  | cons call rest inductionHypothesis =>
      obtain ⟨answered, still⟩ := keeps.answer call
      obtain ⟨others, kept⟩ := inductionHypothesis still
      refine ⟨?_, kept⟩
      rw [Service.answers, Service.answers, List.map_cons, answered, others]

end Shared

/-- The ledger in process memory and the one over Redis answer every sequence of
calls alike; the usage of a job is the sum of what was recorded for it; claims on one
budget are granted in order up to its limit and refused from then on; a refused or
rejected call changes nothing; and calls about other jobs have no part in what is
answered about a job. -/
theorem budgetLedgers_agree (shared : RedisBudgetLedger) (calls : List LedgerCall) :
    shared.service.answers {} calls =
        (BudgetLedger.service.answers ∅ calls).map some ∧
      (∀ jobId, BudgetLedger.usage (BudgetLedger.service.after ∅ calls) jobId =
        recordedFor jobId (calls.zip (BudgetLedger.service.answers ∅ calls))) ∧
      (∀ jobId limit,
        (∀ budget, .reserveCall jobId budget ∈ calls → budget.maxToolCalls = limit) →
        BudgetLedger.service.answersTo (reserves jobId) ∅ calls =
          (List.range (calls.countP (reserves jobId))).map (claimAnswer jobId limit)) ∧
      (∀ call,
        ((BudgetLedger.service (BudgetLedger.service.after ∅ calls) call).1 = .negative ∨
          ∃ error, (BudgetLedger.service (BudgetLedger.service.after ∅ calls) call).1 =
            .exhausted error) →
        BudgetLedger.service.next (BudgetLedger.service.after ∅ calls) call =
            BudgetLedger.service.after ∅ calls ∧
          shared.service.next (shared.service.after {} calls) call =
            shared.service.after {} calls) ∧
      ∀ jobId, BudgetLedger.service.answersTo (·.jobId = jobId) ∅ calls =
        BudgetLedger.service.answers ∅ (calls.filter (·.jobId = jobId)) := by
  have start : Keeps shared ∅ {} := keeps_empty
  obtain ⟨answered, keeps⟩ := start.after calls
  refine ⟨answered, ?_, ?_, ?_, fun jobId => answersTo_job calls⟩
  · intro jobId
    rw [usage_after]
    exact JobUsage.zero_add _
  · intro jobId limit sameLimit
    have unspent : (BudgetLedger.usage ∅ jobId).toolCalls = min 0 limit :=
      (Nat.zero_min limit).symm
    rw [answersTo_reserves calls sameLimit unspent]
    simp only [Nat.zero_add]
  · intro call refused
    exact ⟨next_of_refused refused, keeps.next_of_refused refused⟩

end ResearchPlatform
