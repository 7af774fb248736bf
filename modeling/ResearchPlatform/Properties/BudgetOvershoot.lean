import Mathlib.Algebra.Order.Ring.Rat
import Mathlib.Algebra.BigOperators.Group.List.Basic
import ResearchPlatform.Api.Routes
import ResearchPlatform.Foundation.Interleaving
import ResearchPlatform.Foundation.Outcome
import ResearchPlatform.Properties.BudgetLedgers
import ResearchPlatform.Workflow.Research

/-!
# How far a job overshoots its budget

Agent calls of one job run side by side over one ledger.  Each checks the budget before it
starts and is charged when it has ended, so what matters is whether a call is charged after
another one has used up the budget behind its check.
-/

namespace ResearchPlatform

open Foundation Program

/-! ## Resources -/

/-- What an agent call spends of a budget. -/
inductive Resource where
  | tokens
  | cost
  | activeTime
  deriving DecidableEq

namespace Resource

/-- How much of the resource the usage has. -/
def spentIn : Resource → JobUsage → ℚ
  | tokens, usage => usage.totalTokens
  | cost, usage => usage.costUsd
  | activeTime, usage => usage.activeSeconds

/-- How much of the resource the budget has. -/
def limitOf : Resource → ResearchBudget → ℚ
  | tokens, budget => budget.maxTokens
  | cost, budget => budget.maxCostUsd
  | activeTime, budget => budget.maxRuntimeSeconds

variable (resource : Resource)

@[simp]
theorem spentIn_zero : resource.spentIn 0 = 0 := by
  cases resource <;> rfl

@[simp]
theorem spentIn_add (first second : JobUsage) :
    resource.spentIn (first + second) = resource.spentIn first + resource.spentIn second := by
  cases resource with
  | tokens =>
      simp only [spentIn, JobUsage.add_def, JobUsage.totalTokens]
      push_cast
      ring
  | cost => simp [spentIn, JobUsage.add_def]
  | activeTime => simp [spentIn, JobUsage.add_def]

theorem spentIn_toolCalls (count : Nat) :
    resource.spentIn { toolCalls := count } = 0 := by
  cases resource <;> rfl

theorem limitOf_nonneg (budget : ResearchBudget) : 0 ≤ resource.limitOf budget := by
  cases resource with
  | tokens => exact Nat.cast_nonneg _
  | cost => exact budget.costInRange.1.le
  | activeTime => exact Nat.cast_nonneg _

/-- A check is passed when no resource is used up. -/
theorem lt_limitOf_of_ensureWithin {spent : JobUsage} {jobId : UUID} {budget : ResearchBudget}
    (passed : spent.ensureWithin jobId budget = .ok ()) :
    resource.spentIn spent < resource.limitOf budget := by
  unfold JobUsage.ensureWithin at passed
  split at passed
  · cases passed
  · rename_i tokens
    split at passed
    · cases passed
    · rename_i cost
      split at passed
      · cases passed
      · rename_i time
        cases resource with
        | tokens => exact Nat.cast_lt.mpr (Nat.lt_of_not_le tokens)
        | cost => exact not_le.mp cost
        | activeTime => exact not_le.mp time

end Resource

/-! ## Agent calls over one ledger -/

abbrev AgentEntry : Type := Entry AgentCall AgentCall.Answer AgentFault

/-- What a request does with the ledger.  What an agent answers, and what the clock
reads, is open. -/
inductive LedgerEffect (ledger : BudgetLedger) :
    (call : AgentCall) → Except AgentFault call.Answer → BudgetLedger → Prop
  | ensureWithin (jobId : UUID) (budget : ResearchBudget) :
      LedgerEffect ledger (.ensureWithin jobId budget)
        (((ledger.usage jobId).ensureWithin jobId budget).mapError .budgetExhausted) ledger
  | recorded (jobId : UUID) (amounts : AgentCallAmounts) {total : JobUsage}
      {changed : BudgetLedger}
      (accepted : ledger.recordAgentCall jobId amounts = (some total, changed)) :
      LedgerEffect ledger (.recordAgentCall jobId amounts) (.ok total) changed
  | refused (jobId : UUID) (amounts : AgentCallAmounts) {changed : BudgetLedger}
      (negative : ledger.recordAgentCall jobId amounts = (none, changed)) :
      LedgerEffect ledger (.recordAgentCall jobId amounts)
        (.error (.valueError ⟨"recorded usage cannot be negative"⟩)) changed
  | monotonic (answer : Except AgentFault ℚ) :
      LedgerEffect ledger .monotonic answer ledger
  | kickoff (tools : List CapabilityTool) (message : String)
      (answer : Except AgentFault (AgentTurn tools)) :
      LedgerEffect ledger (.kickoff tools message) answer ledger
  | utcNow (answer : Except AgentFault (Nat → Timestamp)) :
      LedgerEffect ledger .utcNow answer ledger

/-- Any number of agent calls of the job, of any roles.  Tool calls, other jobs and readers
use the ledger beside them. -/
def agentCalls (job : ResearchJob) :
    Setting AgentCall AgentCall.Answer AgentFault BudgetLedger Unit where
  starts program :=
    ∃ (activities : ResearchActivities) (α : Type) (flow : AgentContractFlow α),
      program = (activities.ask job flow).bind fun _ => finish (.ok ())
  effect := LedgerEffect
  outside ledger changed :=
    ∃ call, (∀ amounts, call ≠ .recordAgentCall job.id amounts) ∧
      changed = BudgetLedger.service.next ledger call

/-- What an event charges the job for. -/
def chargeOf (jobId : UUID) : Event AgentCall AgentCall.Answer AgentFault →
    Option AgentCallAmounts
  | ⟨.recordAgentCall other amounts, .ok _⟩ => if other = jobId then some amounts else none
  | _ => none

/-- What the job was charged for, in order. -/
def chargesOf (jobId : UUID) (log : List AgentEntry) : List AgentCallAmounts :=
  log.filterMap fun entry => chargeOf jobId entry.2

/-- How much of the resource the job was charged. -/
def charged (resource : Resource) (jobId : UUID) (log : List AgentEntry) : ℚ :=
  ((chargesOf jobId log).map fun amounts => resource.spentIn amounts.spent).sum

/-- The check of the job's budget, passed. -/
def checkPassed (job : ResearchJob) : Event AgentCall AgentCall.Answer AgentFault :=
  ⟨.ensureWithin job.id job.budget, .ok ()⟩

/-- When a call is charged, and another one was since its check, the job still has some of
the resource left. -/
def Undisturbed (resource : Resource) (job : ResearchJob) (before : List AgentEntry)
    (entry : AgentEntry) : Prop :=
  (chargeOf job.id entry.2).isSome →
    ∀ first since, before = first ++ (entry.1, checkPassed job) :: since →
      chargesOf job.id since ≠ [] →
        charged resource job.id before < resource.limitOf job.budget

/-- The job keeps its budget of the resource, or exceeds it by at most what one of its
calls spent. -/
def ExceedsByOneCall (resource : Resource) (job : ResearchJob) (log : List AgentEntry)
    (ledger : BudgetLedger) : Prop :=
  resource.spentIn (ledger.usage job.id) ≤ resource.limitOf job.budget ∨
    ∃ amounts ∈ chargesOf job.id log,
      resource.spentIn (ledger.usage job.id) - resource.limitOf job.budget ≤
        resource.spentIn amounts.spent

/-! ## A call checks before it is charged -/

/-- An agent call is charged to the job whose check it has passed. -/
def ChargesChecked (job : ResearchJob) (events : List (Event AgentCall AgentCall.Answer AgentFault)) :
    AgentCall → Prop
  | .recordAgentCall jobId _ => jobId = job.id ∧ checkPassed job ∈ events
  | _ => True

/-- The call charges nothing. -/
def AgentCall.ChargesNothing : AgentCall → Prop
  | recordAgentCall .. => False
  | _ => True

section Walk

variable {α : Type} {flow : AgentContractFlow α} {state : ContractState} {message : String}
  {job : ResearchJob}

theorem chargesNothing_attempt {correct : ContractState → String → AgentStep (FlowEnd α)}
    (corrects : ∀ state message, Requests AgentCall.ChargesNothing (correct state message)) :
    Requests AgentCall.ChargesNothing (flow.attempt correct state message) := by
  refine ⟨trivial, ?_⟩
  intro turn
  cases turn with
  | error fault => trivial
  | ok turn =>
      refine ⟨trivial, ?_⟩
      intro now
      cases now with
      | error fault => trivial
      | ok now =>
          change Requests _ (flow.conclude correct (flow.answered state turn)
            (flow.judge (flow.answered state turn) now))
          cases flow.judge (flow.answered state turn) now with
          | error error => trivial
          | ok judgement =>
              cases judgement with
              | accepted value => trivial
              | exhausted failure => trivial
              | rejected failure => exact corrects _ _

/-- Asking an agent charges nothing.  The induction is on the attempts that are left. -/
theorem chargesNothing_kickoff : Requests AgentCall.ChargesNothing flow.kickoff := by
  have each (left : Nat) : ∀ state message,
      Requests AgentCall.ChargesNothing (flow.attempts left state message) := by
    induction left with
    | zero => exact fun state message => chargesNothing_attempt fun _ _ => trivial
    | succ left inductionHypothesis =>
        exact fun state message => chargesNothing_attempt inductionHypothesis
  exact each _ _ _

theorem agentCalls_obeys :
    (agentCalls job).Obeys (ChargesChecked job) fun _ _ => True := by
  rintro program ⟨activities, α, flow, rfl⟩
  apply guarded_bind.mpr
  apply guarded_perform_bind
  · trivial
  · intro within _
    apply guarded_perform_bind
    · trivial
    · intro started _
      apply guarded_bind.mpr
      have asked := @Requests.guarded_keeping _ _ _ _ _ (Monitor.recorder fun _ _ => True)
        (ChargesChecked job) _ [checkPassed job, ⟨.monotonic, .ok started⟩] _
        (checkPassed job ∈ ·) (@chargesNothing_kickoff α flow)
        (fun events call nothing => by cases call <;> trivial)
        (fun events event member => List.mem_append_left _ member) List.mem_cons_self
      apply asked.mono
      intro outcome last checked
      cases outcome with
      | error fault => trivial
      | ok ended =>
          apply guarded_perform_bind
          · trivial
          · intro finished _
            apply guarded_perform_bind
            · exact ⟨rfl, List.mem_append_left _ checked⟩
            · intro recorded _
              cases ended.outcome <;> trivial
            · exact fun _ => trivial
          · exact fun _ => trivial
    · exact fun _ => trivial
  · exact fun _ => trivial

end Walk

/-! ## Runs -/

section Charges

variable {resource : Resource} {jobId other : UUID} {log : List AgentEntry}
  {entry : AgentEntry} {ledger changed : BudgetLedger} {amounts : AgentCallAmounts}

theorem chargesOf_snoc_some (charges : chargeOf jobId entry.2 = some amounts) :
    chargesOf jobId (log ++ [entry]) = chargesOf jobId log ++ [amounts] := by
  simp [chargesOf, List.filterMap_append, charges]

theorem chargesOf_snoc_none (nothing : chargeOf jobId entry.2 = none) :
    chargesOf jobId (log ++ [entry]) = chargesOf jobId log := by
  simp [chargesOf, List.filterMap_append, nothing]

theorem charged_snoc_some (charges : chargeOf jobId entry.2 = some amounts) :
    charged resource jobId (log ++ [entry]) =
      charged resource jobId log + resource.spentIn amounts.spent := by
  simp [charged, chargesOf_snoc_some charges]

theorem charged_snoc_none (nothing : chargeOf jobId entry.2 = none) :
    charged resource jobId (log ++ [entry]) = charged resource jobId log := by
  rw [charged, chargesOf_snoc_none nothing, charged]

/-- What was not charged since counts as before. -/
theorem charged_append_of_nothing {first since : List AgentEntry}
    (nothing : chargesOf jobId since = []) :
    charged resource jobId (first ++ since) = charged resource jobId first := by
  unfold chargesOf at nothing
  rw [charged, charged, chargesOf, List.filterMap_append, nothing, List.append_nil, chargesOf]

/-- Charging one job leaves the others as they are. -/
theorem usage_of_recorded {total : JobUsage}
    (accepted : ledger.recordAgentCall other amounts = (some total, changed)) :
    changed.usage jobId = ledger.usage jobId + if other = jobId then amounts.spent else 0 := by
  by_cases negative : amounts.IsNegative
  · rw [recordAgentCall_of_negative ledger other negative] at accepted
    cases accepted
  · rw [recordAgentCall_of_not_negative ledger other negative] at accepted
    obtain ⟨-, rfl⟩ := Prod.mk.inj accepted
    rw [usage_set]
    by_cases same : jobId = other
    · rw [if_pos same, if_pos same.symm, same]
    · rw [if_neg same, if_neg (Ne.symm same), JobUsage.add_zero]

theorem eq_of_refused (negative : ledger.recordAgentCall other amounts = (none, changed)) :
    changed = ledger := by
  by_cases isNegative : amounts.IsNegative
  · rw [recordAgentCall_of_negative ledger other isNegative] at negative
    exact (Prod.mk.inj negative).2.symm
  · rw [recordAgentCall_of_not_negative ledger other isNegative] at negative
    cases negative

/-- Whatever else is asked of the ledger spends nothing of the job's budget. -/
theorem spentIn_outside {call : LedgerCall}
    (uncharged : ∀ amounts, call ≠ .recordAgentCall jobId amounts) :
    resource.spentIn (BudgetLedger.usage (BudgetLedger.service.next ledger call) jobId) =
      resource.spentIn (ledger.usage jobId) := by
  have nothing (answer : LedgerAnswer) :
      resource.spentIn (recordedBy jobId (call, answer)) = 0 := by
    unfold recordedBy
    split
    · split
      · exact resource.spentIn_toolCalls 1
      · exact resource.spentIn_zero
    · rename_i recorded amounts usage same
      cases same
      split
      · rename_i isJob
        exact absurd (isJob ▸ rfl) (uncharged amounts)
      · exact resource.spentIn_zero
    · exact resource.spentIn_zero
  rw [usage_next, resource.spentIn_add, nothing, add_zero]

end Charges

/-- The ledger has what the job was charged, and each check that passed found some of every
resource left. -/
structure Charged (job : ResearchJob) (log : List AgentEntry) (ledger : BudgetLedger) : Prop where
  counted : ∀ resource : Resource,
    resource.spentIn (ledger.usage job.id) = charged resource job.id log
  checked : ∀ first place since, log = first ++ (place, checkPassed job) :: since →
    ∀ resource : Resource, charged resource job.id first < resource.limitOf job.budget

section Runs

variable {resource : Resource} {job : ResearchJob} {log : List AgentEntry}
  {ledger changed : BudgetLedger} {place : Nat} {call : AgentCall}
  {answer : Except AgentFault call.Answer}

theorem charged_nothing : Charged job [] ∅ where
  counted resource := by
    rw [BudgetLedger.usage, Dict.get?_empty, Option.getD_none, ← JobUsage.zero_def,
      resource.spentIn_zero]
    rfl
  checked first place since impossible := by simp at impossible

/-- The ledger is charged what the request adds to the log. -/
theorem counted_of_effect (place : Nat) (charges : Charged job log ledger)
    (effect : LedgerEffect ledger call answer changed) (resource : Resource) :
    resource.spentIn (changed.usage job.id) =
      charged resource job.id (log ++ [(place, ⟨call, answer⟩)]) := by
  cases effect with
  | @recorded other amounts total _ accepted =>
      rw [usage_of_recorded accepted, resource.spentIn_add, charges.counted resource]
      by_cases same : other = job.id
      · have charge : chargeOf job.id ⟨.recordAgentCall other amounts, .ok total⟩ =
            some amounts := if_pos same
        rw [if_pos same, charged_snoc_some charge]
      · have charge : chargeOf job.id ⟨.recordAgentCall other amounts, .ok total⟩ = none :=
          if_neg same
        rw [if_neg same, resource.spentIn_zero, add_zero, charged_snoc_none charge]
  | @refused other amounts _ negative =>
      rw [eq_of_refused negative, charges.counted resource]
      exact (charged_snoc_none rfl).symm
  | _ =>
      rw [charges.counted resource]
      exact (charged_snoc_none rfl).symm

theorem Charged.step (charges : Charged job log ledger)
    (effect : LedgerEffect ledger call answer changed) :
    Charged job (log ++ [(place, ⟨call, answer⟩)]) changed where
  counted := counted_of_effect place charges effect
  checked := by
    intro first checking since split resource
    rcases split_of_snoc split with ⟨rfl, isLast, -⟩ | ⟨rest, -, earlier⟩
    · rw [← charges.counted resource]
      cases isLast
      generalize passed : Except.ok () = answer at effect
      cases effect with
      | ensureWithin =>
          exact resource.lt_limitOf_of_ensureWithin (mapError_eq_ok.mp passed.symm)
    · exact charges.checked first checking rest earlier resource

/-- A call that is charged found some of the resource left, if its check was not
overtaken. -/
theorem lt_limitOf_of_charge (charges : Charged job log ledger)
    (permitted : checkPassed job ∈ eventsOf place log)
    (undisturbed : ∀ first since, log = first ++ (place, checkPassed job) :: since →
      chargesOf job.id since ≠ [] → charged resource job.id log < resource.limitOf job.budget) :
    resource.spentIn (ledger.usage job.id) < resource.limitOf job.budget := by
  rw [charges.counted resource]
  obtain ⟨⟨checking, event⟩, isChecked, rfl⟩ := List.mem_map.mp permitted
  obtain ⟨inLog, atPlace⟩ := List.mem_filter.mp isChecked
  obtain rfl : checking = place := by simpa using atPlace
  obtain ⟨first, since, split⟩ := List.append_of_mem inLog
  by_cases overtaken : chargesOf job.id since = []
  · have same : charged resource job.id log = charged resource job.id first := by
      rw [split]
      apply charged_append_of_nothing
      simpa [chargesOf, chargeOf, checkPassed] using overtaken
    rw [same]
    exact charges.checked first checking since split resource
  · exact undisturbed first since split overtaken

/-- An undisturbed step overshoots by at most the call that it charges. -/
theorem ExceedsByOneCall.step (exceeds : ExceedsByOneCall resource job log ledger)
    (charges : Charged job log ledger)
    (permitted : ChargesChecked job (eventsOf place log) call)
    (effect : LedgerEffect ledger call answer changed)
    (undisturbed : Undisturbed resource job log (place, ⟨call, answer⟩)) :
    ExceedsByOneCall resource job (log ++ [(place, ⟨call, answer⟩)]) changed := by
  cases charge : chargeOf job.id ⟨call, answer⟩ with
  | none =>
      have same : resource.spentIn (changed.usage job.id) =
          resource.spentIn (ledger.usage job.id) := by
        rw [counted_of_effect place charges effect resource, charged_snoc_none charge,
          charges.counted resource]
      unfold ExceedsByOneCall
      rw [same, chargesOf_snoc_none charge]
      exact exceeds
  | some amounts =>
      have checked : checkPassed job ∈ eventsOf place log := by
        cases call with
        | recordAgentCall jobId spent => exact permitted.2
        | _ => cases charge
      have within := lt_limitOf_of_charge charges checked
        (undisturbed (Option.isSome_of_eq_some charge))
      right
      refine ⟨amounts, ?_, ?_⟩
      · rw [chargesOf_snoc_some charge]
        exact List.mem_append_right _ List.mem_cons_self
      · rw [counted_of_effect place charges effect resource, charged_snoc_some charge,
          ← charges.counted resource]
        linarith

end Runs

/-- A single call is never disturbed. -/
theorem undisturbed_of_single {resource : Resource} {job : ResearchJob} {log : List AgentEntry}
    (single : (chargesOf job.id log).length ≤ 1) : Throughout (Undisturbed resource job) log := by
  intro before entry after split charges first since earlier overtaken
  have counted : (chargesOf job.id log).length =
      (chargesOf job.id first).length + ((chargesOf job.id since).length +
        ((chargesOf job.id after).length + 1)) := by
    obtain ⟨amounts, charge⟩ := Option.isSome_iff_exists.mp charges
    have unpaid : chargeOf job.id (checkPassed job) = none := rfl
    rw [split, earlier]
    simp only [chargesOf, List.filterMap_append, List.filterMap_cons, charge, unpaid,
      List.length_append, List.length_cons]
    omega
  have some : 0 < (chargesOf job.id since).length := List.length_pos_iff.mpr overtaken
  omega

instance (resource : Resource) (job : ResearchJob) (log : List AgentEntry)
    (ledger : BudgetLedger) : Decidable (ExceedsByOneCall resource job log ledger) :=
  inferInstanceAs (Decidable (_ ∨ ∃ amounts ∈ chargesOf job.id log, _ ≤ _))

namespace SilentAgents

/-- A job with a small budget. -/
def job : ResearchJob :=
  (Routes.createJob {} { tenantId := "acme", requesterId := "ada", clearance := .internal }
    { question := sumQuestion, budget := { maxTokens := 1000 } } 1 0).1

def activities : ResearchActivities where
  registry := {}
  python := ⟨id, fun _ => ""⟩
  claims := ⟨"EvidenceClaims", "{}", fun _ => .error "no document", fun _ => .error ⟨"invalid"⟩⟩

def task : ResearchTask := sumTask

/-- The research of a task, by an agent without tools. -/
def call : Program AgentCall AgentCall.Answer AgentFault Unit :=
  (activities.ask job (activities.researchFlow task [])).bind fun _ => finish (.ok ())

/-- A call is charged or refused. -/
def charge (ledger : BudgetLedger) (jobId : UUID) (amounts : AgentCallAmounts) :
    Except AgentFault JobUsage × BudgetLedger :=
  match ledger.recordAgentCall jobId amounts with
  | (some total, changed) => (.ok total, changed)
  | (none, changed) => (.error (.valueError ⟨"recorded usage cannot be negative"⟩), changed)

/-- Each answer is empty and costs 500 tokens. -/
def handler : Handler AgentCall AgentCall.Answer AgentFault BudgetLedger
  | ledger, .ensureWithin jobId budget =>
      (((ledger.usage jobId).ensureWithin jobId budget).mapError .budgetExhausted, ledger)
  | ledger, .monotonic => (.ok 0, ledger)
  | ledger, .kickoff _ _ => (.ok { usage := some { promptTokens := some 500 }, raw := "" }, ledger)
  | ledger, .utcNow => (.ok fun _ => 0, ledger)
  | ledger, .recordAgentCall jobId amounts => charge ledger jobId amounts

theorem charges (ledger : BudgetLedger) (jobId : UUID) (amounts : AgentCallAmounts) :
    LedgerEffect ledger (.recordAgentCall jobId amounts) (charge ledger jobId amounts).1
      (charge ledger jobId amounts).2 := by
  unfold charge
  split
  · rename_i total changed accepted
    exact .recorded jobId amounts accepted
  · rename_i changed negative
    exact .refused jobId amounts negative

theorem handles (ledger : BudgetLedger) (call : AgentCall) :
    (agentCalls job).effect ledger call (handler ledger call).1 (handler ledger call).2 := by
  cases call with
  | ensureWithin jobId budget => exact .ensureWithin jobId budget
  | monotonic => exact .monotonic _
  | kickoff tools message => exact .kickoff tools message _
  | utcNow => exact .utcNow _
  | recordAgentCall jobId amounts => exact charges ledger jobId amounts

/-- One call alone. -/
def alone : Run AgentCall AgentCall.Answer AgentFault BudgetLedger Unit :=
  interpret handler call ∅

/-- What is left of a call once its check was answered. -/
def afterCheck (within : Except AgentFault Unit) :
    Program AgentCall AgentCall.Answer AgentFault Unit :=
  match call with
  | .request (.ensureWithin _ _) resume => resume within
  | program => program

/-- The first call, charged after the second, which it was checked before. -/
def overtaken : Run AgentCall AgentCall.Answer AgentFault BudgetLedger Unit :=
  interpret handler (afterCheck (.ok ())) alone.world

/-- Both calls. -/
def bothLog : List AgentEntry :=
  [(0, checkPassed job)] ++ alone.trace.map (1, ·) ++ overtaken.trace.map (0, ·)

theorem reaches_alone : (agentCalls job).Reaches ∅ (alone.trace.map (0, ·))
    ⟨alone.world, [finish alone.outcome]⟩ := by
  have started : (agentCalls job).Reaches ∅ [] ⟨∅, [] ++ [call]⟩ :=
    Setting.Reaches.nothing.start ⟨activities, _, _, rfl⟩
  exact started.interpret handles call

theorem reaches_both : (agentCalls job).Reaches ∅ bothLog
    ⟨overtaken.world, [finish overtaken.outcome, finish alone.outcome]⟩ := by
  have first : (agentCalls job).Reaches ∅ [] ⟨∅, [] ++ [call]⟩ :=
    Setting.Reaches.nothing.start ⟨activities, _, _, rfl⟩
  have second : (agentCalls job).Reaches ∅ [] ⟨∅, [call] ++ [call]⟩ :=
    first.start ⟨activities, _, _, rfl⟩
  have found : ([call] ++ [call])[0]? =
      some (request (.ensureWithin job.id job.budget) afterCheck) := rfl
  have passed : (agentCalls job).effect ∅ (.ensureWithin job.id job.budget) (.ok ()) ∅ :=
    LedgerEffect.ensureWithin job.id job.budget
  have checked : (agentCalls job).Reaches ∅ [(0, checkPassed job)]
      ⟨∅, [afterCheck (.ok ())] ++ [call]⟩ := second.answer found passed
  have ended := checked.interpret handles call
  exact ended.resume handles rfl

end SilentAgents

open SilentAgents

end ResearchPlatform
