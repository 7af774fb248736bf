import ResearchPlatform.Agents.Correction
import ResearchPlatform.Properties.ResponsesContained

/-!
# The two correction loops are one

Against one stream of responses, the loop of `BoundedSchemaCorrection` and the graph of
`AgentContractFlow` both come to what `settle` says: they judge one response after the
other, until one is accepted, one raises what is no `ValueError`, or no attempt is left.
-/

namespace ResearchPlatform

open Foundation Program

/-! ## What a stream of responses settles -/

/-- How a loop ends, the failures until then, and the correction that each question
carries. -/
structure Settlement (α : Type) where
  outcome : Except AgentFault α
  failures : List String
  questions : List (Option String)

/-- Judge the responses from a place on, with so many attempts left.  The next question
carries `last`. -/
def settle {α : Type} (name : String) (limit : Nat) (verdicts : Nat → Except ResponseError α) :
    Nat → Nat → Option String → List String → Settlement α
  | 0, _, _, failures => ⟨.error (.correctionExhausted name limit failures), failures, []⟩
  | left + 1, place, last, failures =>
      match verdicts place with
      | .ok value => ⟨.ok value, failures, [last]⟩
      | .error error =>
          match error.failure? with
          | none => ⟨.error (.response error), failures, [last]⟩
          | some failure =>
              let rest := settle name limit verdicts left (place + 1) (some failure)
                (failures ++ [failure])
              { rest with questions := last :: rest.questions }

/-- A response is refused, with this description. -/
def Refuses {α : Type} (verdicts : Nat → Except ResponseError α) (place : Nat)
    (failure : String) : Prop :=
  ∃ error, verdicts place = .error error ∧ error.failure? = some failure

/-- So many responses from a place on are refused. -/
def RefusesFrom {α : Type} (verdicts : Nat → Except ResponseError α) (place count : Nat) :
    Prop :=
  ∀ index < count, ∃ failure, Refuses verdicts (place + index) failure

/-- A response is accepted, or raises what is not caught. -/
inductive Closes {α : Type} (verdicts : Nat → Except ResponseError α) (place : Nat) :
    Except AgentFault α → Prop
  | accepts {value : α} (accepted : verdicts place = .ok value) :
      Closes verdicts place (.ok value)
  | escapes {error : ResponseError} (raised : verdicts place = .error error)
      (uncaught : error.failure? = none) : Closes verdicts place (.error (.response error))

section Settle

variable {α : Type} {name : String} {limit left place : Nat}
  {verdicts : Nat → Except ResponseError α} {last : Option String} {failures : List String}
  {failure : String} {error : ResponseError} {value : α}

theorem settle_of_closes {outcome : Except AgentFault α}
    (closes : Closes verdicts place outcome) :
    settle name limit verdicts (left + 1) place last failures = ⟨outcome, failures, [last]⟩ := by
  cases closes with
  | accepts accepted => rw [settle, accepted]
  | escapes raised uncaught =>
      rw [settle, raised]
      dsimp only
      rw [uncaught]

theorem settle_of_refused (refused : Refuses verdicts place failure) :
    settle name limit verdicts (left + 1) place last failures =
      { settle name limit verdicts left (place + 1) (some failure) (failures ++ [failure]) with
        questions := last :: (settle name limit verdicts left (place + 1) (some failure)
          (failures ++ [failure])).questions } := by
  obtain ⟨error, raised, described⟩ := refused
  rw [settle, raised]
  dsimp only
  rw [described]

theorem closes_or_refuses (verdicts : Nat → Except ResponseError α) (place : Nat) :
    (∃ outcome, Closes verdicts place outcome) ∨ ∃ failure, Refuses verdicts place failure := by
  cases verdict : verdicts place with
  | ok value => exact Or.inl ⟨_, .accepts verdict⟩
  | error error =>
      cases described : error.failure? with
      | none => exact Or.inl ⟨_, .escapes verdict described⟩
      | some failure => exact Or.inr ⟨failure, error, verdict, described⟩

theorem refusesFrom_succ {count : Nat} :
    RefusesFrom verdicts place (count + 1) ↔
      (∃ failure, Refuses verdicts place failure) ∧ RefusesFrom verdicts (place + 1) count := by
  constructor
  · intro all
    refine ⟨all 0 (Nat.succ_pos count), ?_⟩
    intro index within
    have later := all (index + 1) (Nat.succ_lt_succ within)
    rwa [Nat.add_comm index, ← Nat.add_assoc] at later
  · rintro ⟨first, rest⟩ index within
    cases index with
    | zero => exact first
    | succ index =>
        have later := rest index (Nat.lt_of_succ_lt_succ within)
        rwa [Nat.add_assoc, Nat.add_comm 1] at later

/-- No more questions than attempts. -/
theorem questions_le :
    (settle name limit verdicts left place last failures).questions.length ≤ left := by
  induction left generalizing place last failures with
  | zero => exact Nat.le_refl 0
  | succ left inductionHypothesis =>
      rcases closes_or_refuses verdicts place with ⟨outcome, closes⟩ | ⟨failure, refused⟩
      · rw [settle_of_closes closes]
        exact Nat.le_add_left 1 left
      · rw [settle_of_refused refused]
        exact Nat.succ_le_succ inductionHypothesis

/-- The first question carries what was given, and each later one the failure right
before it. -/
theorem question_cases {index : Nat} {question : Option String}
    (asked : (settle name limit verdicts left place last failures).questions[index]? =
      some question) :
    (index = 0 ∧ question = last) ∨
      ∃ before failure, index = before + 1 ∧ question = some failure ∧
        Refuses verdicts (place + before) failure := by
  induction left generalizing place last failures index with
  | zero => cases asked
  | succ left inductionHypothesis =>
      rcases closes_or_refuses verdicts place with ⟨outcome, closes⟩ | ⟨failure, refused⟩
      · rw [settle_of_closes closes] at asked
        cases index with
        | zero => exact Or.inl ⟨rfl, (Option.some.inj asked).symm⟩
        | succ index => cases asked
      · rw [settle_of_refused refused] at asked
        cases index with
        | zero => exact Or.inl ⟨rfl, (Option.some.inj asked).symm⟩
        | succ index =>
            right
            rw [List.getElem?_cons_succ] at asked
            rcases inductionHypothesis asked with ⟨rfl, rfl⟩ | ⟨before, other, rfl, rfl, later⟩
            · exact ⟨0, failure, rfl, rfl, refused⟩
            · refine ⟨before + 1, other, rfl, rfl, ?_⟩
              rwa [Nat.add_assoc, Nat.add_comm 1] at later

/-- The first response that is not refused closes the loop, within the attempts. -/
theorem settle_closes {index : Nat} {outcome : Except AgentFault α} (within : index < left)
    (refused : RefusesFrom verdicts place index)
    (closes : Closes verdicts (place + index) outcome) :
    (settle name limit verdicts left place last failures).outcome = outcome ∧
      (settle name limit verdicts left place last failures).questions.length = index + 1 := by
  induction index generalizing left place last failures with
  | zero =>
      obtain ⟨left, rfl⟩ := Nat.exists_eq_succ_of_ne_zero (Nat.ne_of_gt within)
      rw [Nat.add_zero] at closes
      rw [settle_of_closes closes]
      exact ⟨rfl, rfl⟩
  | succ index inductionHypothesis =>
      obtain ⟨left, rfl⟩ := Nat.exists_eq_succ_of_ne_zero (Nat.ne_of_gt (Nat.zero_lt_of_lt within))
      obtain ⟨⟨failure, refusedFirst⟩, refusedRest⟩ := refusesFrom_succ.mp refused
      rw [Nat.add_comm index, ← Nat.add_assoc] at closes
      rw [settle_of_refused refusedFirst]
      obtain ⟨ended, counted⟩ :=
        inductionHypothesis (Nat.lt_of_succ_lt_succ within) refusedRest closes
      refine ⟨ended, ?_⟩
      rw [List.length_cons, counted]

/-- When all are refused, the exception lists what was said of each. -/
theorem settle_exhausts (refused : RefusesFrom verdicts place left) :
    ∃ described : List String, described.length = left ∧
      (∀ index failure, described[index]? = some failure →
        Refuses verdicts (place + index) failure) ∧
      (settle name limit verdicts left place last failures).outcome =
        .error (.correctionExhausted name limit (failures ++ described)) ∧
      (settle name limit verdicts left place last failures).questions.length = left := by
  induction left generalizing place last failures with
  | zero =>
      refine ⟨[], rfl, ?_, ?_, rfl⟩
      · intro index failure impossible
        cases impossible
      · rw [List.append_nil, settle]
  | succ left inductionHypothesis =>
      obtain ⟨⟨failure, refusedFirst⟩, refusedRest⟩ := refusesFrom_succ.mp refused
      obtain ⟨described, counted, each, ended, asked⟩ :=
        @inductionHypothesis (place + 1) (some failure) (failures ++ [failure]) refusedRest
      rw [settle_of_refused refusedFirst]
      refine ⟨failure :: described, ?_, ?_, ?_, ?_⟩
      · rw [List.length_cons, counted]
      · intro index other found
        cases index with
        | zero => rwa [← Option.some.inj found]
        | succ index =>
            have later := each index other found
            rwa [Nat.add_assoc, Nat.add_comm 1] at later
      · rw [ended, List.append_assoc, List.singleton_append]
      · rw [List.length_cons, asked]

/-- Some response closes the loop, or all are refused. -/
theorem closes_or_refusesFrom (verdicts : Nat → Except ResponseError α) (place left : Nat) :
    (∃ index < left, RefusesFrom verdicts place index ∧
      ∃ outcome, Closes verdicts (place + index) outcome) ∨ RefusesFrom verdicts place left := by
  induction left generalizing place with
  | zero =>
      refine Or.inr ?_
      intro index impossible
      exact absurd impossible (Nat.not_lt_zero index)
  | succ left inductionHypothesis =>
      rcases closes_or_refuses verdicts place with closes | refused
      · refine Or.inl ⟨0, Nat.succ_pos left, ?_, closes⟩
        intro index impossible
        exact absurd impossible (Nat.not_lt_zero index)
      · rcases inductionHypothesis (place + 1) with ⟨index, within, before, closes⟩ | all
        · rw [Nat.add_assoc, Nat.add_comm 1] at closes
          exact Or.inl ⟨index + 1, Nat.succ_lt_succ within,
            refusesFrom_succ.mpr ⟨refused, before⟩, closes⟩
        · exact Or.inr (refusesFrom_succ.mpr ⟨refused, all⟩)

end Settle

/-! ## Both loops against one stream -/

/-- What an agent responds one time after the other, with any tools, and the readings of the
clock while a response is verified. -/
structure AgentStream where
  turns : Nat → (tools : List CapabilityTool) → AgentTurn tools
  readings : Nat → Nat → Timestamp

namespace AgentStream

variable (stream : AgentStream)

/-- What the tools have noted after so many responses. -/
def ledgerAfter (tools : List CapabilityTool) : Nat → EvidenceLedger
  | 0 => ∅
  | count + 1 => (stream.turns count tools).recordIn (ledgerAfter tools count)

/-- Each question is given the next response; the world counts them. -/
def answers : Handler AgentCall AgentCall.Answer AgentFault Nat
  | count, .kickoff tools _ => (.ok (stream.turns count tools), count + 1)
  | count, .utcNow => (.ok (stream.readings count), count)
  | count, .ensureWithin .. => (.ok (), count)
  | count, .monotonic => (.ok 0, count)
  | count, .recordAgentCall .. => (.ok {}, count)

end AgentStream

namespace AgentContractFlow

variable {α : Type} (flow : AgentContractFlow α) (stream : AgentStream)

/-- The same stream, as what `produce` and `verify` return. -/
def produces : Handler (CorrectionCall α) CorrectionCall.Answer AgentFault Nat
  | count, .produce _ => (.ok (stream.turns count flow.tools).raw, count + 1)
  | count, .verify parsed =>
      (.ok (flow.verify (stream.ledgerAfter flow.tools count) (stream.readings count) parsed),
        count)

/-- The loop with the same number of attempts. -/
def bounded : BoundedSchemaCorrection where
  maxAttempts := flow.maxAttempts
  oneAllowed := flow.oneAllowed

/-- What parsing and verifying the response at a place comes to. -/
def verdict (place : Nat) : Except ResponseError α := do
  let parsed ← flow.contract.parseAgentOutput (stream.turns place flow.tools).raw
  flow.verify (stream.ledgerAfter flow.tools (place + 1)) (stream.readings (place + 1)) parsed
  return parsed

/-- The question that carries a correction. -/
def question : Option String → String
  | none => flow.instructions
  | some failure => flow.correction failure

end AgentContractFlow

/-- The corrections that the questions of `resolve` carry. -/
def correctionsOf {α : Type}
    (trace : List (Event (CorrectionCall α) CorrectionCall.Answer AgentFault)) :
    List (Option String) :=
  trace.filterMap fun event =>
    match event.1 with
    | .produce correction => some correction
    | .verify _ => none

/-- The questions of the flow. -/
def questionsOf (trace : List AgentEvent) : List String :=
  trace.filterMap fun event =>
    match event.1 with
    | .kickoff _ message => some message
    | _ => none

section Loops

variable {α : Type} {flow : AgentContractFlow α} {stream : AgentStream}

/-- The body of the `try` comes to the verdict, and asks nothing. -/
theorem interpret_check {place : Nat} :
    ∃ trace, interpret (flow.produces stream)
        (BoundedSchemaCorrection.check flow.contract (stream.turns place flow.tools).raw)
        (place + 1) = ⟨trace, .ok (flow.verdict stream place), place + 1⟩ ∧
      correctionsOf trace = [] := by
  unfold BoundedSchemaCorrection.check AgentContractFlow.verdict
  cases flow.contract.parseAgentOutput (stream.turns place flow.tools).raw with
  | error error => exact ⟨[], rfl, rfl⟩
  | ok parsed =>
      dsimp only
      rw [interpret_bind]
      dsimp only [perform, interpret, AgentContractFlow.produces]
      have same (verified : Except ResponseError Unit) :
          (verified.map fun _ => parsed) = (verified >>= fun _ => pure parsed) := by
        cases verified <;> rfl
      rw [same]
      refine ⟨_, rfl, ?_⟩
      rfl

/-- The loop settles what the stream settles.  The induction is on the attempts that are
left. -/
theorem loop_settles {left place : Nat} {last : Option String} {failures : List String} :
    let run := interpret (flow.produces stream)
      (flow.bounded.attempts flow.contract left last failures) place
    let settled := settle flow.contract.name flow.maxAttempts (flow.verdict stream) left place
      last failures
    run.outcome = .ok ⟨settled.outcome, settled.failures⟩ ∧
      correctionsOf run.trace = settled.questions := by
  induction left generalizing place last failures with
  | zero => exact ⟨rfl, rfl⟩
  | succ left inductionHypothesis =>
      obtain ⟨trace, checked, silent⟩ := @interpret_check α flow stream place
      have asks (rest : List (Event (CorrectionCall α) CorrectionCall.Answer AgentFault)) :
          correctionsOf (⟨.produce last, .ok (stream.turns place flow.tools).raw⟩ ::
            (trace ++ rest)) = last :: correctionsOf rest := by
        unfold correctionsOf at silent ⊢
        rw [List.filterMap_cons, List.filterMap_append, silent, List.nil_append]
      dsimp only
      rw [BoundedSchemaCorrection.attempts, interpret_bind]
      dsimp only [perform, interpret, AgentContractFlow.produces]
      rw [interpret_bind, checked]
      dsimp only
      rw [List.singleton_append, asks]
      rcases closes_or_refuses (flow.verdict stream) place with
        ⟨outcome, closes⟩ | ⟨failure, refused⟩
      · rw [settle_of_closes closes]
        cases closes with
        | accepts accepted =>
            rw [accepted]
            exact ⟨rfl, rfl⟩
        | escapes raised uncaught =>
            rw [raised]
            dsimp only
            rw [uncaught]
            exact ⟨rfl, rfl⟩
      · rw [settle_of_refused refused]
        obtain ⟨error, raised, described⟩ := refused
        rw [raised]
        dsimp only
        rw [described]
        obtain ⟨ended, asked⟩ := 
          @inductionHypothesis (place + 1) (some failure) (failures ++ [failure])
        exact ⟨ended, congrArg _ asked⟩

/-- The run of a flow ends as settled, after the questions that carry these corrections. -/
def SettlesAs (flow : AgentContractFlow α)
    (run : Run AgentCall AgentCall.Answer AgentFault Nat (FlowEnd α))
    (settled : Settlement α) : Prop :=
  (∃ state, run.outcome = .ok ⟨settled.outcome, state⟩) ∧
    questionsOf run.trace = settled.questions.map flow.question

/-- The state of a flow after so many responses. -/
structure After (flow : AgentContractFlow α) (stream : AgentStream) (place : Nat)
    (state : ContractState) : Prop where
  counted : state.attempts = place
  noted : state.ledger = stream.ledgerAfter flow.tools place

theorem After.answered {place : Nat} {state : ContractState}
    (after : After flow stream place state) :
    After flow stream (place + 1) (flow.answered state (stream.turns place flow.tools)) := by
  constructor
  · change state.attempts + 1 = place + 1
    rw [after.counted]
  · change (stream.turns place flow.tools).recordIn state.ledger = _
    rw [after.noted, AgentStream.ledgerAfter]

/-- `judge` goes by the verdict. -/
theorem judge_eq {place : Nat} {state : ContractState} (after : After flow stream place state) :
    flow.judge (flow.answered state (stream.turns place flow.tools))
        (stream.readings (place + 1)) =
      match flow.verdict stream place with
      | .ok value => .ok (.accepted value)
      | .error (.invalid error) =>
          .ok (flow.refuse (flow.answered state (stream.turns place flow.tools)) error.message)
      | .error (.value message) =>
          .ok (flow.refuse (flow.answered state (stream.turns place flow.tools)) message)
      | .error (.other message) => .error (.other message) := by
  have checked : flow.check (flow.answered state (stream.turns place flow.tools))
      (stream.readings (place + 1)) = flow.verdict stream place := by
    unfold AgentContractFlow.check AgentContractFlow.verdict
    rw [after.answered.noted]
    rfl
  unfold AgentContractFlow.judge
  generalize flow.check _ _ = outcome at checked
  subst checked
  cases flow.verdict stream place with
  | ok value => rfl
  | error error => cases error <;> rfl

/-- One question, one reading of the clock, and what follows the judgement. -/
theorem interpret_attempt {correct : ContractState → String → AgentStep (FlowEnd α)}
    {place : Nat} {state : ContractState} {message : String} :
    interpret stream.answers (flow.attempt correct state message) place =
      let rest := interpret stream.answers
        (flow.conclude correct (flow.answered state (stream.turns place flow.tools))
          (flow.judge (flow.answered state (stream.turns place flow.tools))
            (stream.readings (place + 1)))) (place + 1)
      ⟨⟨.kickoff flow.tools message, .ok (stream.turns place flow.tools)⟩ ::
        ⟨.utcNow, .ok (stream.readings (place + 1))⟩ :: rest.trace, rest.outcome,
          rest.world⟩ := by
  rw [AgentContractFlow.attempt, interpret]
  dsimp only [AgentStream.answers]
  rw [interpret]
  rfl

/-- One attempt settles what the stream settles, when the attempts after it do. -/
theorem attempt_settles {correct : ContractState → String → AgentStep (FlowEnd α)}
    {left place : Nat} {last : Option String} {state : ContractState}
    (after : After flow stream place state) (counted : place + left + 1 = flow.maxAttempts)
    (corrects : ∀ failure state, After flow stream (place + 1) state →
      place + 1 < flow.maxAttempts →
        SettlesAs flow
          (interpret stream.answers (correct state (flow.correction failure)) (place + 1))
          (settle flow.contract.name flow.maxAttempts (flow.verdict stream) left (place + 1)
            (some failure) state.failures)) :
    SettlesAs flow
      (interpret stream.answers (flow.attempt correct state (flow.question last)) place)
      (settle flow.contract.name flow.maxAttempts (flow.verdict stream) (left + 1) place last
        state.failures) := by
  have answered := after.answered
  have sameFailures : (flow.answered state (stream.turns place flow.tools)).failures =
      state.failures := rfl
  generalize now : flow.answered state (stream.turns place flow.tools) = next
    at answered sameFailures
  have judged := judge_eq after
  rw [now] at judged
  have round (rest : Run AgentCall AgentCall.Answer AgentFault Nat (FlowEnd α))
      (concluded : interpret stream.answers (flow.conclude correct next
        (flow.judge next (stream.readings (place + 1)))) (place + 1) = rest) :
      (interpret stream.answers (flow.attempt correct state (flow.question last)) place).outcome =
          rest.outcome ∧
        questionsOf (interpret stream.answers
          (flow.attempt correct state (flow.question last)) place).trace =
            flow.question last :: questionsOf rest.trace := by
    rw [interpret_attempt, now, concluded]
    refine ⟨rfl, ?_⟩
    simp [questionsOf]
  rcases closes_or_refuses (flow.verdict stream) place with
    ⟨outcome, closes⟩ | ⟨failure, refused⟩
  · rw [settle_of_closes closes]
    cases closes with
    | accepts accepted =>
        rw [accepted] at judged
        rw [judged] at round
        obtain ⟨ended, asked⟩ := round _ rfl
        exact ⟨⟨_, ended⟩, asked⟩
    | @escapes error raised uncaught =>
        cases error with
        | other message =>
            rw [raised] at judged
            rw [judged] at round
            obtain ⟨ended, asked⟩ := round _ rfl
            exact ⟨⟨_, ended⟩, asked⟩
        | invalid error => cases uncaught
        | value message => cases uncaught
  · rw [settle_of_refused refused]
    have refuses : flow.judge next (stream.readings (place + 1)) =
        .ok (flow.refuse next failure) := by
      obtain ⟨error, raised, described⟩ := refused
      rw [judged, raised]
      cases error with
      | invalid error =>
          obtain rfl := Option.some.inj described
          rfl
      | value message =>
          obtain rfl := Option.some.inj described
          rfl
      | other message => cases described
    rw [refuses] at round
    by_cases leaves : place + 1 < flow.maxAttempts
    · have rejected : flow.refuse next failure = .rejected failure := by
        apply if_neg
        rw [answered.counted]
        omega
      rw [rejected] at round
      obtain ⟨ended, asked⟩ := round _ rfl
      obtain ⟨⟨last, endedRest⟩, askedRest⟩ :=
        corrects failure { next with failures := next.failures ++ [failure] }
          ⟨answered.counted, answered.noted⟩ leaves
      rw [← sameFailures]
      refine ⟨⟨last, ended.trans endedRest⟩, ?_⟩
      rw [asked, List.map_cons]
      exact congrArg _ askedRest
    · obtain rfl : left = 0 := by omega
      have exhausted : flow.refuse next failure = .exhausted failure := by
        apply if_pos
        rw [answered.counted]
        omega
      rw [exhausted] at round
      obtain ⟨ended, asked⟩ := round _ rfl
      have all : next.attempts = flow.maxAttempts := by
        rw [answered.counted]
        omega
      refine ⟨⟨{ next with failures := next.failures ++ [failure] }, ?_⟩, asked⟩
      rw [ended, settle, ← sameFailures, ← all]
      rfl

/-- The flow settles what the stream settles.  The induction is on the attempts that are
left. -/
theorem attempts_settle {left place : Nat} {last : Option String} {state : ContractState}
    (after : After flow stream place state) (counted : place + left + 1 = flow.maxAttempts) :
    SettlesAs flow
      (interpret stream.answers (flow.attempts left state (flow.question last)) place)
      (settle flow.contract.name flow.maxAttempts (flow.verdict stream) (left + 1) place last
        state.failures) := by
  induction left generalizing place last state with
  | zero =>
      refine attempt_settles after counted ?_
      intro failure state after leaves
      omega
  | succ left inductionHypothesis =>
      refine attempt_settles after counted ?_
      intro failure state after leaves
      exact @inductionHypothesis (place + 1) (some failure) state after (by omega)

end Loops

/-! ## One loop -/

/-- The questions and the outcomes of the two loops agree, and are as the verdicts on the
responses say. -/
structure OneLoop {α : Type} (flow : AgentContractFlow α) (stream : AgentStream)
    (messages : List String) (corrections : List (Option String))
    (flowEnds loopEnds : Except AgentFault α) : Prop where
  sameNumber : messages.length = corrections.length
  bounded : corrections.length ≤ flow.maxAttempts
  closed : ∀ place < flow.maxAttempts, RefusesFrom (flow.verdict stream) 0 place →
    ∀ outcome, Closes (flow.verdict stream) place outcome →
      flowEnds = outcome ∧ loopEnds = outcome ∧ corrections.length = place + 1
  accepted : ∀ value, flowEnds = .ok value ∨ loopEnds = .ok value →
    ∃ place < flow.maxAttempts, RefusesFrom (flow.verdict stream) 0 place ∧
      flow.verdict stream place = .ok value
  exhausted : RefusesFrom (flow.verdict stream) 0 flow.maxAttempts →
    ∃ failures, failures.length = flow.maxAttempts ∧
      (∀ index failure, failures[index]? = some failure →
        Refuses (flow.verdict stream) index failure) ∧
      flowEnds = .error (.correctionExhausted flow.contract.name flow.maxAttempts failures) ∧
      loopEnds = .error (.correctionExhausted flow.contract.name flow.maxAttempts failures)
  first : messages[0]? = some flow.instructions ∧ corrections[0]? = some none
  carriesFailure : ∀ place correction, corrections[place + 1]? = some correction →
    ∃ failure, correction = some failure ∧ Refuses (flow.verdict stream) place failure ∧
      messages[place + 1]? = some (flow.correction failure)

section OneLoop

variable {α : Type} {flow : AgentContractFlow α} {stream : AgentStream}

/-- What is settled from the first response on. -/
abbrev settledBy (flow : AgentContractFlow α) (stream : AgentStream) : Settlement α :=
  settle flow.contract.name flow.maxAttempts (flow.verdict stream) flow.maxAttempts 0 none []

theorem question_first :
    (settledBy flow stream).questions[0]? = some none := by
  obtain ⟨left, some⟩ := Nat.exists_eq_succ_of_ne_zero (Nat.ne_of_gt flow.oneAllowed)
  rw [settledBy, some]
  rcases closes_or_refuses (flow.verdict stream) 0 with ⟨outcome, closes⟩ | ⟨failure, refused⟩
  · rw [settle_of_closes closes]
    rfl
  · rw [settle_of_refused refused]
    rfl

/-- Loops that end as settled, after these questions, are one. -/
theorem oneLoop_of_settled :
    OneLoop flow stream ((settledBy flow stream).questions.map flow.question)
      (settledBy flow stream).questions (settledBy flow stream).outcome
      (settledBy flow stream).outcome := by
  constructor
  · exact List.length_map _
  · exact questions_le
  · intro place within refused outcome closes
    rw [← Nat.zero_add place] at closes
    obtain ⟨ended, asked⟩ := @settle_closes α flow.contract.name flow.maxAttempts
      flow.maxAttempts 0 _ none [] _ _ within refused closes
    exact ⟨ended, ended, asked⟩
  · rintro value either
    have ended : (settledBy flow stream).outcome = .ok value := either.elim id id
    rcases closes_or_refusesFrom (flow.verdict stream) 0 flow.maxAttempts with
      ⟨place, within, refused, outcome, closes⟩ | refused
    · obtain ⟨same, -⟩ := @settle_closes α flow.contract.name flow.maxAttempts
        flow.maxAttempts 0 _ none [] _ _ within refused closes
      rw [Nat.zero_add] at closes
      have isValue : outcome = .ok value := same.symm.trans ended
      rw [isValue] at closes
      cases closes with
      | accepts accepted => exact ⟨place, within, refused, accepted⟩
    · obtain ⟨described, -, -, exhausts, -⟩ := @settle_exhausts α flow.contract.name
        flow.maxAttempts flow.maxAttempts 0 _ none [] refused
      cases ended.symm.trans exhausts
  · intro refused
    obtain ⟨described, counted, each, exhausts, -⟩ := @settle_exhausts α flow.contract.name
      flow.maxAttempts flow.maxAttempts 0 _ none [] refused
    simp only [Nat.zero_add] at each
    exact ⟨described, counted, each, exhausts, exhausts⟩
  · rw [List.getElem?_map, question_first]
    exact ⟨rfl, rfl⟩
  · intro place correction asked
    rcases question_cases asked with ⟨impossible, -⟩ | ⟨before, failure, same, rfl, refused⟩
    · cases impossible
    · obtain rfl := Nat.succ.inj same
      rw [Nat.zero_add] at refused
      refine ⟨failure, rfl, refused, ?_⟩
      rw [List.getElem?_map, asked]
      rfl

end OneLoop

namespace SumResearch

/-- The tools of the researcher. -/
def tools : List CapabilityTool :=
  let built := do
    let principal ← principalFor job .researcher
    buildAgentTools activities.registry principal job.id task.id job.budget
  built.toOption.getD []

/-- The agent calls its tool and answers, each time. -/
def stream : AgentStream where
  turns _ := turn
  readings _ _ := 0

/-- The flow of the researcher. -/
def flowOf (activities : ResearchActivities) : AgentContractFlow EvidenceClaims :=
  activities.researchFlow task tools

/-- The exception that an outcome is. -/
def faultOf {α : Type} : Except AgentFault α → Option AgentFault
  | .ok _ => none
  | .error fault => some fault

/-- The exception of a date without a time zone. -/
def escaped : AgentFault :=
  .response (.other "can't compare offset-naive and offset-aware datetimes")

end SumResearch

open SumResearch

end ResearchPlatform
