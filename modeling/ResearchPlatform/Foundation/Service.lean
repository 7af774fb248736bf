import ResearchPlatform.Foundation.Machine

/-!
# Services

A service answers a call from its state and moves to the next state.  Two rules
compare what services answer: a simulation relates two services call by call, and
an unwinding relates a run to the same run without some of its calls.  What may
be asked next can depend on what was asked before, which a guard remembers.
-/

namespace ResearchPlatform.Foundation

/-- A state machine with answers. -/
abbrev Service (State Call Answer : Type) : Type :=
  State → Call → Answer × State

namespace Service

variable {State Call Answer : Type}

/-- The state after one call. -/
def next (service : Service State Call Answer) (state : State) (call : Call) : State :=
  (service state call).2

/-- The state after the calls. -/
def after (service : Service State Call Answer) (state : State) (calls : List Call) :
    State :=
  runFrom service.next state calls

/-- What the calls are answered, in order. -/
def answers (service : Service State Call Answer) : State → List Call → List Answer
  | _, [] => []
  | state, call :: rest =>
      (service state call).1 :: service.answers (service.next state call) rest

@[simp]
theorem after_nil (service : Service State Call Answer) (state : State) :
    service.after state [] = state := rfl

@[simp]
theorem after_cons (service : Service State Call Answer) (state : State) (call : Call)
    (rest : List Call) :
    service.after state (call :: rest) = service.after (service.next state call) rest :=
  rfl

theorem after_append (service : Service State Call Answer) (state : State)
    (first second : List Call) :
    service.after state (first ++ second) =
      service.after (service.after state first) second :=
  List.foldl_append ..

@[simp]
theorem length_answers (service : Service State Call Answer) (state : State)
    (calls : List Call) : (service.answers state calls).length = calls.length := by
  induction calls generalizing state with
  | nil => rfl
  | cons call rest inductionHypothesis => simp [answers, inductionHypothesis]

theorem answers_append (service : Service State Call Answer) (state : State)
    (first second : List Call) :
    service.answers state (first ++ second) =
      service.answers state first ++ service.answers (service.after state first) second := by
  induction first generalizing state with
  | nil => rfl
  | cons call rest inductionHypothesis => simp [answers, inductionHypothesis]

/-! ## Guards -/

/-- What was asked so far, as far as it matters for what may be asked next. -/
structure Guard (Seen Call : Type) where
  observe : Seen → Call → Seen
  admits : Seen → Call → Prop

namespace Guard

variable {Seen : Type} (guard : Guard Seen Call)

/-- Each of the calls may be asked when it is asked. -/
def Admits (seen : Seen) (calls : List Call) : Prop :=
  StepsMeet guard.observe guard.admits seen calls

/-- What was seen after the calls. -/
def after (seen : Seen) (calls : List Call) : Seen :=
  runFrom guard.observe seen calls

/-- The guard that looks at each call alone. -/
def each (condition : Call → Prop) : Guard Unit Call where
  observe _ _ := ()
  admits _ call := condition call

theorem admits_each {condition : Call → Prop} {calls : List Call}
    (all : ∀ call ∈ calls, condition call) : (each condition).Admits () calls := by
  induction calls with
  | nil => trivial
  | cons call rest inductionHypothesis =>
      exact ⟨all call List.mem_cons_self,
        inductionHypothesis fun other member => all other (List.mem_cons_of_mem call member)⟩

end Guard

section Rules

variable {Seen : Type} {guard : Guard Seen Call} {service : Service State Call Answer}

/-- The invariant rule. -/
theorem invariant_after {invariant : Seen → State → Prop}
    (kept : ∀ seen state call, invariant seen state → guard.admits seen call →
      invariant (guard.observe seen call) (service.next state call))
    {seen : Seen} {state : State} {calls : List Call} (start : invariant seen state)
    (admitted : guard.Admits seen calls) :
    invariant (guard.after seen calls) (service.after state calls) := by
  induction calls generalizing seen state with
  | nil => exact start
  | cons call rest inductionHypothesis =>
      obtain ⟨first, others⟩ := admitted
      exact inductionHypothesis (kept seen state call start first) others

/-- The simulation rule: what related services answer to one call agrees, and
leaves them related. -/
theorem forall₂_answers {OtherState OtherAnswer : Type}
    {other : Service OtherState Call OtherAnswer}
    {related : Seen → State → OtherState → Prop} {agree : Answer → OtherAnswer → Prop}
    (kept : ∀ seen state otherState call, related seen state otherState →
      guard.admits seen call →
        agree (service state call).1 (other otherState call).1 ∧
          related (guard.observe seen call) (service.next state call)
            (other.next otherState call))
    {seen : Seen} {state : State} {otherState : OtherState} {calls : List Call}
    (start : related seen state otherState) (admitted : guard.Admits seen calls) :
    List.Forall₂ agree (service.answers state calls) (other.answers otherState calls) := by
  induction calls generalizing seen state otherState with
  | nil => exact List.Forall₂.nil
  | cons call rest inductionHypothesis =>
      obtain ⟨first, others⟩ := admitted
      obtain ⟨agrees, still⟩ := kept seen state otherState call start first
      exact List.Forall₂.cons agrees (inductionHypothesis still others)

/-- The simulation rule where each call is judged alone. -/
theorem forall₂_answers_of_each {OtherState OtherAnswer : Type}
    {other : Service OtherState Call OtherAnswer} {condition : Call → Prop}
    {related : State → OtherState → Prop} {agree : Answer → OtherAnswer → Prop}
    (kept : ∀ state otherState call, related state otherState → condition call →
      agree (service state call).1 (other otherState call).1 ∧
        related (service.next state call) (other.next otherState call))
    {state : State} {otherState : OtherState} {calls : List Call}
    (start : related state otherState) (all : ∀ call ∈ calls, condition call) :
    List.Forall₂ agree (service.answers state calls) (other.answers otherState calls) := by
  have guarded : ∀ (seen : Unit) state otherState call, related state otherState →
      (Guard.each condition).admits seen call →
        agree (service state call).1 (other otherState call).1 ∧
          related (service.next state call) (other.next otherState call) :=
    fun _ => kept
  exact forall₂_answers guarded start (Guard.admits_each all)

/-- Related services are left in related states. -/
theorem related_after_of_each {OtherState OtherAnswer : Type}
    {other : Service OtherState Call OtherAnswer} {condition : Call → Prop}
    {related : State → OtherState → Prop}
    (kept : ∀ state otherState call, related state otherState → condition call →
      related (service.next state call) (other.next otherState call))
    {state : State} {otherState : OtherState} {calls : List Call}
    (start : related state otherState) (all : ∀ call ∈ calls, condition call) :
    related (service.after state calls) (other.after otherState calls) := by
  induction calls generalizing state otherState with
  | nil => exact start
  | cons call rest inductionHypothesis =>
      obtain ⟨first, others⟩ := List.forall_mem_cons.mp all
      exact inductionHypothesis (kept state otherState call start first) others

end Rules

/-! ## Calls that do not matter -/

section Unwinding

variable {service : Service State Call Answer} (observed : Call → Bool)

/-- The answers to the observed calls, in order. -/
def answersTo (service : Service State Call Answer) (state : State)
    (calls : List Call) : List Answer :=
  ((calls.zip (service.answers state calls)).filter (observed ·.1)).map Prod.snd

variable {observed}

theorem answersTo_cons (state : State) (call : Call) (rest : List Call) :
    service.answersTo observed state (call :: rest) =
      (if observed call then [(service state call).1] else []) ++
        service.answersTo observed (service.next state call) rest := by
  by_cases isSeen : observed call = true <;> simp [answersTo, answers, isSeen]

/-- The unwinding rule: an observed call keeps the states alike and is answered
alike, and any other call leaves the states alike. -/
theorem answersTo_eq_answers_filter {alike : State → State → Prop}
    (seen : ∀ first second call, alike first second → observed call = true →
      (service first call).1 = (service second call).1 ∧
        alike (service.next first call) (service.next second call))
    (unseen : ∀ first second call, alike first second → observed call = false →
      alike (service.next first call) second)
    {first second : State} (start : alike first second) (calls : List Call) :
    service.answersTo observed first calls =
      service.answers second (calls.filter observed) := by
  induction calls generalizing first second with
  | nil => rfl
  | cons call rest inductionHypothesis =>
      rw [answersTo_cons]
      by_cases isSeen : observed call = true
      · obtain ⟨same, still⟩ := seen first second call start isSeen
        rw [if_pos isSeen, List.filter_cons_of_pos isSeen, same, inductionHypothesis still]
        rfl
      · have isUnseen : observed call = false := Bool.eq_false_iff.mpr isSeen
        have still := unseen first second call start isUnseen
        rw [if_neg isSeen, List.filter_cons_of_neg isSeen, inductionHypothesis still]
        rfl

/-- The states that the two runs end in are alike. -/
theorem alike_after_filter {alike : State → State → Prop}
    (seen : ∀ first second call, alike first second → observed call = true →
      alike (service.next first call) (service.next second call))
    (unseen : ∀ first second call, alike first second → observed call = false →
      alike (service.next first call) second)
    {first second : State} (start : alike first second) (calls : List Call) :
    alike (service.after first calls) (service.after second (calls.filter observed)) := by
  induction calls generalizing first second with
  | nil => exact start
  | cons call rest inductionHypothesis =>
      by_cases isSeen : observed call = true
      · rw [List.filter_cons_of_pos isSeen]
        exact inductionHypothesis (seen first second call start isSeen)
      · rw [List.filter_cons_of_neg isSeen]
        have isUnseen : observed call = false := Bool.eq_false_iff.mpr isSeen
        exact inductionHypothesis (unseen first second call start isUnseen)

end Unwinding

end Service

end ResearchPlatform.Foundation
