import Mathlib.Data.List.Basic

/-!
# At-least-once delivery

An operation over a state is delivered once and then any number of times again, each time
with a stamp of its own, and the last answer is what the caller sees.  Three reasons make
that as good as a single delivery: the first delivery settles the matter, the last one
undoes the others, or only the first delivery that is ready does anything.
-/

namespace ResearchPlatform.Foundation

variable {State Stamp Answer : Type}

/-- Perform an operation at the first stamp, and then at each of the others. -/
def redeliver (perform : State → Stamp → Answer × State) (state : State) (first : Stamp) :
    List Stamp → Answer × State
  | [] => perform state first
  | again :: rest => redeliver perform (perform state first).2 again rest

section Redelivery

variable {perform : State → Stamp → Answer × State} {state : State} {first : Stamp}

@[simp]
theorem redeliver_nil : redeliver perform state first [] = perform state first := rfl

@[simp]
theorem redeliver_cons {again : Stamp} {rest : List Stamp} :
    redeliver perform state first (again :: rest) =
      redeliver perform (perform state first).2 again rest := rfl

/-- The first delivery settles the matter. -/
theorem redeliver_eq_first {rest : List Stamp}
    (settles : ∀ again ∈ rest, perform (perform state first).2 again = perform state first) :
    redeliver perform state first rest = perform state first := by
  induction rest generalizing state first with
  | nil => rfl
  | cons again rest inductionHypothesis =>
      have same := settles again List.mem_cons_self
      rw [redeliver_cons, inductionHypothesis, same]
      intro later member
      rw [same]
      exact settles later (List.mem_cons_of_mem _ member)

/-- The last delivery undoes the others. -/
theorem redeliver_eq_last (rest : List Stamp)
    (undoes : ∀ state stamp again, perform (perform state stamp).2 again = perform state again) :
    redeliver perform state first rest = perform state (rest.getLastD first) := by
  induction rest generalizing state first with
  | nil => rfl
  | cons again rest inductionHypothesis =>
      rw [redeliver_cons, inductionHypothesis, undoes, List.getLastD_cons]

/-- Deliveries that are not ready are all refused alike, and the first that is ready
settles the matter. -/
theorem redeliver_eq_find (ready : Stamp → Bool) (rest : List Stamp)
    (refused : ∀ stamp again, ready stamp = false →
      (perform state stamp).2 = state ∧
        (ready again = false → perform state stamp = perform state again))
    (settles : ∀ stamp again, ready stamp = true →
      perform (perform state stamp).2 again = perform state stamp) :
    redeliver perform state first rest =
      perform state (((first :: rest).find? ready).getD first) := by
  induction rest generalizing first with
  | nil =>
      cases isReady : ready first <;> simp [isReady]
  | cons again rest inductionHypothesis =>
      cases isReady : ready first with
      | true =>
          rw [List.find?_cons_of_pos isReady]
          exact redeliver_eq_first fun later _ => settles first later isReady
      | false =>
          have skipped : (first :: again :: rest).find? ready = (again :: rest).find? ready :=
            List.find?_cons_of_neg (by rw [isReady]; exact Bool.false_ne_true)
          rw [redeliver_cons, (refused first again isReady).1, inductionHypothesis, skipped]
          cases found : (again :: rest).find? ready with
          | some stamp => rfl
          | none =>
              have notReady : ready again = false := by
                have none := List.find?_eq_none.mp found again List.mem_cons_self
                simpa using none
              exact ((refused first again isReady).2 notReady).symm

end Redelivery

end ResearchPlatform.Foundation
