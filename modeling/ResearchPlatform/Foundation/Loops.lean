import ResearchPlatform.Foundation.Pool

/-!
# Loops and cleanups

Programs that repeat a body, and programs that clean up however they end, with their rules.
A loop is given the number of turns it may take: the rule for loops shows that it ends before
they run out.
-/

namespace ResearchPlatform.Foundation.Program

variable {Call : Type} {Answer : Call → Type} {Fault α Kept : Type}

/-- Repeat a body that goes on with what it keeps, or ends in a value.  `starved` is raised
when no turns are left. -/
def loop (body : Kept → Program Call Answer Fault (Kept ⊕ α)) (starved : Fault) :
    Nat → Kept → Program Call Answer Fault α
  | 0, _ => raise starved
  | turns + 1, kept => (body kept).bind fun
      | .inl next => loop body starved turns next
      | .inr value => finish (.ok value)

/-- A program as a computation of its own outcome. -/
def attempt : Program Call Answer Fault α → Program Call Answer Fault (Except Fault α)
  | finish outcome => finish (.ok outcome)
  | request call resume => request call fun answer => (resume answer).attempt

/-- Run the cleanup however the program ended.  A fault of the cleanup takes the place of
the outcome. -/
def ensuring (program : Program Call Answer Fault α)
    (cleanup : Program Call Answer Fault Unit) : Program Call Answer Fault α :=
  program.attempt.bind fun outcome => cleanup.bind fun _ => finish outcome

theorem requests_attempt {allowed : Call → Prop} {program : Program Call Answer Fault α}
    (only : Requests allowed program) : Requests allowed program.attempt := by
  induction program with
  | finish outcome => trivial
  | request call resume inductionHypothesis =>
      exact ⟨only.1, fun answer => inductionHypothesis answer (only.2 answer)⟩

theorem requests_ensuring {allowed : Call → Prop} {program : Program Call Answer Fault α}
    {cleanup : Program Call Answer Fault Unit} (first : Requests allowed program)
    (second : Requests allowed cleanup) : Requests allowed (program.ensuring cleanup) := by
  apply requests_bind (requests_attempt first)
  exact fun _ => requests_bind second fun _ => requests_finish

theorem requests_loop {allowed : Call → Prop}
    {body : Kept → Program Call Answer Fault (Kept ⊕ α)} {starved : Fault}
    (turn : ∀ kept, Requests allowed (body kept)) (turns : Nat) (kept : Kept) :
    Requests allowed (loop body starved turns kept) := by
  induction turns generalizing kept with
  | zero => trivial
  | succ turns inductionHypothesis =>
      apply requests_bind (turn kept)
      intro turned
      cases turned with
      | inl next => exact inductionHypothesis next
      | inr value => trivial

theorem guarded_attempt {State : Type} {monitor : Monitor Call Answer Fault State}
    {permits : State → Call → Prop} {program : Program Call Answer Fault α} {state : State}
    {ends : Except Fault (Except Fault α) → State → Prop} :
    Guarded monitor permits program.attempt state ends ↔
      Guarded monitor permits program state fun outcome last => ends (.ok outcome) last := by
  induction program generalizing state with
  | finish outcome => exact Iff.rfl
  | request call resume inductionHypothesis =>
      apply and_congr_right'
      exact forall_congr' fun answer =>
        imp_congr_right fun _ => inductionHypothesis answer

section Ensures

variable {State : Type} {monitor : Monitor Call Answer Fault State}
  {post : Except Fault α → State → Prop}

/-- The rule for loops.  `holds kept state left` is the invariant, with at most `left` more
turns to come. -/
theorem ensures_loop {body : Kept → Program Call Answer Fault (Kept ⊕ α)} {starved : Fault}
    (holds : Kept → State → Nat → Prop)
    (turn : ∀ kept state left, holds kept state left →
      Ensures monitor (body kept) state fun outcome after =>
        match outcome with
        | .ok (.inl next) => ∃ fewer < left, holds next after fewer
        | .ok (.inr value) => post (.ok value) after
        | .error fault => post (.error fault) after)
    {turns left : Nat} (enough : left < turns) {kept : Kept} {state : State}
    (start : holds kept state left) :
    Ensures monitor (loop body starved turns kept) state post := by
  induction turns generalizing kept state left with
  | zero => omega
  | succ turns inductionHypothesis =>
      apply ensures_bind.mpr
      apply (turn kept state left start).mono
      intro outcome after turned
      match outcome, turned with
      | .ok (.inl next), ⟨fewer, less, again⟩ =>
          exact inductionHypothesis (by omega) again
      | .ok (.inr value), ended => exact ended
      | .error fault, ended => exact ended

/-- The rule for loops that may also run out of turns. -/
theorem ensures_loop_of_starved {body : Kept → Program Call Answer Fault (Kept ⊕ α)}
    {starved : Fault} (holds : Kept → State → Prop)
    (turn : ∀ kept state, holds kept state →
      Ensures monitor (body kept) state fun outcome after =>
        match outcome with
        | .ok (.inl next) => holds next after
        | .ok (.inr value) => post (.ok value) after
        | .error fault => post (.error fault) after)
    (stop : ∀ kept state, holds kept state → post (.error starved) state)
    (turns : Nat) {kept : Kept} {state : State} (start : holds kept state) :
    Ensures monitor (loop body starved turns kept) state post := by
  induction turns generalizing kept state with
  | zero => exact stop kept state start
  | succ turns inductionHypothesis =>
      apply ensures_bind.mpr
      apply (turn kept state start).mono
      intro outcome after turned
      match outcome, turned with
      | .ok (.inl next), again => exact inductionHypothesis again
      | .ok (.inr value), ended => exact ended
      | .error fault, ended => exact ended

theorem ensures_attempt {program : Program Call Answer Fault α} {state : State}
    {post : Except Fault (Except Fault α) → State → Prop} :
    Ensures monitor program.attempt state post ↔
      Ensures monitor program state fun outcome last => post (.ok outcome) last := by
  induction program generalizing state with
  | finish outcome => exact Iff.rfl
  | request call resume inductionHypothesis =>
      exact forall_congr' fun answer =>
        imp_congr_right fun _ => inductionHypothesis answer

/-- The rule for programs that clean up. -/
theorem ensures_ensuring {program : Program Call Answer Fault α}
    {cleanup : Program Call Answer Fault Unit} {state : State} :
    Ensures monitor (program.ensuring cleanup) state post ↔
      Ensures monitor program state fun outcome middle =>
        Ensures monitor cleanup middle fun cleaned last =>
          match cleaned with
          | .ok _ => post outcome last
          | .error fault => post (.error fault) last := by
  rw [ensuring, ensures_bind, ensures_attempt]
  constructor
  · intro holds
    apply holds.mono
    intro outcome middle cleans
    apply (ensures_bind.mp cleans).mono
    intro cleaned last ended
    cases cleaned <;> exact ended
  · intro holds
    apply holds.mono
    intro outcome middle cleans
    apply ensures_bind.mpr
    apply cleans.mono
    intro cleaned last ended
    cases cleaned <;> exact ended

end Ensures

end ResearchPlatform.Foundation.Program
