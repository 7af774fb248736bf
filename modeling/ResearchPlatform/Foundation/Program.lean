import Mathlib.Data.List.Basic
import Mathlib.Tactic.Common

/-!
# Programs that call out and may fail

A program is a finite tree of requests.  Each request is answered from outside,
with a value or with a fault, and the program goes on from the answer.  Two
readings of one program are used:

* `Program.interpret` runs it against a handler that keeps a world of its own;
* `Program.Ensures` is its weakest precondition over a monitor of the requests
  and answers, for every answer the monitor admits.

`Program.Ensures.sound` connects the two.  Nothing here depends on what the
requests are.
-/

namespace ResearchPlatform.Foundation

/-- A program over the requests `Call`, whose answer type depends on the
request, and over one type of faults that requests and programs raise. -/
inductive Program (Call : Type) (Answer : Call → Type) (Fault α : Type) : Type
  | finish (outcome : Except Fault α)
  | request (call : Call)
      (resume : Except Fault (Answer call) → Program Call Answer Fault α)

/-- One request together with the answer it was given. -/
abbrev Event (Call : Type) (Answer : Call → Type) (Fault : Type) : Type :=
  (call : Call) × Except Fault (Answer call)

namespace Program

variable {Call : Type} {Answer : Call → Type} {Fault α β : Type}

/-- Sequence two programs; a fault of the first skips the second. -/
def bind : Program Call Answer Fault α →
    (α → Program Call Answer Fault β) → Program Call Answer Fault β
  | finish (.ok value), next => next value
  | finish (.error fault), _ => finish (.error fault)
  | request call resume, next =>
      request call fun answer => (resume answer).bind next

/-- Run `recover` on the fault when the program ends in one. -/
def rescue : Program Call Answer Fault α →
    (Fault → Program Call Answer Fault α) → Program Call Answer Fault α
  | finish (.ok value), _ => finish (.ok value)
  | finish (.error fault), recover => recover fault
  | request call resume, recover =>
      request call fun answer => (resume answer).rescue recover

instance : Monad (Program Call Answer Fault) where
  pure value := finish (.ok value)
  bind := bind

/-- Make one request and return its answer, or raise the fault it met. -/
def perform (call : Call) : Program Call Answer Fault (Answer call) :=
  request call finish

/-- Raise a fault. -/
def raise (fault : Fault) : Program Call Answer Fault α :=
  finish (.error fault)

/-- Continue with a computed value, or raise the fault the computation met. -/
def lift (outcome : Except Fault α) : Program Call Answer Fault α :=
  finish outcome

@[simp]
theorem pure_eq (value : α) :
    (pure value : Program Call Answer Fault α) = finish (.ok value) := rfl

@[simp]
theorem bind_eq (program : Program Call Answer Fault α)
    (next : α → Program Call Answer Fault β) :
    program >>= next = program.bind next := rfl

/-! ## Interpretation -/

/-- A handler answers each request from its world and moves to the next. -/
abbrev Handler (Call : Type) (Answer : Call → Type) (Fault World : Type) : Type :=
  World → (call : Call) → Except Fault (Answer call) × World

/-- What a run leaves: the events in order, the outcome and the last world. -/
structure Run (Call : Type) (Answer : Call → Type) (Fault World α : Type) where
  trace : List (Event Call Answer Fault)
  outcome : Except Fault α
  world : World

section Interpretation

variable {World : Type}

/-- Run a program against a handler.  The recursion is on the program, so every
run ends. -/
def interpret (handler : Handler Call Answer Fault World) :
    Program Call Answer Fault α → World → Run Call Answer Fault World α
  | finish outcome, world => ⟨[], outcome, world⟩
  | request call resume, world =>
      let answered := handler world call
      let rest := interpret handler (resume answered.1) answered.2
      ⟨⟨call, answered.1⟩ :: rest.trace, rest.outcome, rest.world⟩

variable (handler : Handler Call Answer Fault World)

@[simp]
theorem interpret_finish (outcome : Except Fault α) (world : World) :
    interpret handler (finish outcome : Program Call Answer Fault α) world =
      ⟨[], outcome, world⟩ := rfl

/-- A sequence runs its first program and then, if that returned, the second
from the world the first left. -/
theorem interpret_bind (program : Program Call Answer Fault α)
    (next : α → Program Call Answer Fault β) (world : World) :
    interpret handler (program.bind next) world =
      match (interpret handler program world).outcome with
      | .ok value =>
          let rest :=
            interpret handler (next value) (interpret handler program world).world
          ⟨(interpret handler program world).trace ++ rest.trace,
            rest.outcome, rest.world⟩
      | .error fault =>
          ⟨(interpret handler program world).trace, .error fault,
            (interpret handler program world).world⟩ := by
  induction program generalizing world with
  | finish outcome =>
      cases outcome with
      | ok value => rfl
      | error fault => rfl
  | request call resume inductionHypothesis =>
      simp only [bind, interpret]
      rw [inductionHypothesis]
      split <;> rfl

/-- A rescued run is the run of the program, followed by that of the recovery
when the program ended in a fault. -/
theorem interpret_rescue (program : Program Call Answer Fault α)
    (recover : Fault → Program Call Answer Fault α) (world : World) :
    interpret handler (program.rescue recover) world =
      match (interpret handler program world).outcome with
      | .ok value =>
          ⟨(interpret handler program world).trace, .ok value,
            (interpret handler program world).world⟩
      | .error fault =>
          let rest :=
            interpret handler (recover fault) (interpret handler program world).world
          ⟨(interpret handler program world).trace ++ rest.trace,
            rest.outcome, rest.world⟩ := by
  induction program generalizing world with
  | finish outcome =>
      cases outcome with
      | ok value => rfl
      | error fault => rfl
  | request call resume inductionHypothesis =>
      simp only [rescue, interpret]
      rw [inductionHypothesis]
      split <;> rfl

/-- Every answer on a trace was given by the handler. -/
theorem answer_of_mem_trace {program : Program Call Answer Fault α} {world : World}
    {event : Event Call Answer Fault}
    (member : event ∈ (interpret handler program world).trace) :
    ∃ before, event.2 = (handler before event.1).1 := by
  induction program generalizing world with
  | finish outcome => cases member
  | request call resume inductionHypothesis =>
      rcases List.mem_cons.mp member with rfl | later
      · exact ⟨world, rfl⟩
      · exact inductionHypothesis _ later

/-- The program runs from the world to its end, where it returns the value and
leaves the last world. -/
def RunsTo (program : Program Call Answer Fault α) (world : World) (value : α)
    (last : World) : Prop :=
  (interpret handler program world).outcome = .ok value ∧
    (interpret handler program world).world = last

variable {handler} {program : Program Call Answer Fault α} {world last : World}

@[simp]
theorem runsTo_finish {outcome : Except Fault α} {value : α} :
    RunsTo handler (finish outcome) world value last ↔
      outcome = .ok value ∧ world = last := Iff.rfl

@[simp]
theorem runsTo_perform {call : Call} {value : Answer call} :
    RunsTo handler (perform call) world value last ↔
      handler world call = (.ok value, last) :=
  Iff.symm Prod.ext_iff

theorem exists_runsTo (ends : (interpret handler program world).outcome.toOption.isSome) :
    ∃ value last, RunsTo handler program world value last := by
  cases outcome : (interpret handler program world).outcome with
  | ok value => exact ⟨value, _, outcome, rfl⟩
  | error fault =>
      rw [outcome] at ends
      cases ends

/-- A sequence returns when both of its programs do. -/
theorem runsTo_bind {next : α → Program Call Answer Fault β} {value : β} :
    RunsTo handler (program.bind next) world value last ↔
      ∃ first between, RunsTo handler program world first between ∧
        RunsTo handler (next first) between value last := by
  unfold RunsTo
  rw [interpret_bind]
  cases outcome : (interpret handler program world).outcome with
  | ok first =>
      constructor
      · intro returned
        exact ⟨first, _, ⟨rfl, rfl⟩, returned⟩
      · rintro ⟨other, between, ⟨same, rfl⟩, returned⟩
        rw [Except.ok.inj same]
        exact returned
  | error fault =>
      constructor
      · rintro ⟨impossible, -⟩
        cases impossible
      · rintro ⟨_, _, ⟨impossible, -⟩, -⟩
        cases impossible

theorem runsTo_perform_bind {call : Call} {next : Answer call → Program Call Answer Fault β}
    {value : β} :
    RunsTo handler ((perform call).bind next) world value last ↔
      ∃ first between, handler world call = (.ok first, between) ∧
        RunsTo handler (next first) between value last := by
  simp only [runsTo_bind, runsTo_perform]

theorem runsTo_lift_bind {outcome : Except Fault α}
    {next : α → Program Call Answer Fault β} {value : β} :
    RunsTo handler ((lift outcome).bind next) world value last ↔
      ∃ first, outcome = .ok first ∧ RunsTo handler (next first) world value last := by
  cases outcome with
  | ok first =>
      constructor
      · exact fun returned => ⟨first, rfl, returned⟩
      · rintro ⟨other, same, returned⟩
        rw [Except.ok.inj same]
        exact returned
  | error fault =>
      constructor
      · rintro ⟨impossible, -⟩
        cases impossible
      · rintro ⟨_, impossible, -⟩
        cases impossible

end Interpretation

/-! ## Monitors and weakest preconditions -/

/-- A monitor follows a run: `observe` keeps what matters of the events so far
and `admits` says which answers the environment may give in that state. -/
structure Monitor (Call : Type) (Answer : Call → Type) (Fault State : Type) where
  observe : State → Event Call Answer Fault → State
  admits : State → Event Call Answer Fault → Prop

namespace Monitor

variable {State : Type} (monitor : Monitor Call Answer Fault State)

/-- The monitor's state after a trace. -/
def after (state : State) (trace : List (Event Call Answer Fault)) : State :=
  trace.foldl monitor.observe state

/-- Every answer on the trace was one the monitor admitted when it was given. -/
def Admits : State → List (Event Call Answer Fault) → Prop
  | _, [] => True
  | state, event :: rest =>
      monitor.admits state event ∧ Admits (monitor.observe state event) rest

@[simp]
theorem after_nil (state : State) : monitor.after state [] = state := rfl

@[simp]
theorem after_cons (state : State) (event : Event Call Answer Fault)
    (rest : List (Event Call Answer Fault)) :
    monitor.after state (event :: rest) =
      monitor.after (monitor.observe state event) rest := rfl

theorem after_append (state : State)
    (first second : List (Event Call Answer Fault)) :
    monitor.after state (first ++ second) =
      monitor.after (monitor.after state first) second :=
  List.foldl_append ..

theorem admits_append (state : State)
    (first second : List (Event Call Answer Fault)) :
    monitor.Admits state (first ++ second) ↔
      monitor.Admits state first ∧
        monitor.Admits (monitor.after state first) second := by
  induction first generalizing state with
  | nil => simp [Admits]
  | cons event rest inductionHypothesis =>
      simp only [List.cons_append, Admits, after_cons, inductionHypothesis,
        and_assoc]

theorem admits_of_forall {trace : List (Event Call Answer Fault)}
    (each : ∀ state, ∀ event ∈ trace, monitor.admits state event) (state : State) :
    monitor.Admits state trace := by
  induction trace generalizing state with
  | nil => trivial
  | cons event rest inductionHypothesis =>
      refine ⟨each state event List.mem_cons_self, inductionHypothesis ?_ _⟩
      exact fun state event member => each state event (List.mem_cons_of_mem _ member)

end Monitor

section Ensures

variable {State : Type} (monitor : Monitor Call Answer Fault State)

/-- From this monitor state, whatever admitted answers the program is given, it
ends in an outcome and a monitor state that satisfy `post`. -/
def Ensures (program : Program Call Answer Fault α) (state : State)
    (post : Except Fault α → State → Prop) : Prop :=
  match program with
  | finish outcome => post outcome state
  | request call resume =>
      ∀ answer, monitor.admits state ⟨call, answer⟩ →
        Ensures (resume answer) (monitor.observe state ⟨call, answer⟩) post

variable {monitor} {program : Program Call Answer Fault α} {state : State}
  {post weaker : Except Fault α → State → Prop}

@[simp]
theorem ensures_finish {outcome : Except Fault α} :
    Ensures monitor (finish outcome) state post ↔ post outcome state := Iff.rfl

theorem ensures_perform {call : Call}
    {post : Except Fault (Answer call) → State → Prop} :
    Ensures monitor (perform call) state post ↔
      ∀ answer, monitor.admits state ⟨call, answer⟩ →
        post answer (monitor.observe state ⟨call, answer⟩) := Iff.rfl

theorem Ensures.mono (holds : Ensures monitor program state post)
    (implies : ∀ outcome last, post outcome last → weaker outcome last) :
    Ensures monitor program state weaker := by
  induction program generalizing state with
  | finish outcome => exact implies outcome state holds
  | request call resume inductionHypothesis =>
      intro answer admitted
      exact inductionHypothesis answer (holds answer admitted)

/-- The rule for sequences. -/
theorem ensures_bind {next : α → Program Call Answer Fault β}
    {post : Except Fault β → State → Prop} :
    Ensures monitor (program.bind next) state post ↔
      Ensures monitor program state fun outcome middle =>
        match outcome with
        | .ok value => Ensures monitor (next value) middle post
        | .error fault => post (.error fault) middle := by
  induction program generalizing state with
  | finish outcome =>
      cases outcome with
      | ok value => exact Iff.rfl
      | error fault => exact Iff.rfl
  | request call resume inductionHypothesis =>
      exact forall_congr' fun answer =>
        imp_congr_right fun _ => inductionHypothesis answer

/-- The rule for a request followed by a program. -/
theorem ensures_perform_bind {call : Call}
    {next : Answer call → Program Call Answer Fault β}
    {post : Except Fault β → State → Prop} :
    Ensures monitor ((perform call).bind next) state post ↔
      ∀ answer, monitor.admits state ⟨call, answer⟩ →
        match answer with
        | .ok value =>
            Ensures monitor (next value) (monitor.observe state ⟨call, answer⟩) post
        | .error fault =>
            post (.error fault) (monitor.observe state ⟨call, answer⟩) := by
  rw [ensures_bind, ensures_perform]
  apply forall_congr'
  intro answer
  cases answer <;> exact Iff.rfl

/-- The rule for recovered programs. -/
theorem ensures_rescue {recover : Fault → Program Call Answer Fault α} :
    Ensures monitor (program.rescue recover) state post ↔
      Ensures monitor program state fun outcome middle =>
        match outcome with
        | .ok value => post (.ok value) middle
        | .error fault => Ensures monitor (recover fault) middle post := by
  induction program generalizing state with
  | finish outcome =>
      cases outcome with
      | ok value => exact Iff.rfl
      | error fault => exact Iff.rfl
  | request call resume inductionHypothesis =>
      exact forall_congr' fun answer =>
        imp_congr_right fun _ => inductionHypothesis answer

/-- A run whose trace the monitor admits ends as the weakest precondition
promised. -/
theorem Ensures.sound {World : Type} {handler : Handler Call Answer Fault World}
    {world : World} (holds : Ensures monitor program state post)
    (admitted : monitor.Admits state (interpret handler program world).trace) :
    post (interpret handler program world).outcome
      (monitor.after state (interpret handler program world).trace) := by
  induction program generalizing state world with
  | finish outcome => exact holds
  | request call resume inductionHypothesis =>
      obtain ⟨admittedFirst, admittedRest⟩ := admitted
      exact inductionHypothesis _ (holds _ admittedFirst) admittedRest

end Ensures

/-- A run is admitted when an invariant relates the monitor's state to the world
and the handler's answers are admitted wherever it holds. -/
theorem Monitor.admits_interpret {State World : Type}
    {monitor : Monitor Call Answer Fault State}
    {handler : Handler Call Answer Fault World} (related : State → World → Prop)
    (answers : ∀ state world call, related state world →
      monitor.admits state ⟨call, (handler world call).1⟩)
    (preserved : ∀ state world call, related state world →
      related (monitor.observe state ⟨call, (handler world call).1⟩)
        (handler world call).2)
    (program : Program Call Answer Fault α) {state : State} {world : World}
    (start : related state world) :
    monitor.Admits state (interpret handler program world).trace := by
  induction program generalizing state world with
  | finish outcome => trivial
  | request call resume inductionHypothesis =>
      exact ⟨answers state world call start,
        inductionHypothesis _ (preserved state world call start)⟩

/-! ## Recorded traces -/

/-- The monitor whose state is the trace so far. -/
def Monitor.recorder
    (admits : List (Event Call Answer Fault) → Event Call Answer Fault → Prop) :
    Monitor Call Answer Fault (List (Event Call Answer Fault)) where
  observe log event := log ++ [event]
  admits := admits

section Recorder

variable {admits : List (Event Call Answer Fault) → Event Call Answer Fault → Prop}
  {program : Program Call Answer Fault α} {log : List (Event Call Answer Fault)}

theorem Monitor.after_recorder (trace : List (Event Call Answer Fault)) :
    (Monitor.recorder admits).after log trace = log ++ trace := by
  induction trace generalizing log with
  | nil => simp
  | cons event rest inductionHypothesis =>
      rw [Monitor.after_cons, inductionHypothesis]
      simp [Monitor.recorder]

/-- `Ensures.sound` for a recorder: the postcondition is about the trace. -/
theorem Ensures.sound_recorder {World : Type}
    {handler : Handler Call Answer Fault World} {world : World}
    {post : Except Fault α → List (Event Call Answer Fault) → Prop}
    (holds : Ensures (Monitor.recorder admits) program [] post)
    (admitted :
      (Monitor.recorder admits).Admits [] (interpret handler program world).trace) :
    post (interpret handler program world).outcome
      (interpret handler program world).trace := by
  have ended := holds.sound admitted
  rwa [Monitor.after_recorder, List.nil_append] at ended

/-- A recorder that admits everything admits every trace. -/
theorem Monitor.admits_recorder (trace : List (Event Call Answer Fault)) :
    (Monitor.recorder fun _ _ => True).Admits log trace := by
  induction trace generalizing log with
  | nil => trivial
  | cons event rest inductionHypothesis => exact ⟨trivial, inductionHypothesis⟩

/-- What is ensured whatever is answered holds of every run. -/
theorem Ensures.sound_always {World : Type}
    {handler : Handler Call Answer Fault World} {world : World}
    {post : Except Fault α → List (Event Call Answer Fault) → Prop}
    (holds : Ensures (Monitor.recorder fun _ _ => True) program [] post) :
    post (interpret handler program world).outcome
      (interpret handler program world).trace :=
  holds.sound_recorder (Monitor.admits_recorder _)

end Recorder

/-! ## The calls a program can make -/

/-- Whatever is answered, the program only makes calls that are `allowed`. -/
def Requests (allowed : Call → Prop) : Program Call Answer Fault α → Prop
  | finish _ => True
  | request call resume => allowed call ∧ ∀ answer, Requests allowed (resume answer)

section Requests

variable {allowed : Call → Prop} {program : Program Call Answer Fault α}

@[simp]
theorem requests_finish {outcome : Except Fault α} :
    Requests allowed (finish outcome : Program Call Answer Fault α) := trivial

theorem requests_perform {call : Call} :
    Requests allowed (perform call : Program Call Answer Fault (Answer call)) ↔
      allowed call := by
  simp [perform, Requests]

theorem requests_bind {next : α → Program Call Answer Fault β}
    (first : Requests allowed program) (second : ∀ value, Requests allowed (next value)) :
    Requests allowed (program.bind next) := by
  induction program with
  | finish outcome =>
      cases outcome with
      | ok value => exact second value
      | error fault => trivial
  | request call resume inductionHypothesis =>
      exact ⟨first.1, fun answer => inductionHypothesis answer (first.2 answer)⟩

theorem requests_rescue {recover : Fault → Program Call Answer Fault α}
    (first : Requests allowed program) (second : ∀ fault, Requests allowed (recover fault)) :
    Requests allowed (program.rescue recover) := by
  induction program with
  | finish outcome =>
      cases outcome with
      | ok value => trivial
      | error fault => exact second fault
  | request call resume inductionHypothesis =>
      exact ⟨first.1, fun answer => inductionHypothesis answer (first.2 answer)⟩

theorem Requests.mono {wider : Call → Prop} (only : Requests allowed program)
    (implies : ∀ call, allowed call → wider call) : Requests wider program := by
  induction program with
  | finish outcome => trivial
  | request call resume inductionHypothesis =>
      exact ⟨implies call only.1, fun answer => inductionHypothesis answer (only.2 answer)⟩

/-- A monitor that no allowed call moves stays where it is. -/
theorem Requests.ensures_kept {State : Type}
    {monitor : Monitor Call Answer Fault State} {state : State}
    (only : Requests allowed program)
    (kept : ∀ call, allowed call → ∀ answer,
      monitor.observe state ⟨call, answer⟩ = state) :
    Ensures monitor program state fun _ last => last = state := by
  induction program with
  | finish outcome => rfl
  | request call resume inductionHypothesis =>
      intro answer _
      rw [kept call only.1 answer]
      exact inductionHypothesis answer (only.2 answer)

/-- What every allowed call keeps of a monitor's state, the program keeps. -/
theorem Requests.ensures_invariant {State : Type} {monitor : Monitor Call Answer Fault State}
    {invariant : State → Prop} (only : Requests allowed program)
    (kept : ∀ state call, allowed call → invariant state → ∀ answer,
      invariant (monitor.observe state ⟨call, answer⟩))
    {state : State} (start : invariant state) :
    Ensures monitor program state fun _ last => invariant last := by
  induction program generalizing state with
  | finish outcome => exact start
  | request call resume inductionHypothesis =>
      intro answer _
      exact inductionHypothesis answer (only.2 answer) (kept state call only.1 start answer)

/-- A program whose calls leave the world as it is does so itself. -/
theorem Requests.world_eq {World : Type} {handler : Handler Call Answer Fault World}
    (only : Requests allowed program)
    (kept : ∀ world call, allowed call → (handler world call).2 = world)
    (world : World) : (interpret handler program world).world = world := by
  induction program generalizing world with
  | finish outcome => rfl
  | request call resume inductionHypothesis =>
      have first : (handler world call).2 = world := kept world call only.1
      change (interpret handler _ (handler world call).2).world = world
      rw [inductionHypothesis _ (only.2 _), first]

/-- Every call on a trace is allowed. -/
theorem Requests.allowed_of_mem {World : Type} {handler : Handler Call Answer Fault World}
    {world : World} {event : Event Call Answer Fault} (only : Requests allowed program)
    (member : event ∈ (interpret handler program world).trace) : allowed event.1 := by
  induction program generalizing world with
  | finish outcome => cases member
  | request call resume inductionHypothesis =>
      rcases List.mem_cons.mp member with rfl | later
      · exact only.1
      · exact inductionHypothesis _ (only.2 _) later

/-- A program adds only allowed calls to what a recorder has kept. -/
theorem Requests.ensures
    {admits : List (Event Call Answer Fault) → Event Call Answer Fault → Prop}
    (only : Requests allowed program) (log : List (Event Call Answer Fault)) :
    Ensures (Monitor.recorder admits) program log fun _ after =>
      ∃ added, (∀ event ∈ added, allowed event.1) ∧ after = log ++ added := by
  induction program generalizing log with
  | finish outcome => exact ⟨[], by simp, by simp⟩
  | request call resume inductionHypothesis =>
      intro answer admitted
      have rest := inductionHypothesis answer (only.2 answer) (log ++ [⟨call, answer⟩])
      apply rest.mono
      intro _ after extended
      obtain ⟨added, allAllowed, rfl⟩ := extended
      refine ⟨⟨call, answer⟩ :: added, ?_, by simp⟩
      intro event member
      rcases List.mem_cons.mp member with rfl | later
      · exact only.1
      · exact allAllowed event later

end Requests

/-! ## What a program can return -/

/-- Whatever is answered, a value the program returns satisfies `post`. -/
def Returns (program : Program Call Answer Fault α) (post : α → Prop) : Prop :=
  match program with
  | finish (.ok value) => post value
  | finish (.error _) => True
  | request _ resume => ∀ answer, Returns (resume answer) post

section Returns

variable {program : Program Call Answer Fault α} {post : α → Prop}

theorem returns_of_forall (always : ∀ value, post value) : Returns program post := by
  induction program with
  | finish outcome =>
      cases outcome with
      | ok value => exact always value
      | error fault => trivial
  | request call resume inductionHypothesis =>
      exact fun answer => inductionHypothesis answer

theorem Returns.mono {weaker : α → Prop} (holds : Returns program post)
    (implies : ∀ value, post value → weaker value) : Returns program weaker := by
  induction program with
  | finish outcome =>
      cases outcome with
      | ok value => exact implies value holds
      | error fault => trivial
  | request call resume inductionHypothesis =>
      exact fun answer => inductionHypothesis answer (holds answer)

theorem returns_lift {outcome : Except Fault α} :
    Returns (lift outcome : Program Call Answer Fault α) post ↔
      ∀ value, outcome = .ok value → post value := by
  cases outcome with
  | ok value => simp [lift, Returns]
  | error fault => simp [lift, Returns]

/-- A sequence returns what its second program returns. -/
theorem returns_bind {next : α → Program Call Answer Fault β} {post : β → Prop} :
    Returns (program.bind next) post ↔
      Returns program fun value => Returns (next value) post := by
  induction program with
  | finish outcome =>
      cases outcome with
      | ok value => exact Iff.rfl
      | error fault => exact Iff.rfl
  | request call resume inductionHypothesis =>
      exact forall_congr' fun answer => inductionHypothesis answer

/-- A sequence whose second program always returns what is wanted. -/
theorem returns_bind_of_forall {next : α → Program Call Answer Fault β}
    {post : β → Prop} (always : ∀ value, Returns (next value) post) :
    Returns (program.bind next) post :=
  returns_bind.mpr (returns_of_forall always)

theorem Returns.sound {World : Type} {handler : Handler Call Answer Fault World}
    {world : World} (holds : Returns program post) {value : α}
    (returned : (interpret handler program world).outcome = .ok value) :
    post value := by
  induction program generalizing world with
  | finish outcome =>
      cases returned
      exact holds
  | request call resume inductionHypothesis =>
      exact inductionHypothesis _ (holds _) returned

end Returns

/-! ## What a program returns under a monitor -/

/-- Whatever admitted answers it is given, a value that the program returns satisfies
`post`. -/
def Promises {State : Type} (monitor : Monitor Call Answer Fault State)
    (program : Program Call Answer Fault α) (state : State) (post : α → Prop) : Prop :=
  Ensures monitor program state fun outcome _ => ∀ value, outcome = .ok value → post value

section Promises

variable {State : Type} {monitor : Monitor Call Answer Fault State}
  {program : Program Call Answer Fault α} {state : State} {post : α → Prop}

theorem promises_of_forall (always : ∀ value, post value) :
    Promises monitor program state post := by
  induction program generalizing state with
  | finish outcome => exact fun value _ => always value
  | request call resume inductionHypothesis =>
      exact fun answer _ => inductionHypothesis answer

theorem promises_finish {outcome : Except Fault α} :
    Promises monitor (finish outcome) state post ↔
      ∀ value, outcome = .ok value → post value := Iff.rfl

theorem promises_lift {outcome : Except Fault α} :
    Promises monitor (lift outcome) state post ↔
      ∀ value, outcome = .ok value → post value := Iff.rfl

/-- The rule for sequences. -/
theorem promises_bind {next : α → Program Call Answer Fault β} {middle : α → Prop}
    {post : β → Prop} (first : Promises monitor program state middle)
    (second : ∀ value, middle value → ∀ state, Promises monitor (next value) state post) :
    Promises monitor (program.bind next) state post := by
  apply ensures_bind.mpr
  apply first.mono
  intro outcome between satisfied
  cases outcome with
  | ok value => exact second value (satisfied value rfl) between
  | error fault => simp

/-- The rule for a sequence whose second program keeps its promise anyway. -/
theorem promises_bind_of_forall {next : α → Program Call Answer Fault β} {post : β → Prop}
    (always : ∀ value state, Promises monitor (next value) state post) :
    Promises monitor (program.bind next) state post :=
  promises_bind (promises_of_forall fun _ => trivial) fun value _ => always value

/-- The rule for a request followed by a program. -/
theorem promises_perform_bind {call : Call} {next : Answer call → Program Call Answer Fault β}
    {post : β → Prop}
    (answered : ∀ value, monitor.admits state ⟨call, .ok value⟩ →
      ∀ state, Promises monitor (next value) state post) :
    Promises monitor ((perform call).bind next) state post := by
  apply ensures_perform_bind.mpr
  intro answer admitted
  cases answer with
  | ok value => exact answered value admitted _
  | error fault => simp

/-- What a program promises under a monitor that admits everything, it returns. -/
theorem returns_of_promises (admitted : ∀ state event, monitor.admits state event)
    (holds : Promises monitor program state post) : Returns program post := by
  induction program generalizing state with
  | finish outcome =>
      cases outcome with
      | ok value => exact holds value rfl
      | error fault => trivial
  | request call resume inductionHypothesis =>
      exact fun answer => inductionHypothesis answer (holds answer (admitted state _))

/-- The rule for recovered programs. -/
theorem promises_rescue {recover : Fault → Program Call Answer Fault α}
    (first : Promises monitor program state post)
    (second : ∀ fault state, Promises monitor (recover fault) state post) :
    Promises monitor (program.rescue recover) state post := by
  apply ensures_rescue.mpr
  apply first.mono
  intro outcome between satisfied
  cases outcome with
  | ok value => exact satisfied
  | error fault => exact second fault between

end Promises

end Program

end ResearchPlatform.Foundation
