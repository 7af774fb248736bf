import Mathlib.Logic.Relation
import ResearchPlatform.Foundation.Program

/-!
# Programs side by side

A pool runs programs over one world, in any order of their requests.  A program
that is never answered again has stopped where it stands.  A discipline says what
a program may request after what it has been answered, and what it then relies on
in the world; when nothing that is permitted breaks what another program relies
on, the invariant of the discipline holds in every pool reached.
-/

namespace ResearchPlatform.Foundation

open Program Relation

variable {Call : Type} {Answer : Call → Type} {Fault World State α β : Type}

/-! ## Permitted requests -/

namespace Program

/-- From this monitor state, whatever admitted answers the program is given, it only
makes requests that are permitted, and it ends as `ends` says. -/
def Guarded (monitor : Monitor Call Answer Fault State)
    (permits : State → Call → Prop) (program : Program Call Answer Fault α)
    (state : State) (ends : Except Fault α → State → Prop) : Prop :=
  match program with
  | finish outcome => ends outcome state
  | request call resume =>
      permits state call ∧
        ∀ answer, monitor.admits state ⟨call, answer⟩ →
          Guarded monitor permits (resume answer)
            (monitor.observe state ⟨call, answer⟩) ends

variable {monitor : Monitor Call Answer Fault State} {permits : State → Call → Prop}
  {program : Program Call Answer Fault α} {state : State}
  {ends weaker : Except Fault α → State → Prop}

@[simp]
theorem guarded_finish {outcome : Except Fault α} :
    Guarded monitor permits (finish outcome) state ends ↔ ends outcome state := Iff.rfl

theorem Guarded.mono (guarded : Guarded monitor permits program state ends)
    (implies : ∀ outcome last, ends outcome last → weaker outcome last) :
    Guarded monitor permits program state weaker := by
  induction program generalizing state with
  | finish outcome => exact implies outcome state guarded
  | request call resume inductionHypothesis =>
      obtain ⟨permitted, rest⟩ := guarded
      exact ⟨permitted, fun answer admitted =>
        inductionHypothesis answer (rest answer admitted)⟩

/-- The rule for sequences. -/
theorem guarded_bind {next : α → Program Call Answer Fault β}
    {ends : Except Fault β → State → Prop} :
    Guarded monitor permits (program.bind next) state ends ↔
      Guarded monitor permits program state fun outcome middle =>
        match outcome with
        | .ok value => Guarded monitor permits (next value) middle ends
        | .error fault => ends (.error fault) middle := by
  induction program generalizing state with
  | finish outcome =>
      cases outcome with
      | ok value => exact Iff.rfl
      | error fault => exact Iff.rfl
  | request call resume inductionHypothesis =>
      apply and_congr_right'
      exact forall_congr' fun answer =>
        imp_congr_right fun _ => inductionHypothesis answer

/-- The rule for recovered programs. -/
theorem guarded_rescue {recover : Fault → Program Call Answer Fault α} :
    Guarded monitor permits (program.rescue recover) state ends ↔
      Guarded monitor permits program state fun outcome middle =>
        match outcome with
        | .ok value => ends (.ok value) middle
        | .error fault => Guarded monitor permits (recover fault) middle ends := by
  induction program generalizing state with
  | finish outcome =>
      cases outcome with
      | ok value => exact Iff.rfl
      | error fault => exact Iff.rfl
  | request call resume inductionHypothesis =>
      apply and_congr_right'
      exact forall_congr' fun answer =>
        imp_congr_right fun _ => inductionHypothesis answer

/-- The rule for a request followed by a program; a fault ends the sequence. -/
theorem guarded_perform_bind {call : Call}
    {next : Answer call → Program Call Answer Fault β}
    {ends : Except Fault β → State → Prop} (permitted : permits state call)
    (answered : ∀ value, monitor.admits state ⟨call, .ok value⟩ →
      Guarded monitor permits (next value) (monitor.observe state ⟨call, .ok value⟩)
        ends)
    (faulted : ∀ fault, ends (.error fault) (monitor.observe state ⟨call, .error fault⟩)) :
    Guarded monitor permits ((perform call).bind next) state ends := by
  refine ⟨permitted, ?_⟩
  intro answer admitted
  cases answer with
  | ok value => exact answered value admitted
  | error fault => exact faulted fault

/-- A computed value that is followed by a program. -/
theorem guarded_lift_bind {outcome : Except Fault α}
    {next : α → Program Call Answer Fault β} {ends : Except Fault β → State → Prop}
    (computed : ∀ value, outcome = .ok value →
      Guarded monitor permits (next value) state ends)
    (faulted : ∀ fault, ends (.error fault) state) :
    Guarded monitor permits ((lift outcome).bind next) state ends := by
  cases outcome with
  | ok value => exact computed value rfl
  | error fault => exact faulted fault

/-- What holds of a value that is returned; a program that ends in a fault may do so
anywhere. -/
def Returning (good : α → State → Prop) : Except Fault α → State → Prop
  | .ok value, last => good value last
  | .error _, _ => True

/-- The rule for sequences of programs that may fault. -/
theorem Guarded.bind {good : α → State → Prop} {better : β → State → Prop}
    {next : α → Program Call Answer Fault β}
    (first : Guarded monitor permits program state (Returning good))
    (second : ∀ value middle, good value middle →
      Guarded monitor permits (next value) middle (Returning better)) :
    Guarded monitor permits (program.bind next) state (Returning better) := by
  apply guarded_bind.mpr
  apply first.mono
  intro outcome middle returned
  cases outcome with
  | ok value => exact second value middle returned
  | error fault => trivial

/-- A program that only makes calls that are permitted in every state. -/
theorem Requests.guarded {allowed : Call → Prop} (only : Requests allowed program)
    (implies : ∀ state call, allowed call → permits state call)
    (always : ∀ outcome last, ends outcome last) :
    Guarded monitor permits program state ends := by
  induction program generalizing state with
  | finish outcome => exact always outcome state
  | request call resume inductionHypothesis =>
      exact ⟨implies state call only.1, fun answer _ =>
        inductionHypothesis answer (only.2 answer)⟩

/-- In a run, each request was permitted where it was made, and the end is as it should. -/
theorem Guarded.sound {handler : Handler Call Answer Fault World} {world : World}
    (guarded : Guarded monitor permits program state ends)
    (admitted : monitor.Admits state (interpret handler program world).trace) :
    (∀ before call answer after,
      (interpret handler program world).trace = before ++ ⟨call, answer⟩ :: after →
        permits (monitor.after state before) call) ∧
      ends (interpret handler program world).outcome
        (monitor.after state (interpret handler program world).trace) := by
  induction program generalizing state world with
  | finish outcome =>
      refine ⟨?_, guarded⟩
      intro before call answer after impossible
      simp at impossible
  | request asked resume inductionHypothesis =>
      obtain ⟨permitted, rest⟩ := guarded
      obtain ⟨first, others⟩ := admitted
      obtain ⟨each, ended⟩ := inductionHypothesis _ (rest _ first) others
      refine ⟨?_, ended⟩
      intro before call answer after split
      rcases List.cons_eq_append_iff.mp split with ⟨rfl, same⟩ | ⟨earlier, rfl, later⟩
      · cases (List.cons.inj same).1
        exact permitted
      · exact each earlier call answer after later

/-- Such a program keeps what no event takes away from the state. -/
theorem Requests.guarded_keeping {allowed : Call → Prop} {kept : State → Prop}
    (only : Requests allowed program)
    (implies : ∀ state call, allowed call → permits state call)
    (stays : ∀ state event, kept state → kept (monitor.observe state event))
    (start : kept state) :
    Guarded monitor permits program state fun _ last => kept last := by
  induction program generalizing state with
  | finish outcome => exact start
  | request call resume inductionHypothesis =>
      refine ⟨implies state call only.1, ?_⟩
      intro answer _
      exact inductionHypothesis answer (only.2 answer) (stays state _ start)

end Program

/-! ## Pools -/

/-- Programs over one world. -/
structure Pool (Call : Type) (Answer : Call → Type) (Fault World α : Type) where
  world : World
  programs : List (Program Call Answer Fault α)

/-- Which programs may start, what a request does with the world, and what the world
does of itself. -/
structure Setting (Call : Type) (Answer : Call → Type) (Fault World α : Type) where
  starts : Program Call Answer Fault α → Prop
  effect : World → (call : Call) → Except Fault (Answer call) → World → Prop
  outside : World → World → Prop

/-- One step of a pool. -/
inductive Setting.Step (setting : Setting Call Answer Fault World α) :
    Pool Call Answer Fault World α → Pool Call Answer Fault World α → Prop
  | start {world : World} {programs : List (Program Call Answer Fault α)}
      {program : Program Call Answer Fault α} (starts : setting.starts program) :
      Step setting ⟨world, programs⟩ ⟨world, programs ++ [program]⟩
  | answer {world changed : World} {before after : List (Program Call Answer Fault α)}
      {call : Call} {resume : Except Fault (Answer call) → Program Call Answer Fault α}
      {answer : Except Fault (Answer call)}
      (answered : setting.effect world call answer changed) :
      Step setting ⟨world, before ++ request call resume :: after⟩
        ⟨changed, before ++ resume answer :: after⟩
  | outside {world changed : World} {programs : List (Program Call Answer Fault α)}
      (changes : setting.outside world changed) :
      Step setting ⟨world, programs⟩ ⟨changed, programs⟩

/-- Any number of steps. -/
abbrev Setting.Steps (setting : Setting Call Answer Fault World α) :
    Pool Call Answer Fault World α → Pool Call Answer Fault World α → Prop :=
  ReflTransGen setting.Step

/-- A program that runs alone against a handler is a run of the pool, when the
handler answers as the setting allows. -/
theorem Setting.steps_interpret {setting : Setting Call Answer Fault World α}
    {handler : Handler Call Answer Fault World}
    (handles : ∀ world call,
      setting.effect world call (handler world call).1 (handler world call).2)
    (program : Program Call Answer Fault α) (world : World) :
    setting.Steps ⟨world, [program]⟩
      ⟨(interpret handler program world).world,
        [finish (interpret handler program world).outcome]⟩ := by
  induction program generalizing world with
  | finish outcome => exact ReflTransGen.refl
  | request call resume inductionHypothesis =>
      have first : setting.Step ⟨world, [request call resume]⟩
          ⟨(handler world call).2, [resume (handler world call).1]⟩ :=
        @Setting.Step.answer _ _ _ _ _ setting _ _ [] [] call resume _
          (handles world call)
      exact ReflTransGen.head first (inductionHypothesis _ _)

/-! ## Disciplines -/

/-- What programs may request, what each relies on, how they end, and what holds
throughout. -/
structure Discipline (Call : Type) (Answer : Call → Type) (Fault World State α : Type)
    where
  monitor : Monitor Call Answer Fault State
  permits : State → Call → Prop
  relies : State → World → Prop
  ends : Except Fault α → State → Prop
  invariant : World → Prop

namespace Discipline

variable (discipline : Discipline Call Answer Fault World State α)

/-- A program that keeps to the discipline, in a state whose reliance holds. -/
def Follows (world : World) (program : Program Call Answer Fault α) : Prop :=
  ∃ state, discipline.relies state world ∧
    program.Guarded discipline.monitor discipline.permits state discipline.ends

/-- The invariant holds, and every program keeps to the discipline. -/
structure Holds (pool : Pool Call Answer Fault World α) : Prop where
  invariant : discipline.invariant pool.world
  follows : ∀ program ∈ pool.programs, discipline.Follows pool.world program

/-- What a setting has to keep of one program that runs alone. -/
structure KeptAlone (setting : Setting Call Answer Fault World α) : Prop where
  admitted : ∀ {world changed state call answer}, discipline.invariant world →
    discipline.relies state world → setting.effect world call answer changed →
      discipline.monitor.admits state ⟨call, answer⟩
  invariant : ∀ {world changed state call answer}, discipline.invariant world →
    discipline.relies state world → discipline.permits state call →
      setting.effect world call answer changed → discipline.invariant changed
  advance : ∀ {world changed state call answer}, discipline.invariant world →
    discipline.relies state world → discipline.permits state call →
      setting.effect world call answer changed →
        discipline.relies (discipline.monitor.observe state ⟨call, answer⟩) changed
  invariant_outside : ∀ {world changed}, setting.outside world changed →
    discipline.invariant world → discipline.invariant changed
  relies_outside : ∀ {world changed state}, setting.outside world changed →
    discipline.relies state world → discipline.relies state changed

/-- What a setting has to keep of programs that run side by side. -/
structure KeptBy (setting : Setting Call Answer Fault World α) : Prop
    extends discipline.KeptAlone setting where
  start : ∀ {world program}, discipline.invariant world → setting.starts program →
    discipline.Follows world program
  others : ∀ {world changed state call answer other}, discipline.relies state world →
    discipline.permits state call → setting.effect world call answer changed →
      discipline.relies other world → discipline.relies other changed

variable {discipline} {setting : Setting Call Answer Fault World α}
  {pool reached : Pool Call Answer Fault World α} {world changed : World}
  {program : Program Call Answer Fault α}

/-- A program that is answered keeps the discipline. -/
theorem KeptAlone.answer (kept : discipline.KeptAlone setting) {call : Call}
    {resume : Except Fault (Answer call) → Program Call Answer Fault α}
    {answer : Except Fault (Answer call)} (invariant : discipline.invariant world)
    (follows : discipline.Follows world (request call resume))
    (answered : setting.effect world call answer changed) :
    discipline.invariant changed ∧ discipline.Follows changed (resume answer) := by
  obtain ⟨state, relied, permitted, rest⟩ := follows
  exact ⟨kept.invariant invariant relied permitted answered,
    _, kept.advance invariant relied permitted answered,
    rest answer (kept.admitted invariant relied answered)⟩

theorem KeptAlone.outside (kept : discipline.KeptAlone setting)
    (changes : setting.outside world changed)
    (follows : discipline.Follows world program) : discipline.Follows changed program := by
  obtain ⟨state, relied, guarded⟩ := follows
  exact ⟨state, kept.relies_outside changes relied, guarded⟩

/-- A program that runs alone keeps the discipline. -/
theorem KeptAlone.steps (kept : discipline.KeptAlone setting)
    (noStart : ∀ program, ¬ setting.starts program)
    (steps : setting.Steps ⟨world, [program]⟩ reached)
    (invariant : discipline.invariant world) (follows : discipline.Follows world program) :
    ∃ last, reached.programs = [last] ∧ discipline.invariant reached.world ∧
      discipline.Follows reached.world last := by
  induction steps with
  | refl => exact ⟨program, rfl, invariant, follows⟩
  | tail _ step inductionHypothesis =>
      obtain ⟨last, single, invariant, follows⟩ := inductionHypothesis
      cases step with
      | start starts => exact absurd starts (noStart _)
      | answer answered =>
          rcases List.append_eq_singleton_iff.mp single with alone | impossible
          · obtain ⟨rfl, rest⟩ := alone
            obtain ⟨rfl, rfl⟩ := List.cons.inj rest
            exact ⟨_, rfl, kept.answer invariant follows answered⟩
          · cases impossible.2
      | outside changes =>
          exact ⟨last, single, kept.invariant_outside changes invariant,
            kept.outside changes follows⟩

/-- One step of a pool keeps the discipline. -/
theorem KeptBy.step (kept : discipline.KeptBy setting)
    (step : setting.Step pool reached) (holds : discipline.Holds pool) :
    discipline.Holds reached := by
  obtain ⟨invariant, follows⟩ := holds
  cases step with
  | start starts =>
      refine ⟨invariant, ?_⟩
      intro program member
      rcases List.mem_append.mp member with running | started
      · exact follows program running
      · rw [List.mem_singleton.mp started]
        exact kept.start invariant starts
  | answer answered =>
      rename_i world changed before after call resume answer
      have answering := follows (request call resume) (by simp)
      have next := kept.answer invariant answering answered
      have still : ∀ program, discipline.Follows world program →
          discipline.Follows changed program := by
        obtain ⟨state, relied, permitted, -⟩ := answering
        rintro program ⟨other, otherRelied, guarded⟩
        exact ⟨other, kept.others relied permitted answered otherRelied, guarded⟩
      refine ⟨next.1, ?_⟩
      intro program member
      rcases List.mem_append.mp member with earlier | later
      · exact still program (follows program (List.mem_append_left _ earlier))
      · rcases List.mem_cons.mp later with rfl | later
        · exact next.2
        · have running : program ∈ before ++ request call resume :: after :=
            List.mem_append_right _ (List.mem_cons_of_mem _ later)
          exact still program (follows program running)
  | outside changes =>
      exact ⟨kept.invariant_outside changes invariant,
        fun program member => kept.outside changes (follows program member)⟩

/-- Every run of a pool keeps the discipline. -/
theorem KeptBy.steps (kept : discipline.KeptBy setting)
    (steps : setting.Steps pool reached) (holds : discipline.Holds pool) :
    discipline.Holds reached := by
  induction steps with
  | refl => exact holds
  | tail _ step inductionHypothesis => exact kept.step step inductionHypothesis

end Discipline

end ResearchPlatform.Foundation
