import ResearchPlatform.Foundation.Pool
import ResearchPlatform.Foundation.Splits

/-!
# What happened in a pool

A run of a pool with the log of the requests that were answered, each with the place
of the program that made it.  What a program may request is said by its own part of
the log; what holds of the world is said by the whole of it.
-/

namespace ResearchPlatform.Foundation

open Program

variable {Call : Type} {Answer : Call → Type} {Fault World α : Type}

/-- A request that was answered, with the place of its program. -/
abbrev Entry (Call : Type) (Answer : Call → Type) (Fault : Type) : Type :=
  Nat × Event Call Answer Fault

/-- What one program was answered, in order. -/
def eventsOf (place : Nat) (log : List (Entry Call Answer Fault)) :
    List (Event Call Answer Fault) :=
  (log.filter (·.1 = place)).map Prod.snd

/-- Each entry of the log meets the condition, which sees what was logged before it. -/
def Throughout (condition : List (Entry Call Answer Fault) → Entry Call Answer Fault → Prop)
    (log : List (Entry Call Answer Fault)) : Prop :=
  ∀ before entry after, log = before ++ entry :: after → condition before entry

section Logs

variable {place other : Nat} {log before after : List (Entry Call Answer Fault)}
  {entry : Entry Call Answer Fault} {event : Event Call Answer Fault}
  {condition : List (Entry Call Answer Fault) → Entry Call Answer Fault → Prop}

@[simp]
theorem eventsOf_nil : eventsOf place ([] : List (Entry Call Answer Fault)) = [] := rfl

theorem eventsOf_snoc_self :
    eventsOf place (log ++ [(place, event)]) = eventsOf place log ++ [event] := by
  simp [eventsOf]

theorem eventsOf_snoc_of_ne (different : other ≠ place) :
    eventsOf place (log ++ [(other, event)]) = eventsOf place log := by
  simp [eventsOf, different]

/-- Where a program was answered, the log can be split. -/
theorem exists_split_of_eventsOf {first last : List (Event Call Answer Fault)}
    (split : eventsOf place log = first ++ event :: last) :
    ∃ before after, log = before ++ (place, event) :: after ∧ eventsOf place before = first := by
  induction log generalizing first with
  | nil => simp at split
  | cons head rest inductionHypothesis =>
      obtain ⟨made, answered⟩ := head
      by_cases same : made = place
      · subst same
        have cons (log : List (Entry Call Answer Fault)) :
            eventsOf made ((made, answered) :: log) = answered :: eventsOf made log := by
          simp [eventsOf]
        rw [cons] at split
        rcases List.cons_eq_append_iff.mp split with ⟨rfl, here⟩ | ⟨others, rfl, later⟩
        · obtain ⟨rfl, -⟩ := List.cons.inj here
          exact ⟨[], rest, rfl, rfl⟩
        · obtain ⟨before, after, rfl, own⟩ := inductionHypothesis later
          exact ⟨(made, answered) :: before, after, rfl, by rw [cons, own]⟩
      · have skip (log : List (Entry Call Answer Fault)) :
            eventsOf place ((made, answered) :: log) = eventsOf place log := by
          simp [eventsOf, same]
        rw [skip] at split
        obtain ⟨before, after, rfl, own⟩ := inductionHypothesis split
        exact ⟨(made, answered) :: before, after, rfl, by rw [skip, own]⟩

theorem eventsOf_eq_nil (absent : ∀ entry ∈ log, entry.1 ≠ place) :
    eventsOf place log = [] := by
  rw [eventsOf, List.map_eq_nil_iff, List.filter_eq_nil_iff]
  intro entry member
  simpa using absent entry member

theorem throughout_snoc :
    Throughout condition (log ++ [entry]) ↔ Throughout condition log ∧ condition log entry := by
  constructor
  · intro all
    refine ⟨?_, all log entry [] rfl⟩
    intro before earlier after split
    apply all before earlier (after ++ [entry])
    rw [split, List.append_assoc, List.cons_append]
  · rintro ⟨all, last⟩ before earlier after split
    rcases split_of_snoc split with ⟨rfl, rfl, -⟩ | ⟨rest, -, rfl⟩
    · exact last
    · exact all before earlier rest rfl

end Logs

/-! ## Runs -/

/-- What can be logged, and the pool that is reached, from an empty one. -/
inductive Setting.Reaches (setting : Setting Call Answer Fault World α) (initial : World) :
    List (Entry Call Answer Fault) → Pool Call Answer Fault World α → Prop
  | nothing : Reaches setting initial [] ⟨initial, []⟩
  | start {log : List (Entry Call Answer Fault)} {world : World}
      {programs : List (Program Call Answer Fault α)} {program : Program Call Answer Fault α}
      (reached : Reaches setting initial log ⟨world, programs⟩)
      (starts : setting.starts program) :
      Reaches setting initial log ⟨world, programs ++ [program]⟩
  | answer {log : List (Entry Call Answer Fault)} {world changed : World}
      {programs : List (Program Call Answer Fault α)} {place : Nat} {call : Call}
      {resume : Except Fault (Answer call) → Program Call Answer Fault α}
      {answer : Except Fault (Answer call)}
      (reached : Reaches setting initial log ⟨world, programs⟩)
      (running : programs[place]? = some (request call resume))
      (answered : setting.effect world call answer changed) :
      Reaches setting initial (log ++ [(place, ⟨call, answer⟩)])
        ⟨changed, programs.set place (resume answer)⟩
  | outside {log : List (Entry Call Answer Fault)} {world changed : World}
      {programs : List (Program Call Answer Fault α)}
      (reached : Reaches setting initial log ⟨world, programs⟩)
      (changes : setting.outside world changed) :
      Reaches setting initial log ⟨changed, programs⟩

namespace Setting.Reaches

variable {setting : Setting Call Answer Fault World α} {initial : World}
  {log : List (Entry Call Answer Fault)} {pool : Pool Call Answer Fault World α}

/-- Only programs of the pool were answered. -/
theorem place_lt (reaches : setting.Reaches initial log pool) :
    ∀ entry ∈ log, entry.1 < pool.programs.length := by
  induction reaches with
  | nothing => simp
  | start reached starts inductionHypothesis =>
      intro entry member
      rw [List.length_append]
      exact Nat.lt_add_right _ (inductionHypothesis entry member)
  | answer reached running answered inductionHypothesis =>
      intro entry member
      rw [List.length_set]
      rcases List.mem_append.mp member with earlier | last
      · exact inductionHypothesis entry earlier
      · rw [List.mem_singleton.mp last]
        exact (List.getElem?_eq_some_iff.mp running).1
  | outside reached changes inductionHypothesis => exact inductionHypothesis

/-- A program of the pool runs on to its end, and the others stand still meanwhile. -/
theorem resume {handler : Handler Call Answer Fault World}
    (handles : ∀ world call,
      setting.effect world call (handler world call).1 (handler world call).2)
    {program : Program Call Answer Fault α} {world : World}
    {programs : List (Program Call Answer Fault α)} {place : Nat}
    (found : programs[place]? = some program)
    (reached : setting.Reaches initial log ⟨world, programs⟩) :
    setting.Reaches initial
      (log ++ (Program.interpret handler program world).trace.map (place, ·))
      ⟨(Program.interpret handler program world).world,
        programs.set place (finish (Program.interpret handler program world).outcome)⟩ := by
  induction program generalizing log world programs with
  | finish outcome =>
      obtain ⟨within, same⟩ := List.getElem?_eq_some_iff.mp found
      have still : programs.set place (finish outcome) = programs := by
        rw [← same, List.set_getElem_self]
      rw [interpret_finish, List.map_nil, List.append_nil, still]
      exact reached
  | request call resume inductionHypothesis =>
      have first := reached.answer found (handles world call)
      have within := (List.getElem?_eq_some_iff.mp found).1
      have rest := inductionHypothesis _ (List.getElem?_set_self within) first
      rw [List.append_assoc, List.set_set] at rest
      exact rest

/-- A program that was started last runs to its end. -/
theorem interpret {world : World} {programs : List (Program Call Answer Fault α)}
    {handler : Handler Call Answer Fault World}
    (handles : ∀ world call,
      setting.effect world call (handler world call).1 (handler world call).2)
    (program : Program Call Answer Fault α)
    (reached : setting.Reaches initial log ⟨world, programs ++ [program]⟩) :
    setting.Reaches initial
      (log ++ (Program.interpret handler program world).trace.map (programs.length, ·))
      ⟨(Program.interpret handler program world).world,
        programs ++ [finish (Program.interpret handler program world).outcome]⟩ := by
  have found : (programs ++ [program])[programs.length]? = some program := by simp
  have resumed := reached.resume handles found
  rwa [List.set_append_right _ _ (Nat.le_refl _), Nat.sub_self, List.set_cons_zero] at resumed

end Setting.Reaches

/-! ## What programs keep to -/

/-- Every program that may start only makes permitted requests, whatever it is answered,
and ends as it should. -/
def Setting.Obeys (setting : Setting Call Answer Fault World α)
    (permits : List (Event Call Answer Fault) → Call → Prop)
    (ends : Except Fault α → List (Event Call Answer Fault) → Prop) : Prop :=
  ∀ program, setting.starts program →
    Guarded (Monitor.recorder fun _ _ => True) permits program [] ends

namespace Setting.Reaches

variable {setting : Setting Call Answer Fault World α} {initial : World}
  {log before after : List (Entry Call Answer Fault)}
  {pool : Pool Call Answer Fault World α} {place : Nat} {call : Call}
  {answer : Except Fault (Answer call)}
  {permits : List (Event Call Answer Fault) → Call → Prop}
  {ends : Except Fault α → List (Event Call Answer Fault) → Prop}

/-- A program of the pool goes on from what it was answered. -/
theorem guarded (reaches : setting.Reaches initial log pool)
    (obeys : setting.Obeys permits ends) {program : Program Call Answer Fault α}
    (found : pool.programs[place]? = some program) :
    Guarded (Monitor.recorder fun _ _ => True) permits program (eventsOf place log)
      ends := by
  induction reaches generalizing place program with
  | nothing => cases found
  | @start log world programs started reached starts inductionHypothesis =>
      by_cases running : place < programs.length
      · rw [List.getElem?_append_left running] at found
        exact inductionHypothesis found
      · have atEnd := Nat.le_of_not_lt running
        rw [List.getElem?_append_right atEnd] at found
        have isStarted := List.mem_singleton.mp (List.mem_of_getElem? found)
        have unanswered : eventsOf place log = [] := by
          apply eventsOf_eq_nil
          intro entry member
          exact Nat.ne_of_lt (Nat.lt_of_lt_of_le (reached.place_lt entry member) atEnd)
        rw [isStarted, unanswered]
        exact obeys started starts
  | @answer log world changed programs answered call resume answer reached running effect
      inductionHypothesis =>
      by_cases same : answered = place
      · subst same
        rw [eventsOf_snoc_self]
        have isResumed : program = resume answer := by
          rw [List.getElem?_set_self (List.getElem?_eq_some_iff.mp running).1] at found
          exact (Option.some.inj found).symm
        rw [isResumed]
        exact (inductionHypothesis running).2 answer trivial
      · rw [eventsOf_snoc_of_ne same]
        rw [List.getElem?_set_ne same] at found
        exact inductionHypothesis found
  | outside reached changes inductionHypothesis => exact inductionHypothesis found

/-- A program that has ended ended as it should. -/
theorem ended (reaches : setting.Reaches initial log pool)
    (obeys : setting.Obeys permits ends) {outcome : Except Fault α}
    (found : pool.programs[place]? = some (finish outcome)) :
    ends outcome (eventsOf place log) :=
  reaches.guarded obeys found

/-- Where an entry was logged, the program at its place made the request. -/
theorem at_entry
    (reaches : setting.Reaches initial (before ++ (place, ⟨call, answer⟩) :: after) pool) :
    ∃ world changed programs resume, setting.Reaches initial before ⟨world, programs⟩ ∧
      programs[place]? = some (request call resume) ∧
      setting.effect world call answer changed := by
  generalize whole : before ++ (place, ⟨call, answer⟩) :: after = log at reaches
  induction reaches generalizing after with
  | nothing => simp at whole
  | start reached starts inductionHypothesis => exact inductionHypothesis whole
  | answer reached running answered inductionHypothesis =>
      rcases split_of_snoc whole.symm with ⟨rfl, same, -⟩ | ⟨rest, -, earlier⟩
      · cases same
        exact ⟨_, _, _, _, reached, running, answered⟩
      · exact inductionHypothesis earlier.symm
  | outside reached changes inductionHypothesis => exact inductionHypothesis whole

/-- What was answered had been permitted. -/
theorem permitted
    (reaches : setting.Reaches initial (before ++ (place, ⟨call, answer⟩) :: after) pool)
    (obeys : setting.Obeys permits ends) : permits (eventsOf place before) call := by
  obtain ⟨world, changed, programs, resume, earlier, running, -⟩ := reaches.at_entry
  exact (earlier.guarded obeys running).1

/-- The invariant rule, for runs whose entries meet a condition. -/
theorem invariant
    {condition : List (Entry Call Answer Fault) → Entry Call Answer Fault → Prop}
    {holds : List (Entry Call Answer Fault) → World → Prop}
    (obeys : setting.Obeys permits ends) (initially : holds [] initial)
    (answered : ∀ {log world changed place call answer}, holds log world →
      permits (eventsOf place log) call → setting.effect world call answer changed →
        condition log (place, ⟨call, answer⟩) →
          holds (log ++ [(place, ⟨call, answer⟩)]) changed)
    (changed : ∀ {log world next}, holds log world → setting.outside world next →
      holds log next)
    (reaches : setting.Reaches initial log pool) (meets : Throughout condition log) :
    holds log pool.world := by
  induction reaches with
  | nothing => exact initially
  | start reached starts inductionHypothesis => exact inductionHypothesis meets
  | answer reached running effect inductionHypothesis =>
      obtain ⟨earlier, last⟩ := throughout_snoc.mp meets
      exact answered (inductionHypothesis earlier) (reached.guarded obeys running).1 effect
        last
  | outside reached changes inductionHypothesis =>
      exact changed (inductionHypothesis meets) changes

end Setting.Reaches

end ResearchPlatform.Foundation
