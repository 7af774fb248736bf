import ResearchPlatform.Foundation.Loops

/-!
# What a program has seen when it ends

`Yields` relates a program to the events of a run and to how the run ended, for any answers.
Its rules take a run apart along the program.
-/

namespace ResearchPlatform.Foundation.Program

variable {Call : Type} {Answer : Call → Type} {Fault α β Kept : Type}

/-- The program may end in the outcome after these events. -/
def Yields : Program Call Answer Fault α → List (Event Call Answer Fault) → Except Fault α → Prop
  | finish outcome, trace, ended => trace = [] ∧ outcome = ended
  | request call resume, trace, ended =>
      ∃ answer rest, trace = ⟨call, answer⟩ :: rest ∧ Yields (resume answer) rest ended

variable {program : Program Call Answer Fault α} {trace : List (Event Call Answer Fault)}
  {ended : Except Fault α}

/-- Every run ends so. -/
theorem yields_interpret {World : Type} (handler : Handler Call Answer Fault World)
    (program : Program Call Answer Fault α) (world : World) :
    Yields program (interpret handler program world).trace
      (interpret handler program world).outcome := by
  induction program generalizing world with
  | finish outcome => exact ⟨rfl, rfl⟩
  | request call resume inductionHypothesis => exact ⟨_, _, rfl, inductionHypothesis _ _⟩

theorem yields_perform {call : Call} {ended : Except Fault (Answer call)} :
    Yields (perform call) trace ended ↔ trace = [⟨call, ended⟩] := by
  constructor
  · rintro ⟨answer, rest, rfl, rfl, rfl⟩
    rfl
  · rintro rfl
    exact ⟨_, [], rfl, rfl, rfl⟩

/-- A sequence that returned did so from what its first program returned. -/
theorem yields_bind_ok {next : α → Program Call Answer Fault β} {value : β} :
    Yields (program.bind next) trace (.ok value) ↔
      ∃ first before after, trace = before ++ after ∧ Yields program before (.ok first) ∧
        Yields (next first) after (.ok value) := by
  induction program generalizing trace with
  | finish outcome =>
      cases outcome with
      | ok first =>
          constructor
          · exact fun ends => ⟨first, [], trace, rfl, ⟨rfl, rfl⟩, ends⟩
          · rintro ⟨first, before, after, rfl, ⟨rfl, same⟩, ends⟩
            rwa [← Except.ok.inj same] at ends
      | error fault =>
          constructor
          · rintro ⟨-, impossible⟩
            cases impossible
          · rintro ⟨_, _, _, _, ⟨_, impossible⟩, _⟩
            cases impossible
  | request call resume inductionHypothesis =>
      constructor
      · rintro ⟨answer, rest, rfl, ends⟩
        obtain ⟨first, before, after, rfl, early, late⟩ := inductionHypothesis answer |>.mp ends
        exact ⟨first, ⟨call, answer⟩ :: before, after, rfl, ⟨answer, before, rfl, early⟩, late⟩
      · rintro ⟨first, _, after, rfl, ⟨answer, before, rfl, early⟩, late⟩
        exact ⟨answer, before ++ after, rfl,
          (inductionHypothesis answer).mpr ⟨first, before, after, rfl, early, late⟩⟩

/-- A recovery that only raises returns nothing. -/
theorem yields_rescue_raise {change : Fault → Fault} {value : α} :
    Yields (program.rescue fun fault => raise (change fault)) trace (.ok value) ↔
      Yields program trace (.ok value) := by
  induction program generalizing trace with
  | finish outcome =>
      cases outcome with
      | ok first => exact Iff.rfl
      | error fault =>
          constructor
          · rintro ⟨-, impossible⟩
            cases impossible
          · rintro ⟨-, impossible⟩
            cases impossible
  | request call resume inductionHypothesis =>
      exact exists_congr fun answer => exists_congr fun rest =>
        and_congr_right fun _ => inductionHypothesis answer

theorem yields_attempt {outcome : Except Fault α} :
    Yields program.attempt trace (.ok outcome) ↔ Yields program trace outcome := by
  induction program generalizing trace with
  | finish other => simp [attempt, Yields]
  | request call resume inductionHypothesis =>
      exact exists_congr fun answer => exists_congr fun rest =>
        and_congr_right fun _ => inductionHypothesis answer

/-- A program that cleaned up returned what it had returned before. -/
theorem yields_ensuring_ok {cleanup : Program Call Answer Fault Unit} {value : α} :
    Yields (program.ensuring cleanup) trace (.ok value) ↔
      ∃ before after, trace = before ++ after ∧ Yields program before (.ok value) ∧
        Yields cleanup after (.ok ()) := by
  rw [ensuring, yields_bind_ok]
  constructor
  · rintro ⟨outcome, before, after, rfl, early, late⟩
    obtain ⟨⟨⟩, cleaning, rest, rfl, cleaned, rfl, rfl⟩ := yields_bind_ok.mp late
    rw [List.append_nil]
    exact ⟨before, cleaning, rfl, yields_attempt.mp early, cleaned⟩
  · rintro ⟨before, after, rfl, early, late⟩
    exact ⟨.ok value, before, after, rfl, yields_attempt.mpr early,
      yields_bind_ok.mpr ⟨(), after, [], by rw [List.append_nil], late, rfl, rfl⟩⟩

/-- A loop that returned did so in its last turn. -/
theorem exists_last_turn {body : Kept → Program Call Answer Fault (Kept ⊕ α)}
    {starved : Fault} {turns : Nat} {kept : Kept} {value : α}
    (ends : Yields (loop body starved turns kept) trace (.ok value)) :
    ∃ last before turn, trace = before ++ turn ∧ Yields (body last) turn (.ok (.inr value)) := by
  induction turns generalizing kept trace with
  | zero =>
      obtain ⟨-, impossible⟩ := ends
      cases impossible
  | succ turns inductionHypothesis =>
      obtain ⟨turned, before, after, rfl, early, late⟩ := yields_bind_ok.mp ends
      cases turned with
      | inl next =>
          obtain ⟨last, middle, turn, rfl, done⟩ := inductionHypothesis late
          exact ⟨last, before ++ middle, turn, by rw [List.append_assoc], done⟩
      | inr first =>
          obtain ⟨rfl, same⟩ := late
          rw [← Except.ok.inj same, List.append_nil]
          exact ⟨kept, [], before, rfl, early⟩

end ResearchPlatform.Foundation.Program
