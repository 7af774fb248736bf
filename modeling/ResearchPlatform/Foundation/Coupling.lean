import Mathlib.Data.List.Forall2
import ResearchPlatform.Foundation.Program

/-!
# Two programs compared

Two programs are coupled when they make related requests as long as they are given
related answers, and end in related outcomes.  Coupled programs that run against
handlers which keep their worlds related leave related traces and worlds.
-/

namespace ResearchPlatform.Foundation

open Program

variable {Call : Type} {Answer : Call → Type} {Fault α β Other Later : Type}

/-- Which requests of two runs are taken to be the same, and which answers. -/
structure Coupling (Call : Type) (Answer : Call → Type) (Fault : Type) where
  asked : Call → Call → Prop
  answered : Event Call Answer Fault → Event Call Answer Fault → Prop

/-- Both outcomes are values that are related, or both are faults that are. -/
def EndsAlike (values : α → Other → Prop) (faults : Fault → Fault → Prop) :
    Except Fault α → Except Fault Other → Prop
  | .ok left, .ok right => values left right
  | .error left, .error right => faults left right
  | _, _ => False

namespace Coupling

variable (coupling : Coupling Call Answer Fault)

/-- The first program asks and ends as the second does. -/
def Couples (ended : Except Fault α → Except Fault Other → Prop) :
    Program Call Answer Fault α → Program Call Answer Fault Other → Prop
  | finish left, finish right => ended left right
  | request call resume, request other goOn =>
      coupling.asked call other ∧
        ∀ answer reply, coupling.answered ⟨call, answer⟩ ⟨other, reply⟩ →
          Couples ended (resume answer) (goOn reply)
  | _, _ => False

/-- Two handlers answer the same requests with the same answers, and keep their worlds
related. -/
def KeptBy {Left Right : Type} (left : Handler Call Answer Fault Left)
    (right : Handler Call Answer Fault Right) (alike : Left → Right → Prop) : Prop :=
  ∀ world other call same, alike world other → coupling.asked call same →
    coupling.answered ⟨call, (left world call).1⟩ ⟨same, (right other same).1⟩ ∧
      alike (left world call).2 (right other same).2

variable {coupling} {ended looser : Except Fault α → Except Fault Other → Prop}
  {program : Program Call Answer Fault α} {second : Program Call Answer Fault Other}

theorem Couples.mono (couples : coupling.Couples ended program second)
    (implies : ∀ left right, ended left right → looser left right) :
    coupling.Couples looser program second := by
  induction program generalizing second with
  | finish left =>
      cases second with
      | finish right => exact implies left right couples
      | request other goOn => exact couples
  | request call resume inductionHypothesis =>
      cases second with
      | finish right => exact couples
      | request other goOn =>
          obtain ⟨same, rest⟩ := couples
          exact ⟨same, fun answer reply given =>
            inductionHypothesis answer (rest answer reply given)⟩

/-- The rule for sequences. -/
theorem Couples.bind {next : α → Program Call Answer Fault β}
    {following : Other → Program Call Answer Fault Later}
    {values : α → Other → Prop} {faults : Fault → Fault → Prop}
    {ended : Except Fault β → Except Fault Later → Prop}
    (first : coupling.Couples (EndsAlike values faults) program second)
    (goOn : ∀ left right, values left right →
      coupling.Couples ended (next left) (following right))
    (stop : ∀ left right, faults left right → ended (.error left) (.error right)) :
    coupling.Couples ended (program.bind next) (second.bind following) := by
  induction program generalizing second with
  | finish left =>
      cases second with
      | finish right =>
          cases left <;> cases right
          · exact stop _ _ first
          · exact first.elim
          · exact first.elim
          · exact goOn _ _ first
      | request other resumeOther => exact first.elim
  | request call resume inductionHypothesis =>
      cases second with
      | finish right => exact first.elim
      | request other resumeOther =>
          obtain ⟨same, rest⟩ := first
          exact ⟨same, fun answer reply given =>
            inductionHypothesis answer (rest answer reply given)⟩

/-- The rule for recovered programs. -/
theorem Couples.rescue {recover : Fault → Program Call Answer Fault α}
    {recoverOther : Fault → Program Call Answer Fault Other}
    {values : α → Other → Prop} {faults : Fault → Fault → Prop}
    (first : coupling.Couples (EndsAlike values faults) program second)
    (stop : ∀ left right, values left right → ended (.ok left) (.ok right))
    (goOn : ∀ left right, faults left right →
      coupling.Couples ended (recover left) (recoverOther right)) :
    coupling.Couples ended (program.rescue recover) (second.rescue recoverOther) := by
  induction program generalizing second with
  | finish left =>
      cases second with
      | finish right =>
          cases left <;> cases right
          · exact goOn _ _ first
          · exact first.elim
          · exact first.elim
          · exact stop _ _ first
      | request other resumeOther => exact first.elim
  | request call resume inductionHypothesis =>
      cases second with
      | finish right => exact first.elim
      | request other resumeOther =>
          obtain ⟨same, rest⟩ := first
          exact ⟨same, fun answer reply given =>
            inductionHypothesis answer (rest answer reply given)⟩

/-- Coupled programs leave related traces, outcomes and worlds. -/
theorem Couples.sound {Left Right : Type} {left : Handler Call Answer Fault Left}
    {right : Handler Call Answer Fault Right} {alike : Left → Right → Prop}
    (couples : coupling.Couples ended program second)
    (kept : coupling.KeptBy left right alike) {world : Left} {other : Right}
    (start : alike world other) :
    List.Forall₂ coupling.answered (interpret left program world).trace
        (interpret right second other).trace ∧
      ended (interpret left program world).outcome
        (interpret right second other).outcome ∧
      alike (interpret left program world).world
        (interpret right second other).world := by
  induction program generalizing second world other with
  | finish outcome =>
      cases second with
      | finish reached => exact ⟨List.Forall₂.nil, couples, start⟩
      | request call goOn => exact couples.elim
  | request call resume inductionHypothesis =>
      cases second with
      | finish reached => exact couples.elim
      | request same goOn =>
          obtain ⟨asked, rest⟩ := couples
          obtain ⟨given, still⟩ := kept world other call same start asked
          obtain ⟨traces, ends, last⟩ :=
            inductionHypothesis _ (rest _ _ given) still
          exact ⟨List.Forall₂.cons given traces, ends, last⟩

end Coupling

end ResearchPlatform.Foundation
