import Mathlib.Data.List.Forall2
import Mathlib.Tactic.Common

/-!
# Outcomes

Inversion of computations in `Except`: what a computation that returned must
have done.  And two computations compared: they raise the same, or return what is
related.
-/

namespace ResearchPlatform.Foundation

variable {Fault α β : Type}

theorem map_eq_ok {outcome : Except Fault α} {change : α → β} {result : β} :
    outcome.map change = .ok result ↔
      ∃ value, outcome = .ok value ∧ change value = result := by
  cases outcome <;> simp [Except.map]

theorem bind_eq_ok {outcome : Except Fault α} {next : α → Except Fault β}
    {result : β} :
    outcome.bind next = .ok result ↔
      ∃ value, outcome = .ok value ∧ next value = .ok result := by
  cases outcome <;> simp [Except.bind]

theorem mapError_eq_ok {NewFault : Type} {outcome : Except Fault α}
    {change : Fault → NewFault} {result : α} :
    outcome.mapError change = .ok result ↔ outcome = .ok result := by
  cases outcome <;> simp [Except.mapError]

theorem map_eq_error {outcome : Except Fault α} {change : α → β} {fault : Fault} :
    outcome.map change = .error fault ↔ outcome = .error fault := by
  cases outcome <;> simp [Except.map]

theorem bind_eq_error {outcome : Except Fault α} {next : α → Except Fault β} {fault : Fault} :
    outcome.bind next = .error fault ↔
      outcome = .error fault ∨ ∃ value, outcome = .ok value ∧ next value = .error fault := by
  cases outcome <;> simp [Except.bind]

theorem mapError_eq_error {NewFault : Type} {outcome : Except Fault α}
    {change : Fault → NewFault} {raised : NewFault} :
    outcome.mapError change = .error raised ↔
      ∃ fault, outcome = .error fault ∧ change fault = raised := by
  cases outcome <;> simp [Except.mapError]

/-- A check that passed. -/
theorem ite_eq_ok_iff {condition : Prop} [Decidable condition] {fault : Fault}
    {value result : α} :
    (if condition then Except.ok value else Except.error fault) = .ok result ↔
      condition ∧ value = result := by
  by_cases holds : condition <;> simp [holds]

/-- Every item was read. -/
theorem mapM_eq_ok_iff {read : α → Except Fault β} {items : List α} {results : List β} :
    items.mapM read = .ok results ↔
      List.Forall₂ (fun item result => read item = .ok result) items results := by
  induction items generalizing results with
  | nil =>
      rw [List.mapM_nil, List.forall₂_nil_left_iff]
      exact ⟨fun same => (Except.ok.inj same).symm, fun same => by rw [same]; rfl⟩
  | cons item rest inductionHypothesis =>
      rw [List.mapM_cons]
      constructor
      · intro all
        obtain ⟨result, first, all⟩ := bind_eq_ok.mp all
        obtain ⟨others, later, all⟩ := bind_eq_ok.mp all
        rw [← Except.ok.inj all]
        exact List.Forall₂.cons first (inductionHypothesis.mp later)
      · intro all
        cases all with
        | cons first later =>
            rw [first, inductionHypothesis.mpr later]
            rfl

theorem forM_eq_ok_iff {check : α → Except Fault Unit} {items : List α} :
    items.forM check = .ok () ↔ ∀ item ∈ items, check item = .ok () := by
  induction items with
  | nil => exact iff_of_true rfl (by simp)
  | cons item rest inductionHypothesis =>
      have step : (item :: rest).forM check =
          (check item).bind fun _ => rest.forM check := rfl
      rw [step, bind_eq_ok, List.forall_mem_cons, ← inductionHypothesis]
      constructor
      · intro both
        obtain ⟨⟨⟩, first, later⟩ := both
        exact ⟨first, later⟩
      · exact fun both => ⟨(), both⟩

/-- What the checks of a list raise, the check of one of its items raises. -/
theorem exists_of_forM_eq_error {check : α → Except Fault Unit} {items : List α} {fault : Fault}
    (failed : items.forM check = .error fault) : ∃ item ∈ items, check item = .error fault := by
  induction items with
  | nil => cases failed
  | cons item rest inductionHypothesis =>
      have step : (item :: rest).forM check =
          (check item).bind fun _ => rest.forM check := rfl
      rw [step] at failed
      rcases bind_eq_error.mp failed with first | ⟨⟨⟩, -, later⟩
      · exact ⟨item, List.mem_cons_self, first⟩
      · obtain ⟨other, member, raised⟩ := inductionHypothesis later
        exact ⟨other, List.mem_cons_of_mem item member, raised⟩

/-- All items can be read where each of them can. -/
theorem exists_mapM_eq_ok {read : α → Except Fault β} {items : List α} :
    (∃ results, items.mapM read = .ok results) ↔
      ∀ item ∈ items, ∃ result, read item = .ok result := by
  simp only [mapM_eq_ok_iff]
  constructor
  · intro some item member
    obtain ⟨results, pairs⟩ := some
    obtain ⟨position, inside, rfl⟩ := List.getElem_of_mem member
    have within : position < results.length := pairs.length_eq ▸ inside
    exact ⟨results[position], pairs.get inside within⟩
  · intro each
    induction items with
    | nil => exact ⟨[], .nil⟩
    | cons item rest inductionHypothesis =>
        obtain ⟨first, others⟩ := List.forall_mem_cons.mp each
        obtain ⟨result, isRead⟩ := first
        obtain ⟨results, pairs⟩ := inductionHypothesis others
        exact ⟨result :: results, .cons isRead pairs⟩

/-- Items that were written come back when each of them can be read. -/
theorem mapM_map_eq_ok {write : β → α} {read : α → Except Fault β} {items : List β}
    (readable : ∀ item ∈ items, read (write item) = .ok item) :
    (items.map write).mapM read = .ok items := by
  apply mapM_eq_ok_iff.mpr
  rw [List.forall₂_map_left_iff]
  exact List.forall₂_same.mpr readable

/-- The two outcomes are one error, or two related results. -/
inductive Alike {Other : Type} (related : α → Other → Prop) :
    Except Fault α → Except Fault Other → Prop where
  | ok {left : α} {right : Other} (both : related left right) :
      Alike related (.ok left) (.ok right)
  | error (fault : Fault) : Alike related (.error fault) (.error fault)

namespace Alike

variable {Other Later : Type} {related : α → Other → Prop} {still : β → Later → Prop}

/-- Alike computations go on alike. -/
theorem bind {first : Except Fault α} {second : Except Fault Other}
    {next : α → Except Fault β} {other : Other → Except Fault Later}
    (start : Alike related first second)
    (goOn : ∀ left right, related left right → Alike still (next left) (other right)) :
    Alike still (first >>= next) (second >>= other) := by
  cases start with
  | ok both => exact goOn _ _ both
  | error fault => exact error fault

/-- Computations that begin with one reading. -/
theorem bind_same {first second : Except Fault α} {next : α → Except Fault β}
    {other : α → Except Fault Later} (same : first = second)
    (goOn : ∀ value, first = .ok value → Alike still (next value) (other value)) :
    Alike still (first >>= next) (second >>= other) := by
  subst same
  cases found : first with
  | ok value => exact goOn value found
  | error fault => exact error fault

/-- Computations that end right after one reading. -/
theorem map_same {first second : Except Fault α} {next : α → β} {other : α → Later}
    (same : first = second)
    (goOn : ∀ value, first = .ok value → still (next value) (other value)) :
    Alike still (first.map next) (second.map other) := by
  subst same
  cases found : first with
  | ok value => exact ok (goOn value found)
  | error fault => exact error fault

theorem mapError {first : Except Fault α} {second : Except Fault Other}
    {NewFault : Type} (change : Fault → NewFault) (start : Alike related first second) :
    Alike related (first.mapError change) (second.mapError change) := by
  cases start with
  | ok both => exact ok both
  | error fault => exact error (change fault)

end Alike

end ResearchPlatform.Foundation
