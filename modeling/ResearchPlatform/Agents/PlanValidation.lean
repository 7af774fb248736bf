import Mathlib.Data.Finset.Card
import ResearchPlatform.Agents.Contracts

/-!
# The dependencies of a plan

The validator of `ResearchPlan` reads what each planned task depends on, by position.
-/

namespace ResearchPlatform

open Foundation

/-- One dependency of the task at the position. -/
def refuseDependency (count position dependency : Nat) : Except ValueError Unit :=
  if count ≤ dependency then
    .error ⟨"task " ++ toString position ++ " depends on task " ++ toString dependency ++
      ", which does not exist"⟩
  else if dependency = position then
    .error ⟨"task " ++ toString position ++ " depends on itself"⟩
  else .ok ()

/-- The positions that remain whose dependencies are all placed. -/
def readyPositions (dependsOn : List (List Nat)) (placed remaining : Finset Nat) :
    Finset Nat :=
  remaining.filter fun position => ∀ dependency ∈ dependsOn.getD position [],
    dependency ∈ placed

theorem card_sdiff_readyPositions_lt {dependsOn : List (List Nat)}
    {placed remaining : Finset Nat} (some : readyPositions dependsOn placed remaining ≠ ∅) :
    (remaining \ readyPositions dependsOn placed remaining).card < remaining.card := by
  obtain ⟨position, isReady⟩ := Finset.nonempty_iff_ne_empty.mpr some
  apply Finset.card_lt_card
  apply Finset.sdiff_ssubset (Finset.filter_subset _ remaining)
  exact ⟨position, isReady⟩

/-- The loop of `_reject_cycles`. -/
def rejectCyclesFrom (dependsOn : List (List Nat)) (placed remaining : Finset Nat) :
    Except ValueError Unit :=
  if remaining = ∅ then .ok ()
  else if _ : readyPositions dependsOn placed remaining = ∅ then
    .error ⟨"the planned tasks contain a dependency cycle"⟩
  else
    rejectCyclesFrom dependsOn (placed ∪ readyPositions dependsOn placed remaining)
      (remaining \ readyPositions dependsOn placed remaining)
  termination_by remaining.card
  decreasing_by exact card_sdiff_readyPositions_lt ‹_›

/-- `_reject_cycles`. -/
def rejectCycles (dependsOn : List (List Nat)) : Except ValueError Unit :=
  rejectCyclesFrom dependsOn ∅ (Finset.range dependsOn.length)

/-- `dependencies_must_resolve_without_a_cycle`, on what each task depends on. -/
def dependenciesMustResolve (dependsOn : List (List Nat)) : Except ValueError Unit := do
  dependsOn.zipIdx.forM fun (dependencies, position) =>
    dependencies.forM (refuseDependency dependsOn.length position)
  rejectCycles dependsOn

end ResearchPlatform
