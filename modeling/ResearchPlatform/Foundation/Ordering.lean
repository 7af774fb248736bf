import Mathlib.Data.List.Pairwise
import Mathlib.Data.List.Sort

/-!
# Sorting

What is sorted does not depend on how it was arranged before, as long as no two items
tie.
-/

namespace ResearchPlatform.Foundation

/-- Two arrangements of the same items are sorted alike when no two items tie. -/
theorem insertionSort_eq_of_perm {Item : Type} {before : Item → Item → Prop}
    [DecidableRel before] (total : ∀ left right, before left right ∨ before right left)
    (transitive : ∀ left middle right, before left middle → before middle right →
      before left right)
    {first second : List Item}
    (noTies : ∀ left ∈ first, ∀ right ∈ first, before left right → before right left →
      left = right)
    (same : first.Perm second) :
    first.insertionSort before = second.insertionSort before := by
  have isTotal : Std.Total before := ⟨total⟩
  have isTrans : IsTrans Item before := ⟨transitive⟩
  have sameSorted : (first.insertionSort before).Perm (second.insertionSort before) :=
    ((List.perm_insertionSort before first).trans same).trans
      (List.perm_insertionSort before second).symm
  apply List.Perm.eq_of_pairwise _ (List.pairwise_insertionSort before first)
    (List.pairwise_insertionSort before second) sameSorted
  intro left right leftMember rightMember leftFirst rightFirst
  have leftIn : left ∈ first := (List.mem_insertionSort before).mp leftMember
  have rightIn : right ∈ first :=
    same.mem_iff.mpr ((List.mem_insertionSort before).mp rightMember)
  exact noTies left leftIn right rightIn leftFirst rightFirst

/-- Items of different ranks are told apart by their ranks. -/
theorem eq_of_same_rank {Item Rank : Type} {rank : Item → Rank} {items : List Item}
    (distinct : items.Pairwise fun left right => rank left ≠ rank right)
    {left right : Item} (leftMember : left ∈ items) (rightMember : right ∈ items)
    (same : rank left = rank right) : left = right := by
  have symmetric : Std.Symm fun left right : Item => rank left ≠ rank right :=
    ⟨fun _ _ apart => Ne.symm apart⟩
  by_contra different
  exact distinct.forall leftMember rightMember different same

/-- Items in strict order are found again by sorting them. -/
theorem insertionSort_eq_of_ordered {Item Rank : Type} [LinearOrder Rank]
    {rank : Item → Rank} {items found : List Item}
    (ordered : items.Pairwise fun left right => rank left < rank right)
    (same : found.Perm items) :
    found.insertionSort (fun left right => rank left ≤ rank right) = items := by
  have sorted : items.insertionSort (fun left right => rank left ≤ rank right) = items :=
    (ordered.imp fun earlier => le_of_lt earlier).insertionSort_eq
  have distinct : items.Pairwise fun left right => rank left ≠ rank right :=
    ordered.imp fun earlier => ne_of_lt earlier
  have noTies : ∀ left ∈ items, ∀ right ∈ items, rank left ≤ rank right →
      rank right ≤ rank left → left = right := by
    intro left leftMember right rightMember leftFirst rightFirst
    exact eq_of_same_rank distinct leftMember rightMember
      (le_antisymm leftFirst rightFirst)
  have sameSorted := insertionSort_eq_of_perm
    (fun left right : Item => le_total (rank left) (rank right))
    (fun _ _ _ => le_trans) noTies same.symm
  rw [← sameSorted, sorted]

/-- The items in the order of their ranks, those of one rank as they stood before. -/
structure IsStableSort {Item Rank : Type} [LinearOrder Rank] (rank : Item → Rank)
    (before after : List Item) : Prop where
  perm : after.Perm before
  ordered : after.Pairwise fun left right => rank left ≤ rank right
  stable : ∀ value, after.filter (rank · = value) = before.filter (rank · = value)

theorem isStableSort_insertionSort {Item Rank : Type} [LinearOrder Rank] (rank : Item → Rank)
    (items : List Item) :
    IsStableSort rank items (items.insertionSort fun left right => rank left ≤ rank right) := by
  have isTotal : Std.Total fun left right : Item => rank left ≤ rank right :=
    ⟨fun left right => le_total (rank left) (rank right)⟩
  have isTrans : IsTrans Item fun left right => rank left ≤ rank right :=
    ⟨fun _ _ _ => le_trans⟩
  have perm := List.perm_insertionSort (fun left right => rank left ≤ rank right) items
  refine ⟨perm, List.pairwise_insertionSort _ items, ?_⟩
  intro value
  have ties : (items.filter (rank · = value)).Pairwise
      fun left right => rank left ≤ rank right := by
    apply List.pairwise_of_forall_mem_list
    intro left isLeft right isRight
    have leftRank := of_decide_eq_true (List.mem_filter.mp isLeft).2
    have rightRank := of_decide_eq_true (List.mem_filter.mp isRight).2
    rw [leftRank, rightRank]
  have part := (List.sublist_insertionSort ties List.filter_sublist).filter (rank · = value)
  rw [List.filter_filter] at part
  simp only [Bool.and_self] at part
  exact (part.eq_of_length (perm.filter _).length_eq.symm).symm

end ResearchPlatform.Foundation
