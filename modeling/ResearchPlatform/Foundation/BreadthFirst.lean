import Mathlib.Algebra.BigOperators.Group.List.Basic
import Mathlib.Data.List.Perm.Basic
import Mathlib.Tactic.Common

/-!
# Breadth-first walks

Trees whose nodes have any number of children, and the walk that takes them from a queue.
The walk reaches every node once.
-/

namespace ResearchPlatform.Foundation

/-- A node with its label and its children. -/
inductive LabelTree (α : Type) : Type
  | node (label : α) (children : List (LabelTree α))

namespace LabelTree

variable {α : Type}

mutual

/-- The labels of a tree, a node before its children. -/
def labels : LabelTree α → List α
  | node label children => label :: labelsOf children

/-- The labels of a forest. -/
def labelsOf : List (LabelTree α) → List α
  | [] => []
  | tree :: rest => tree.labels ++ labelsOf rest

end

/-- Take nodes from the head of the queue and add their children at its end, with the turns
that are left. -/
def drain : Nat → List (LabelTree α) → List α
  | 0, _ => []
  | _ + 1, [] => []
  | turns + 1, node label children :: rest => label :: drain turns (rest ++ children)

/-- The labels in the order of the walk. -/
def walk (tree : LabelTree α) : List α := drain tree.labels.length [tree]

@[simp]
theorem labelsOf_nil : labelsOf ([] : List (LabelTree α)) = [] := by
  rw [labelsOf]

theorem labelsOf_cons (label : α) (children rest : List (LabelTree α)) :
    labelsOf (node label children :: rest) =
      label :: (labelsOf children ++ labelsOf rest) := by
  rw [labelsOf, labels, List.cons_append]

theorem labelsOf_append (first second : List (LabelTree α)) :
    labelsOf (first ++ second) = labelsOf first ++ labelsOf second := by
  induction first with
  | nil => rw [labelsOf_nil, List.nil_append, List.nil_append]
  | cons tree rest inductionHypothesis =>
      rw [List.cons_append, labelsOf, labelsOf, inductionHypothesis, List.append_assoc]

/-- With turns for all labels of the queue, each of them is met once. -/
theorem drain_perm {turns : Nat} {queue : List (LabelTree α)}
    (enough : (labelsOf queue).length ≤ turns) :
    (drain turns queue).Perm (labelsOf queue) := by
  induction turns generalizing queue with
  | zero =>
      have none : labelsOf queue = [] := List.length_eq_zero_iff.mp (by omega)
      rw [none]
      exact List.Perm.refl []
  | succ turns inductionHypothesis =>
      match queue with
      | [] => simp [drain]
      | node label children :: rest =>
          rw [labelsOf_cons, List.length_cons, List.length_append] at enough
          have left : (labelsOf (rest ++ children)).length ≤ turns := by
            rw [labelsOf_append, List.length_append]
            omega
          have later := inductionHypothesis left
          rw [drain, labelsOf_cons]
          apply List.Perm.cons
          apply later.trans
          rw [labelsOf_append]
          exact List.perm_append_comm

/-- The walk is a rearrangement of the labels. -/
theorem walk_perm (tree : LabelTree α) : tree.walk.Perm tree.labels := by
  have alone : labelsOf [tree] = tree.labels := by
    rw [labelsOf, labelsOf_nil, List.append_nil]
  have all := @drain_perm α (labelsOf [tree]).length [tree] (Nat.le_refl _)
  rwa [alone] at all

theorem mem_walk {tree : LabelTree α} {label : α} : label ∈ tree.walk ↔ label ∈ tree.labels :=
  (walk_perm tree).mem_iff

end LabelTree

end ResearchPlatform.Foundation
