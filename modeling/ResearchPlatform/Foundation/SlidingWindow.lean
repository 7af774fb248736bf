import Mathlib.Data.List.Basic
import Mathlib.Tactic.Common

/-!
# Sliding windows

Times that are kept while they are inside a window that moves forward.  The window
that ends at `now` is half open: a time leaves it at the instant that it is `window`
old.
-/

namespace ResearchPlatform.Foundation

namespace SlidingWindow

variable {window now earlier later : Int} {times : List Int}

/-- The times that have not left the window at `now`. -/
def alive (window now : Int) (times : List Int) : List Int :=
  times.filter (now - window < ·)

/-- The times in the window that ends at `now`. -/
def within (window now : Int) (times : List Int) : List Int :=
  times.filter fun time => now - window < time ∧ time ≤ now

/-- Dropping the oldest times of a sorted list is keeping the others. -/
theorem dropWhile_eq_filter {cutoff : Int} (sorted : times.Pairwise (· ≤ ·)) :
    times.dropWhile (· ≤ cutoff) = times.filter (cutoff < ·) := by
  induction times with
  | nil => rfl
  | cons head rest inductionHypothesis =>
      obtain ⟨first, others⟩ := List.pairwise_cons.mp sorted
      by_cases old : head ≤ cutoff
      · simp [old, Int.not_lt.mpr old, inductionHypothesis others]
      · have young : cutoff < head := Int.not_le.mp old
        have allYoung : ∀ time ∈ rest, cutoff < time :=
          fun time member => Int.lt_of_lt_of_le young (first time member)
        have kept : rest.filter (cutoff < ·) = rest :=
          List.filter_eq_self.mpr fun time member => decide_eq_true (allYoung time member)
        simp [young, old, kept]

/-- What was pruned before is gone later as well. -/
theorem alive_filter {cutoff : Int} (passed : cutoff ≤ now - window) :
    alive window now (times.filter (cutoff < ·)) = alive window now times := by
  rw [alive, alive, List.filter_filter]
  apply List.filter_congr
  intro time _
  have outlives : now - window < time → cutoff < time := fun young => by omega
  by_cases young : now - window < time <;> simp [young]
  exact outlives young

theorem alive_alive (passed : earlier ≤ later) :
    alive window later (alive window earlier times) = alive window later times :=
  alive_filter (by omega)

/-- Where no time is later than `now`, those alive are those within the window. -/
theorem within_eq_alive (past : ∀ time ∈ times, time ≤ now) :
    within window now times = alive window now times := by
  apply List.filter_congr
  intro time member
  simp [past time member]

/-- A time granted while fewer than `limit` are alive keeps every window within the
limit. -/
theorem length_within_append_le {limit : Nat} {granted : Int}
    (bounded : ∀ last, (within window last times).length ≤ limit)
    (later : now ≤ granted) (room : (alive window now times).length < limit)
    (last : Int) :
    (within window last (times ++ [granted])).length ≤ limit := by
  rw [within, List.filter_append, List.length_append]
  by_cases inside : last - window < granted ∧ granted ≤ last
  · have fewer : (times.filter fun time => last - window < time ∧ time ≤ last).length ≤
        (alive window now times).length := by
      apply List.Sublist.length_le
      apply List.monotone_filter_right
      intro time young
      simp only [decide_eq_true_eq] at young ⊢
      omega
    simp only [inside, and_self, decide_true, List.filter_cons_of_pos, List.filter_nil,
      List.length_singleton]
    omega
  · have outside : [granted].filter
        (fun time => last - window < time ∧ time ≤ last) = [] := by
      simpa using inside
    rw [outside]
    exact bounded last

end SlidingWindow

end ResearchPlatform.Foundation
