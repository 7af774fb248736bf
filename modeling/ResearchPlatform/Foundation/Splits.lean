import Mathlib.Data.List.Basic
import Mathlib.Tactic.Common

/-!
# Splits of a list

Two ways to split one list at an element agree when marked elements tell them
apart.
-/

namespace ResearchPlatform.Foundation

variable {Item : Type} {before after first last : List Item} {here there : Item}

/-- Two splits at a marked element agree when one of them has no other marked
element. -/
theorem split_at_only_marked (marked : Item → Prop)
    (equal : before ++ here :: after = first ++ there :: last)
    (isMarked : marked here) (noneFirst : ∀ item ∈ first, ¬ marked item)
    (noneLast : ∀ item ∈ last, ¬ marked item) :
    before = first ∧ here = there ∧ after = last := by
  induction first generalizing before with
  | nil =>
      cases before with
      | nil =>
          obtain ⟨same, rest⟩ := List.cons.inj equal
          exact ⟨rfl, same, rest⟩
      | cons head tail =>
          have later : here ∈ last := by
            rw [← (List.cons.inj equal).2]
            exact List.mem_append_right tail List.mem_cons_self
          exact absurd isMarked (noneLast here later)
  | cons head tail inductionHypothesis =>
      cases before with
      | nil =>
          have isHead : here = head := (List.cons.inj equal).1
          exact absurd (isHead ▸ isMarked) (noneFirst head List.mem_cons_self)
      | cons other others =>
          obtain ⟨sameHead, rest⟩ := List.cons.inj equal
          have noneTail : ∀ item ∈ tail, ¬ marked item := fun item member =>
            noneFirst item (List.mem_cons_of_mem head member)
          obtain ⟨sameTail, same, sameLast⟩ := inductionHypothesis rest noneTail
          exact ⟨by rw [sameHead, sameTail], same, sameLast⟩

/-- Two splits at the last marked element agree. -/
theorem split_at_last_marked (marked : Item → Prop)
    (equal : before ++ here :: after = first ++ there :: last)
    (hereMarked : marked here) (thereMarked : marked there)
    (noneAfter : ∀ item ∈ after, ¬ marked item)
    (noneLast : ∀ item ∈ last, ¬ marked item) :
    before = first ∧ here = there ∧ after = last := by
  induction before generalizing first with
  | nil =>
      cases first with
      | nil =>
          obtain ⟨same, rest⟩ := List.cons.inj equal
          exact ⟨rfl, same, rest⟩
      | cons head tail =>
          have later : there ∈ after := by
            rw [(List.cons.inj equal).2]
            exact List.mem_append_right tail List.mem_cons_self
          exact absurd thereMarked (noneAfter there later)
  | cons head tail inductionHypothesis =>
      cases first with
      | nil =>
          have later : here ∈ last := by
            rw [← (List.cons.inj equal).2]
            exact List.mem_append_right tail List.mem_cons_self
          exact absurd hereMarked (noneLast here later)
      | cons other others =>
          obtain ⟨sameHead, rest⟩ := List.cons.inj equal
          obtain ⟨sameTail, same, sameLast⟩ := inductionHypothesis rest
          exact ⟨by rw [sameHead, sameTail], same, sameLast⟩

/-- A split of a list with one more element is at that element or before it. -/
theorem split_of_snoc {items : List Item} {added : Item}
    (equal : items ++ [added] = before ++ here :: after) :
    (before = items ∧ here = added ∧ after = []) ∨
      ∃ rest, after = rest ++ [added] ∧ items = before ++ here :: rest := by
  rcases List.eq_nil_or_concat after with rfl | ⟨rest, final, rfl⟩
  · obtain ⟨same, sameLast⟩ := List.append_inj' equal rfl
    exact Or.inl ⟨same.symm, (List.singleton_inj.mp sameLast).symm, rfl⟩
  · have regrouped : items ++ [added] = (before ++ here :: rest) ++ [final] := by
      simpa using equal
    obtain ⟨same, sameLast⟩ := List.append_inj' regrouped rfl
    have sameFinal := List.singleton_inj.mp sameLast
    exact Or.inr ⟨rest, by rw [sameFinal, List.concat_eq_append], same⟩

/-! ## The first that fails -/

/-- An item fails, and all before it are settled, each with what stands before it. -/
def FailsFirst (fails settles : List Item → Item → Prop) (before items : List Item) : Prop :=
  ∃ middle item after, items = middle ++ item :: after ∧ fails (before ++ middle) item ∧
    ∀ earlier other later, middle = earlier ++ other :: later →
      settles (before ++ earlier) other

section FailsFirst

variable {fails settles : List Item → Item → Prop} {items : List Item}

theorem not_failsFirst_nil : ¬ FailsFirst fails settles before [] := by
  rintro ⟨middle, item, after, whole, -, -⟩
  simp at whole

/-- The first item fails, or it is settled and one of the others fails first. -/
theorem failsFirst_cons :
    FailsFirst fails settles before (here :: items) ↔
      fails before here ∨
        settles before here ∧ FailsFirst fails settles (before ++ [here]) items := by
  constructor
  · rintro ⟨middle, item, after, whole, failed, settled⟩
    rcases List.cons_eq_append_iff.mp whole with ⟨rfl, same⟩ | ⟨rest, rfl, others⟩
    · obtain ⟨rfl, -⟩ := List.cons.inj same
      rw [List.append_nil] at failed
      exact Or.inl failed
    · have settledFirst := settled [] here rest rfl
      rw [List.append_nil] at settledFirst
      refine Or.inr ⟨settledFirst, rest, item, after, others, ?_, ?_⟩
      · rwa [List.append_assoc]
      · intro earlier other later split
        rw [List.append_assoc]
        exact settled (here :: earlier) other later (by rw [split]; rfl)
  · rintro (failed | ⟨settledFirst, rest, item, after, rfl, failed, settled⟩)
    · refine ⟨[], here, items, rfl, by rwa [List.append_nil], ?_⟩
      intro earlier other later impossible
      simp at impossible
    · rw [List.append_assoc] at failed
      refine ⟨here :: rest, item, after, rfl, failed, ?_⟩
      intro earlier other later split
      rcases List.cons_eq_append_iff.mp split with ⟨rfl, same⟩ | ⟨between, rfl, others⟩
      · obtain ⟨rfl, -⟩ := List.cons.inj same
        rwa [List.append_nil]
      · have kept := settled between other later others
        rwa [List.append_assoc] at kept

end FailsFirst

/-! ## One split, and every split -/

/-- Some item is as told, given what stands before it. -/
def SomeSplit (holds : List Item → Item → Prop) (before items : List Item) : Prop :=
  ∃ middle item after, items = middle ++ item :: after ∧ holds (before ++ middle) item

/-- Every item is as told, given what stands before it. -/
def EverySplit (holds : List Item → Item → Prop) (before items : List Item) : Prop :=
  ∀ middle item after, items = middle ++ item :: after → holds (before ++ middle) item

section EverySplit

variable {holds : List Item → Item → Prop} {items : List Item}

theorem not_someSplit_nil : ¬ SomeSplit holds before [] := by
  rintro ⟨middle, item, after, whole, -⟩
  simp at whole

theorem someSplit_cons :
    SomeSplit holds before (here :: items) ↔
      holds before here ∨ SomeSplit holds (before ++ [here]) items := by
  constructor
  · rintro ⟨middle, item, after, whole, here⟩
    rcases List.cons_eq_append_iff.mp whole with ⟨rfl, same⟩ | ⟨rest, rfl, others⟩
    · obtain ⟨rfl, -⟩ := List.cons.inj same
      rw [List.append_nil] at here
      exact Or.inl here
    · exact Or.inr ⟨rest, item, after, others, by rwa [List.append_assoc]⟩
  · rintro (first | ⟨rest, item, after, rfl, later⟩)
    · exact ⟨[], here, items, rfl, by rwa [List.append_nil]⟩
    · rw [List.append_assoc] at later
      exact ⟨here :: rest, item, after, rfl, later⟩

theorem not_someSplit :
    ¬ SomeSplit holds before items ↔ EverySplit (fun first item => ¬ holds first item) before items := by
  constructor
  · intro never middle item after whole here
    exact never ⟨middle, item, after, whole, here⟩
  · rintro always ⟨middle, item, after, whole, here⟩
    exact always middle item after whole here

@[simp]
theorem everySplit_nil : EverySplit holds before [] := by
  intro middle item after whole
  simp at whole

theorem everySplit_cons :
    EverySplit holds before (here :: items) ↔
      holds before here ∧ EverySplit holds (before ++ [here]) items := by
  constructor
  · intro all
    constructor
    · have first := all [] here items rfl
      rwa [List.append_nil] at first
    · intro middle item after whole
      rw [List.append_assoc]
      exact all (here :: middle) item after (by rw [whole]; rfl)
  · rintro ⟨first, others⟩ middle item after whole
    rcases List.cons_eq_append_iff.mp whole with ⟨rfl, same⟩ | ⟨rest, rfl, later⟩
    · obtain ⟨rfl, -⟩ := List.cons.inj same
      rwa [List.append_nil]
    · have kept := others rest item after later
      rwa [List.append_assoc] at kept

/-- A relation on all pairs, item by item. -/
theorem everySplit_related {related : Item → Item → Prop} :
    EverySplit (fun first item => ∀ other ∈ first, related other item) [] items ↔
      items.Pairwise related := by
  constructor
  · intro all
    rw [List.pairwise_iff_getElem]
    intro early late inEarly inLate earlier
    have whole : items = items.take late ++ items[late] :: items.drop (late + 1) := by simp
    apply all (items.take late) items[late] (items.drop (late + 1)) whole
    rw [List.nil_append]
    exact List.mem_take_iff_getElem.mpr ⟨early, by omega, rfl⟩
  · rintro all middle item after rfl other member
    rw [List.nil_append] at member
    exact (List.pairwise_append.mp all).2.2 other member item List.mem_cons_self

end EverySplit

end ResearchPlatform.Foundation
