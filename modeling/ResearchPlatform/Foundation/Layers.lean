import Mathlib.Data.List.Nodup
import Mathlib.Order.WellFoundedSet

/-!
# Layers of a dependency graph

Items name what they need by key.  Placing again and again all items whose needs are placed
puts each item into the layer of its longest chain of needs, and places all items exactly when
no chain comes back to where it began.
-/

namespace ResearchPlatform.Foundation

section Layers

variable {Item Key : Type} (key : Item → Key) (needs : Item → List Key) (items : List Item)

/-- One item of the list needs another. -/
def Needs (item needed : Item) : Prop :=
  item ∈ items ∧ needed ∈ items ∧ key needed ∈ needs item

/-- A chain of needs begins at the item and has so many steps. -/
inductive NeedChain : Item → Nat → Prop
  | stop (item : Item) : NeedChain item 0
  | step {item needed : Item} {length : Nat} (first : Needs key needs items item needed)
      (rest : NeedChain needed length) : NeedChain item (length + 1)

/-- The longest chain of needs that begins at the item has so many steps. -/
def IsLevel (item : Item) (level : Nat) : Prop :=
  NeedChain key needs items item level ∧
    ∀ length, NeedChain key needs items item length → length ≤ level

/-- Some chain of needs comes back to where it began. -/
def HasCycle : Prop := ∃ item, Relation.TransGen (Needs key needs items) item item

/-- Something is needed that is no key of an item. -/
def Dangles : Prop := ∃ item ∈ items, ∃ needed ∈ needs item, needed ∉ items.map key

/-- All chains that begin at the item have fewer steps. -/
def IsBelow (level : Nat) (item : Item) : Prop :=
  ∀ length, NeedChain key needs items item length → length < level

variable {key needs items} {item : Item} {level : Nat}

theorem not_isBelow_zero : ¬ IsBelow key needs items 0 item :=
  fun below => Nat.not_lt_zero 0 (below 0 (.stop item))

theorem isBelow_succ_iff :
    IsBelow key needs items (level + 1) item ↔
      ∀ needed, Needs key needs items item needed → IsBelow key needs items level needed := by
  constructor
  · intro below needed first length chain
    exact Nat.lt_of_succ_lt_succ (below (length + 1) (.step first chain))
  · intro below length chain
    cases chain with
    | stop => exact Nat.succ_pos level
    | step first rest => exact Nat.succ_lt_succ (below _ first _ rest)

theorem IsBelow.mono {other : Nat} (below : IsBelow key needs items level item)
    (later : level ≤ other) : IsBelow key needs items other item :=
  fun length chain => Nat.lt_of_lt_of_le (below length chain) later

/-- A chain can be cut short. -/
theorem NeedChain.shorter {length : Nat} (chain : NeedChain key needs items item length)
    (short : level ≤ length) : NeedChain key needs items item level := by
  induction chain generalizing level with
  | stop item =>
      obtain rfl := Nat.le_zero.mp short
      exact .stop item
  | step first rest inductionHypothesis =>
      cases level with
      | zero => exact .stop _
      | succ level => exact .step first (inductionHypothesis (Nat.le_of_succ_le_succ short))

theorem isLevel_iff :
    IsLevel key needs items item level ↔
      IsBelow key needs items (level + 1) item ∧ ¬ IsBelow key needs items level item := by
  constructor
  · intro isLevel
    refine ⟨fun length chain => Nat.lt_succ_of_le (isLevel.2 length chain), ?_⟩
    exact fun below => Nat.lt_irrefl level (below level isLevel.1)
  · intro bounds
    refine ⟨?_, fun length chain => Nat.le_of_lt_succ (bounds.1 length chain)⟩
    by_contra missing
    apply bounds.2
    intro length chain
    by_contra long
    exact missing (chain.shorter (Nat.le_of_not_lt long))

theorem IsLevel.eq {other : Nat} (isLevel : IsLevel key needs items item level)
    (isOther : IsLevel key needs items item other) : level = other :=
  Nat.le_antisymm (isOther.2 level isLevel.1) (isLevel.2 other isOther.1)

/-- From an item on a cycle there are chains of every length. -/
theorem not_isBelow_of_cycle
    (cycle : Relation.TransGen (Needs key needs items) item item) :
    ¬ IsBelow key needs items level item := by
  have along {first last : Item} {length : Nat}
      (path : Relation.TransGen (Needs key needs items) first last)
      (chain : NeedChain key needs items last length) :
      ∃ more, length < more ∧ NeedChain key needs items first more := by
    induction path using Relation.TransGen.head_induction_on with
    | single step => exact ⟨length + 1, Nat.lt_succ_self length, .step step chain⟩
    | head step _ inductionHypothesis =>
        obtain ⟨more, longer, chain⟩ := inductionHypothesis
        exact ⟨more + 1, Nat.lt_succ_of_lt longer, .step step chain⟩
  have long : ∃ length, level ≤ length ∧ NeedChain key needs items item length := by
    induction level with
    | zero => exact ⟨0, Nat.le_refl 0, .stop item⟩
    | succ level inductionHypothesis =>
        obtain ⟨length, enough, chain⟩ := inductionHypothesis
        obtain ⟨more, longer, chain⟩ := along cycle chain
        exact ⟨more, Nat.succ_le_of_lt (Nat.lt_of_le_of_lt enough longer), chain⟩
  intro below
  obtain ⟨length, enough, chain⟩ := long
  exact absurd (below length chain) (Nat.not_lt.mpr enough)

/-- Without a cycle, some item of every non-empty part needs nothing of the part. -/
theorem exists_ready {part : List Item} (acyclic : ¬ HasCycle key needs items)
    (some : part ≠ []) : ∃ item ∈ part, ∀ needed ∈ part, ¬ Needs key needs items item needed := by
  have strict : IsStrictOrder Item fun needed item =>
      Relation.TransGen (Needs key needs items) item needed :=
    { irrefl := fun item cycle => acyclic ⟨item, cycle⟩
      trans := fun _ _ _ first second => second.trans first }
  have wellFounded : {item | item ∈ part}.WellFoundedOn fun needed item =>
      Relation.TransGen (Needs key needs items) item needed :=
    (List.finite_toSet part).wellFoundedOn
  obtain ⟨item, member⟩ := List.exists_mem_of_ne_nil part some
  obtain ⟨least, -, isLeast⟩ := wellFounded.has_min Set.univ ⟨⟨item, member⟩, trivial⟩
  refine ⟨least.1, least.2, ?_⟩
  intro needed inPart needs
  exact isLeast ⟨needed, inPart⟩ trivial (.single needs)

/-- An item with bounded chains has a level. -/
theorem exists_isLevel (below : IsBelow key needs items level item) :
    ∃ least, least < level ∧ IsLevel key needs items item least := by
  induction level with
  | zero => exact absurd below not_isBelow_zero
  | succ level inductionHypothesis =>
      by_cases lower : IsBelow key needs items level item
      · obtain ⟨least, less, isLevel⟩ := inductionHypothesis lower
        exact ⟨least, Nat.lt_succ_of_lt less, isLevel⟩
      · exact ⟨level, Nat.lt_succ_self level, isLevel_iff.mpr ⟨below, lower⟩⟩

/-- Some item of a cycle is not placed, however many layers there are. -/
theorem HasCycle.exists_not_isBelow (cycle : HasCycle key needs items) (level : Nat) :
    ∃ item ∈ items, ¬ IsBelow key needs items level item := by
  obtain ⟨item, path⟩ := cycle
  refine ⟨item, ?_, not_isBelow_of_cycle path⟩
  cases Relation.TransGen.head'_iff.mp path with
  | intro _ first => exact first.1.1

/-- A cycle is found again among other items, where each step is. -/
theorem HasCycle.transfer {Other OtherKey : Type} {otherKey : Other → OtherKey}
    {otherNeeds : Other → List OtherKey} {others : List Other}
    (counterpart : Item → Other → Prop)
    (total : ∀ item ∈ items, ∃ other, counterpart item other)
    (unique : ∀ item first second, counterpart item first → counterpart item second →
      first = second)
    (follows : ∀ item needed other, Needs key needs items item needed →
      counterpart item other → ∃ next, counterpart needed next ∧
        Needs otherKey otherNeeds others other next)
    (cycle : HasCycle key needs items) : HasCycle otherKey otherNeeds others := by
  have along {first last : Item} {other : Other}
      (path : Relation.TransGen (Needs key needs items) first last)
      (begins : counterpart first other) : ∃ next, counterpart last next ∧
        Relation.TransGen (Needs otherKey otherNeeds others) other next := by
    induction path with
    | single step =>
        obtain ⟨next, isNext, needed⟩ := follows _ _ _ step begins
        exact ⟨next, isNext, .single needed⟩
    | tail _ step inductionHypothesis =>
        obtain ⟨middle, isMiddle, path⟩ := inductionHypothesis
        obtain ⟨next, isNext, needed⟩ := follows _ _ _ step isMiddle
        exact ⟨next, isNext, path.tail needed⟩
  obtain ⟨item, path⟩ := cycle
  obtain ⟨needed, first, -⟩ := Relation.TransGen.head'_iff.mp path
  obtain ⟨other, isOther⟩ := total item first.1
  obtain ⟨next, isNext, around⟩ := along path isOther
  obtain rfl := unique item other next isOther isNext
  exact ⟨other, around⟩

/-- Without a cycle, the next layer is not empty as long as items are left. -/
theorem exists_next_level (acyclic : ¬ HasCycle key needs items)
    (left : ∃ item ∈ items, ¬ IsBelow key needs items level item) :
    ∃ item ∈ items, IsLevel key needs items item level := by
  classical
  obtain ⟨item, member, above⟩ := left
  have some : items.filter (¬ IsBelow key needs items level ·) ≠ [] := by
    apply List.ne_nil_of_mem
    exact List.mem_filter.mpr ⟨member, decide_eq_true above⟩
  obtain ⟨ready, inPart, free⟩ := exists_ready acyclic some
  obtain ⟨inItems, aboveLevel⟩ := List.mem_filter.mp inPart
  refine ⟨ready, inItems, isLevel_iff.mpr ⟨?_, of_decide_eq_true aboveLevel⟩⟩
  apply isBelow_succ_iff.mpr
  intro needed first
  by_contra aboveNeeded
  exact free needed (List.mem_filter.mpr ⟨first.2.1, decide_eq_true aboveNeeded⟩) first

/-! ### What is placed -/

/-- The keys that are placed are those of the items below a level. -/
def PlacedTo (key : Item → Key) (needs : Item → List Key) (items : List Item) (level : Nat)
    (placed : Key → Prop) : Prop :=
  ∀ item ∈ items, placed (key item) ↔ IsBelow key needs items level item

variable {placed : Key → Prop}

theorem placedTo_zero (none : ∀ item ∈ items, ¬ placed (key item)) :
    PlacedTo key needs items 0 placed :=
  fun item member => iff_of_false (none item member) not_isBelow_zero

/-- The needs of an item are placed where the item is in the next layer, or before it. -/
theorem PlacedTo.ready_iff (isPlaced : PlacedTo key needs items level placed)
    (closed : ¬ Dangles key needs items) (member : item ∈ items) :
    (∀ needed ∈ needs item, placed needed) ↔ IsBelow key needs items (level + 1) item := by
  rw [isBelow_succ_iff]
  constructor
  · intro ready needed first
    exact (isPlaced needed first.2.1).mp (ready (key needed) first.2.2)
  · intro below needed isNeeded
    by_cases known : needed ∈ items.map key
    · obtain ⟨other, otherMember, rfl⟩ := List.mem_map.mp known
      exact (isPlaced other otherMember).mpr (below other ⟨member, otherMember, isNeeded⟩)
    · exact absurd ⟨item, member, needed, isNeeded, known⟩ closed

/-- Placing all items that are ready and not yet placed completes the next layer. -/
theorem PlacedTo.succ (isPlaced : PlacedTo key needs items level placed)
    (closed : ¬ Dangles key needs items) (distinct : (items.map key).Nodup)
    {later : Key → Prop}
    (places : ∀ item ∈ items, later (key item) ↔ placed (key item) ∨
      ∃ other ∈ items, (∀ needed ∈ needs other, placed needed) ∧ key other = key item) :
    PlacedTo key needs items (level + 1) later := by
  intro item member
  rw [places item member, isPlaced item member]
  constructor
  · intro either
    rcases either with before | ready
    · exact before.mono (Nat.le_succ level)
    · obtain ⟨other, otherMember, ready, same⟩ := ready
      obtain rfl := List.inj_on_of_nodup_map distinct otherMember member same
      exact (isPlaced.ready_iff closed member).mp ready
  · intro below
    exact Or.inr ⟨item, member, (isPlaced.ready_iff closed member).mpr below, rfl⟩

end Layers

end ResearchPlatform.Foundation
