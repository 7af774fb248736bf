import Mathlib.Data.List.Nodup
import ResearchPlatform.Foundation.Dict
import ResearchPlatform.Foundation.Ordering

/-!
# Tables

Tables of rows with a primary key, and the statements of a relational database on
them.  Nothing but `ORDER BY` says in which order rows are found.
-/

namespace ResearchPlatform.Foundation

/-- A table whose rows have distinct primary keys. -/
structure Table (Row Key : Type) (primary : Row → Key) where
  rows : List Row := []
  keysDistinct : (rows.map primary).Nodup := by exact List.nodup_nil

/-- The order in which a scan happens to find rows. -/
structure ScanOrder where
  arrange : {Row : Type} → List Row → List Row
  arrange_perm : ∀ {Row : Type} (rows : List Row), (arrange rows).Perm rows

/-- Rows are found as they were inserted. -/
def ScanOrder.inserted : ScanOrder where
  arrange rows := rows
  arrange_perm := List.Perm.refl

namespace Table

variable {Row Key : Type} {primary : Row → Key} [DecidableEq Key]

/-- `INSERT`: a key that is taken violates the primary key. -/
def insert (table : Table Row Key primary) (row : Row) :
    Option (Table Row Key primary) :=
  if taken : primary row ∈ table.rows.map primary then
    none
  else
    some ⟨table.rows ++ [row], by
      rw [List.map_append, List.nodup_append]
      refine ⟨table.keysDistinct, List.nodup_singleton _, ?_⟩
      intro other otherMember new newMember same
      rw [List.map_singleton, List.mem_singleton] at newMember
      exact taken (by rwa [← newMember, ← same])⟩

/-- `INSERT ... ON CONFLICT (key) DO NOTHING`. -/
def insertIfAbsent (table : Table Row Key primary) (row : Row) :
    Table Row Key primary :=
  (table.insert row).getD table

/-- `UPDATE ... SET ... WHERE key = ...`: how many rows were found, and the table
with these rows changed. -/
def update (table : Table Row Key primary) (key : Key) (change : Row → Row)
    (keepsKey : ∀ row, primary (change row) = primary row) :
    Nat × Table Row Key primary :=
  (table.rows.countP (primary · = key),
    ⟨table.rows.map fun row => if primary row = key then change row else row, by
      have sameKeys : (table.rows.map fun row =>
          if primary row = key then change row else row).map primary =
            table.rows.map primary := by
        rw [List.map_map]
        apply List.map_congr_left
        intro row _
        by_cases found : primary row = key
        · simpa [found] using (keepsKey row).trans found
        · simp [found]
      rw [sameKeys]
      exact table.keysDistinct⟩)

/-- `INSERT ... ON CONFLICT (key) DO UPDATE SET` every other column. -/
def upsert (table : Table Row Key primary) (row : Row) : Table Row Key primary :=
  match table.insert row with
  | some inserted => inserted
  | none =>
      ⟨table.rows.map fun present =>
          if primary present = primary row then row else present, by
        have sameKeys : (table.rows.map fun present =>
            if primary present = primary row then row else present).map primary =
              table.rows.map primary := by
          rw [List.map_map]
          apply List.map_congr_left
          intro present _
          by_cases found : primary present = primary row <;> simp [found]
        rw [sameKeys]
        exact table.keysDistinct⟩

omit [DecidableEq Key] in
/-- `DELETE ... WHERE`. -/
def delete (table : Table Row Key primary) (doomed : Row → Bool) :
    Table Row Key primary where
  rows := table.rows.filter fun row => !doomed row
  keysDistinct := table.keysDistinct.sublist (List.filter_sublist.map primary)

omit [DecidableEq Key] in
/-- `SELECT ... WHERE`. -/
def select (table : Table Row Key primary) (order : ScanOrder) (wanted : Row → Bool) :
    List Row :=
  order.arrange (table.rows.filter wanted)

omit [DecidableEq Key] in
/-- `SELECT ... WHERE ... ORDER BY`. -/
def selectBy (table : Table Row Key primary) (order : ScanOrder) (wanted : Row → Bool)
    (before : Row → Row → Prop) [DecidableRel before] : List Row :=
  (table.select order wanted).insertionSort before

variable {table : Table Row Key primary} {row : Row}

/-! ## Inserting -/

theorem insert_eq_none (taken : primary row ∈ table.rows.map primary) :
    table.insert row = none := dif_pos taken

/-- A row with a new key is added. -/
theorem exists_insert (fresh : primary row ∉ table.rows.map primary) :
    ∃ inserted, table.insert row = some inserted ∧
      inserted.rows = table.rows ++ [row] :=
  ⟨_, dif_neg fresh, rfl⟩

theorem insertIfAbsent_of_taken (taken : primary row ∈ table.rows.map primary) :
    table.insertIfAbsent row = table := by
  rw [insertIfAbsent, insert_eq_none taken, Option.getD_none]

theorem rows_insertIfAbsent (fresh : primary row ∉ table.rows.map primary) :
    (table.insertIfAbsent row).rows = table.rows ++ [row] := by
  obtain ⟨inserted, inserts, rows⟩ := exists_insert fresh
  rw [insertIfAbsent, inserts, Option.getD_some, rows]

theorem rows_upsert_of_fresh (fresh : primary row ∉ table.rows.map primary) :
    (table.upsert row).rows = table.rows ++ [row] := by
  obtain ⟨inserted, inserts, rows⟩ := exists_insert fresh
  rw [upsert, inserts, rows]

theorem rows_upsert_of_taken (taken : primary row ∈ table.rows.map primary) :
    (table.upsert row).rows = table.rows.map fun present =>
      if primary present = primary row then row else present := by
  rw [upsert, insert_eq_none taken]

/-- Insert the rows in order, or stop at the first that is refused. -/
def insertAll (table : Table Row Key primary) :
    List Row → Option (Table Row Key primary)
  | [] => some table
  | row :: rest => (table.insert row).bind (·.insertAll rest)

/-- Rows with new and distinct keys are all added. -/
theorem exists_insertAll {rows : List Row} (distinct : (rows.map primary).Nodup)
    (fresh : ∀ row ∈ rows, primary row ∉ table.rows.map primary) :
    ∃ inserted, table.insertAll rows = some inserted ∧
      inserted.rows = table.rows ++ rows := by
  induction rows generalizing table with
  | nil => exact ⟨table, rfl, (List.append_nil _).symm⟩
  | cons row rest inductionHypothesis =>
      obtain ⟨notLater, restDistinct⟩ := List.nodup_cons.mp distinct
      obtain ⟨first, inserts, firstRows⟩ := exists_insert (fresh row List.mem_cons_self)
      have stillFresh : ∀ other ∈ rest, primary other ∉ first.rows.map primary := by
        intro other member
        rw [firstRows, List.map_append, List.mem_append, not_or]
        refine ⟨fresh other (List.mem_cons_of_mem row member), ?_⟩
        intro same
        rw [List.map_singleton, List.mem_singleton] at same
        exact notLater (same ▸ List.mem_map_of_mem member)
      obtain ⟨last, rests, lastRows⟩ := inductionHypothesis restDistinct stillFresh
      refine ⟨last, ?_, ?_⟩
      · rw [insertAll, inserts, Option.bind_some, rests]
      · rw [lastRows, firstRows, List.append_assoc, List.singleton_append]

/-! ## Finding -/

omit [DecidableEq Key] in
theorem select_perm (table : Table Row Key primary) (order : ScanOrder)
    (wanted : Row → Bool) :
    (table.select order wanted).Perm (table.rows.filter wanted) :=
  order.arrange_perm _

omit [DecidableEq Key] in
theorem select_eq_nil {order : ScanOrder} {wanted : Row → Bool}
    (noRow : table.rows.filter wanted = []) : table.select order wanted = [] := by
  have found := table.select_perm order wanted
  rw [noRow] at found
  exact found.eq_nil

omit [DecidableEq Key] in
theorem select_eq_singleton {order : ScanOrder} {wanted : Row → Bool}
    (oneRow : table.rows.filter wanted = [row]) : table.select order wanted = [row] := by
  have found := table.select_perm order wanted
  rw [oneRow] at found
  exact found.eq_singleton

/-! ## Ordering -/

variable {Row Key Item : Type} {primary : Row → Key} {table : Table Row Key primary}
  {wanted : Row → Bool} {items : List Item} {write : Item → Row}

/-- The rows that were written for some items come back in the items' order. -/
theorem selectBy_eq (order : ScanOrder) {before : Row → Row → Prop}
    [DecidableRel before] (total : ∀ left right, before left right ∨ before right left)
    (transitive : ∀ left middle right, before left middle → before middle right →
      before left right)
    (stored : table.rows.filter wanted = items.map write)
    (noTies : ∀ left ∈ items, ∀ right ∈ items, before (write left) (write right) →
      before (write right) (write left) → left = right) :
    table.selectBy order wanted before =
      (items.insertionSort fun left right => before (write left) (write right)).map
        write := by
  have found : (items.map write).Perm (table.select order wanted) := by
    rw [← stored]
    exact (select_perm table order wanted).symm
  have rowsDiffer : ∀ left ∈ items.map write, ∀ right ∈ items.map write,
      before left right → before right left → left = right := by
    intro left leftMember right rightMember leftFirst rightFirst
    obtain ⟨leftItem, leftIn, rfl⟩ := List.mem_map.mp leftMember
    obtain ⟨rightItem, rightIn, rfl⟩ := List.mem_map.mp rightMember
    rw [noTies leftItem leftIn rightItem rightIn leftFirst rightFirst]
  rw [selectBy, ← insertionSort_eq_of_perm total transitive rowsDiffer found]
  exact (List.map_insertionSort _ _ write items fun _ _ _ _ => Iff.rfl).symm

/-- Rows that were written in the order of a column come back as they were. -/
theorem selectBy_eq_of_ordered (order : ScanOrder) {Rank : Type} [LinearOrder Rank]
    {rank : Row → Rank} (stored : table.rows.filter wanted = items.map write)
    (ordered : (items.map write).Pairwise fun left right => rank left < rank right) :
    table.selectBy order wanted (fun left right => rank left ≤ rank right) =
      items.map write := by
  have found : (table.select order wanted).Perm (items.map write) := by
    rw [← stored]
    exact select_perm table order wanted
  exact insertionSort_eq_of_ordered ordered found

end Table

end ResearchPlatform.Foundation
