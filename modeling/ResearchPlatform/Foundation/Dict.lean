import Mathlib.Data.List.Nodup
import Mathlib.Tactic.Common

/-!
# Insertion-ordered dictionaries

`Dict` is a list of entries with distinct keys.  Setting a key that is present
replaces its value in place; a new key goes to the end.
-/

namespace ResearchPlatform.Foundation

/-- `list(dict.fromkeys(items))` repeats nothing.  The induction is on the length, since
the rest is filtered first. -/
theorem nodup_eraseDups {Item : Type} [DecidableEq Item] (items : List Item) :
    items.eraseDups.Nodup := by
  induction length : items.length using Nat.strongRecOn generalizing items with
  | ind size inductionHypothesis =>
      cases items with
      | nil => exact List.nodup_nil
      | cons item rest =>
          rw [List.eraseDups_cons, List.nodup_cons]
          constructor
          · rw [List.mem_eraseDups, List.mem_filter]
            simp
          · apply inductionHypothesis _ ?_ _ rfl
            rw [← length, List.length_cons]
            exact Nat.lt_succ_of_le (List.length_filter_le _ _)

structure Dict (Key Value : Type) where
  entries : List (Key × Value)
  keysDistinct : (entries.map Prod.fst).Nodup
  deriving DecidableEq

namespace Dict

variable {Key Value : Type}

def empty : Dict Key Value := ⟨[], List.nodup_nil⟩

instance : EmptyCollection (Dict Key Value) := ⟨empty⟩

instance : Inhabited (Dict Key Value) := ⟨empty⟩

@[simp]
theorem entries_empty : (∅ : Dict Key Value).entries = [] := rfl

/-- Change every value, keeping keys and order. -/
def mapValues {Target : Type} (dict : Dict Key Value)
    (change : Key → Value → Target) : Dict Key Target where
  entries := dict.entries.map fun entry => (entry.1, change entry.1 entry.2)
  keysDistinct := by
    simpa [List.map_map, Function.comp_def] using dict.keysDistinct

theorem mapValues_mapValues {Middle Target : Type} (dict : Dict Key Value)
    (first : Key → Value → Middle) (second : Key → Middle → Target) :
    (dict.mapValues first).mapValues second =
      dict.mapValues fun key value => second key (first key value) := by
  simp [mapValues, Function.comp_def]

theorem eq_of_entries {first second : Dict Key Value}
    (same : first.entries = second.entries) : first = second := by
  cases first
  cases second
  congr

/-- The entries that a test keeps. -/
def filter (dict : Dict Key Value) (keep : Key × Value → Bool) : Dict Key Value where
  entries := dict.entries.filter keep
  keysDistinct := dict.keysDistinct.sublist (List.filter_sublist.map Prod.fst)

/-- The entries whose keys a test keeps. -/
def restrict (dict : Dict Key Value) (keep : Key → Bool) : Dict Key Value :=
  dict.filter (keep ·.1)

theorem entries_restrict {dict : Dict Key Value} {keep : Key → Bool} :
    (dict.restrict keep).entries = dict.entries.filter (keep ·.1) := rfl

variable [DecidableEq Key]

/-- `dict.get(key)`. -/
def get? (dict : Dict Key Value) (key : Key) : Option Value :=
  (dict.entries.find? (·.1 = key)).map Prod.snd

/-- Replace the value of a key where it occurs. -/
def replace (entries : List (Key × Value)) (key : Key) (value : Value) :
    List (Key × Value) :=
  entries.map fun entry => if entry.1 = key then (key, value) else entry

theorem replace_keys (entries : List (Key × Value)) (key : Key) (value : Value) :
    (replace entries key value).map Prod.fst = entries.map Prod.fst := by
  rw [replace, List.map_map]
  apply List.map_congr_left
  intro entry _
  by_cases same : entry.1 = key <;> simp [same]

theorem replace_of_not_mem {entries : List (Key × Value)} {key : Key}
    {value : Value} (absent : key ∉ entries.map Prod.fst) :
    replace entries key value = entries := by
  have fixed : ∀ entry ∈ entries,
      (if entry.1 = key then (key, value) else entry) = entry := by
    intro entry member
    have different : entry.1 ≠ key := by
      rintro rfl
      exact absent (List.mem_map_of_mem member)
    exact if_neg different
  exact (List.map_congr_left fixed).trans (List.map_id entries)

/-- `dict[key] = value`. -/
def set (dict : Dict Key Value) (key : Key) (value : Value) : Dict Key Value :=
  if present : key ∈ dict.entries.map Prod.fst then
    ⟨replace dict.entries key value, by
      rw [replace_keys]
      exact dict.keysDistinct⟩
  else
    ⟨dict.entries ++ [(key, value)], by
      rw [List.map_append, List.nodup_append]
      refine ⟨dict.keysDistinct, List.nodup_singleton key, ?_⟩
      intro other otherMember new newMember same
      simp only [List.map_cons, List.map_nil, List.mem_singleton] at newMember
      exact present (by rwa [← newMember, ← same])⟩

@[simp]
theorem get?_empty (key : Key) : (∅ : Dict Key Value).get? key = none := rfl

/-- A key has a value exactly when it is the key of an entry. -/
theorem get?_eq_none_iff {dict : Dict Key Value} {key : Key} :
    dict.get? key = none ↔ key ∉ dict.entries.map Prod.fst := by
  simp only [get?, Option.map_eq_none_iff, List.find?_eq_none, List.mem_map,
    not_exists, not_and, decide_eq_true_eq]

theorem find?_replace_self {entries : List (Key × Value)} {key : Key} {value : Value}
    (present : key ∈ entries.map Prod.fst) :
    (replace entries key value).find? (·.1 = key) = some (key, value) := by
  induction entries with
  | nil => simp at present
  | cons head tail inductionHypothesis =>
      by_cases same : head.1 = key
      · simp [replace, same]
      · have later : key ∈ tail.map Prod.fst := by
          simpa [Ne.symm same] using present
        simpa [replace, same] using inductionHypothesis later

theorem find?_replace_of_ne {entries : List (Key × Value)} {key other : Key}
    {value : Value} (different : other ≠ key) :
    (replace entries key value).find? (·.1 = other) =
      entries.find? (·.1 = other) := by
  induction entries with
  | nil => rfl
  | cons head tail inductionHypothesis =>
      rw [replace] at inductionHypothesis ⊢
      by_cases same : head.1 = key
      · simp [same, Ne.symm different, inductionHypothesis]
      · by_cases found : head.1 = other
        · simp [found, different]
        · simp [same, found, inductionHypothesis]

@[simp]
theorem get?_set_self (dict : Dict Key Value) (key : Key) (value : Value) :
    (dict.set key value).get? key = some value := by
  unfold set
  split
  · rename_i present
    simp [get?, find?_replace_self present]
  · rename_i absent
    have notFound : dict.entries.find? (·.1 = key) = none :=
      Option.map_eq_none_iff.mp (get?_eq_none_iff.mpr absent)
    simp [get?, List.find?_append, notFound]

theorem get?_set_of_ne (dict : Dict Key Value) {key other : Key} (value : Value)
    (different : other ≠ key) :
    (dict.set key value).get? other = dict.get? other := by
  unfold set
  split
  · simp [get?, find?_replace_of_ne different]
  · simp [get?, List.find?_append, Ne.symm different]

/-- A new key goes to the end. -/
theorem entries_set_of_not_mem {dict : Dict Key Value} {key : Key} (value : Value)
    (absent : key ∉ dict.entries.map Prod.fst) :
    (dict.set key value).entries = dict.entries ++ [(key, value)] := by
  rw [set, dif_neg absent]

/-- Both facts about reading after a write. -/
theorem get?_set (dict : Dict Key Value) (key other : Key) (value : Value) :
    (dict.set key value).get? other =
      if other = key then some value else dict.get? other := by
  split
  · rename_i same
    rw [same, get?_set_self]
  · rename_i different
    exact get?_set_of_ne dict value different

/-- The later of two writes to one key is the one that stays. -/
theorem set_set (dict : Dict Key Value) (key : Key) (first second : Value) :
    (dict.set key first).set key second = dict.set key second := by
  by_cases present : key ∈ dict.entries.map Prod.fst
  · have still : key ∈ (replace dict.entries key first).map Prod.fst := by
      rwa [replace_keys]
    simp only [set, dif_pos present, dif_pos still, mk.injEq]
    simp only [replace, List.map_map]
    apply List.map_congr_left
    intro entry _
    by_cases same : entry.1 = key <;> simp [same]
  · have added : key ∈ (dict.entries ++ [(key, first)]).map Prod.fst := by simp
    simp only [set, dif_neg present, dif_pos added, mk.injEq]
    rw [replace, List.map_append, ← replace, replace_of_not_mem present]
    simp

@[simp]
theorem get?_mapValues {Target : Type} (dict : Dict Key Value)
    (change : Key → Value → Target) (key : Key) :
    (dict.mapValues change).get? key = (dict.get? key).map (change key) := by
  obtain ⟨entries, distinct⟩ := dict
  simp only [mapValues, get?]
  clear distinct
  induction entries with
  | nil => rfl
  | cons head tail inductionHypothesis =>
      by_cases same : head.1 = key
      · simp [same]
      · simpa [same] using inductionHypothesis

/-- `dict.setdefault(key, value)`. -/
def setDefault (dict : Dict Key Value) (key : Key) (value : Value) :
    Value × Dict Key Value :=
  match dict.get? key with
  | some present => (present, dict)
  | none => (value, dict.set key value)

theorem setDefault_fst (dict : Dict Key Value) (key : Key) (value : Value) :
    (dict.setDefault key value).1 = (dict.get? key).getD value := by
  unfold setDefault
  cases dict.get? key <;> rfl

/-- Setting the key right after its default is setting it. -/
theorem setDefault_set (dict : Dict Key Value) (key : Key) (first second : Value) :
    (dict.setDefault key first).2.set key second = dict.set key second := by
  unfold setDefault
  cases dict.get? key with
  | some present => rfl
  | none => exact set_set dict key first second

/-- `dict.pop(key, None)`, without the value. -/
def erase (dict : Dict Key Value) (key : Key) : Dict Key Value where
  entries := dict.entries.filter (·.1 ≠ key)
  keysDistinct :=
    dict.keysDistinct.sublist (List.filter_sublist.map Prod.fst)

theorem get?_erase (dict : Dict Key Value) (key other : Key) :
    (dict.erase key).get? other = if other = key then none else dict.get? other := by
  simp only [erase, get?, List.find?_filter]
  by_cases same : other = key
  · subst same
    rw [if_pos rfl, Option.map_eq_none_iff, List.find?_eq_none]
    intro entry _
    simp
  · rw [if_neg same]
    congr 2
    funext entry
    by_cases found : entry.1 = other
    · simp [found, same]
    · simp [found]

theorem mem_entries_of_get? {dict : Dict Key Value} {key : Key} {value : Value}
    (found : dict.get? key = some value) : (key, value) ∈ dict.entries := by
  obtain ⟨entry, entryFound, rfl⟩ := Option.map_eq_some_iff.mp found
  have sameKey : entry.1 = key := by simpa using List.find?_some entryFound
  rw [← sameKey]
  exact List.mem_of_find?_eq_some entryFound

theorem get?_of_mem_entries {dict : Dict Key Value} {key : Key} {value : Value}
    (member : (key, value) ∈ dict.entries) : dict.get? key = some value := by
  cases found : dict.get? key with
  | none =>
      exact absurd (List.mem_map_of_mem member) (get?_eq_none_iff.mp found)
  | some other =>
      have same : (key, value) = (key, other) :=
        List.inj_on_of_nodup_map dict.keysDistinct member (mem_entries_of_get? found) rfl
      rw [(Prod.mk.inj same).2]

theorem filter_key_eq_nil {entries : List (Key × Value)} {key : Key}
    (absent : key ∉ entries.map Prod.fst) : entries.filter (·.1 = key) = [] := by
  apply List.filter_eq_nil_iff.mpr
  intro entry member same
  exact absent (of_decide_eq_true same ▸ List.mem_map_of_mem member)

/-- A key with a value has that one entry. -/
theorem filter_key_eq_singleton {entries : List (Key × Value)} {key : Key}
    {value : Value} (distinct : (entries.map Prod.fst).Nodup)
    (member : (key, value) ∈ entries) : entries.filter (·.1 = key) = [(key, value)] := by
  induction entries with
  | nil => cases member
  | cons head tail inductionHypothesis =>
      obtain ⟨headNew, tailDistinct⟩ := List.nodup_cons.mp distinct
      rcases List.mem_cons.mp member with rfl | later
      · rw [List.filter_cons_of_pos (by simp), filter_key_eq_nil headNew]
      · have different : head.1 ≠ key := by
          rintro rfl
          exact headNew (List.mem_map.mpr ⟨_, later, rfl⟩)
        rw [List.filter_cons_of_neg (by simpa using different),
          inductionHypothesis tailDistinct later]

/-! ## The entries of some keys -/

/-- A present key keeps its place. -/
theorem entries_set_of_mem {dict : Dict Key Value} {key : Key} (value : Value)
    (present : key ∈ dict.entries.map Prod.fst) :
    (dict.set key value).entries = replace dict.entries key value := by
  rw [set, dif_pos present]

variable {dict : Dict Key Value} {keep : Key → Bool} {key : Key} {value : Value}

theorem get?_restrict (kept : keep key = true) :
    (dict.restrict keep).get? key = dict.get? key := by
  simp only [restrict, filter, get?, List.find?_filter]
  congr 2
  funext entry
  by_cases same : entry.1 = key <;> simp [same, kept]

theorem mem_keys_restrict (kept : keep key = true) :
    key ∈ (dict.restrict keep).entries.map Prod.fst ↔
      key ∈ dict.entries.map Prod.fst := by
  rw [← not_iff_not, ← get?_eq_none_iff, ← get?_eq_none_iff, get?_restrict kept]

/-- Replacing a value changes no key that a test looks at. -/
theorem filter_replace {entries : List (Key × Value)} :
    (replace entries key value).filter (keep ·.1) =
      replace (entries.filter (keep ·.1)) key value := by
  unfold replace
  rw [List.filter_map]
  congr 1
  apply List.filter_congr
  intro entry _
  by_cases same : entry.1 = key <;> simp [same]

/-- Setting a kept key, before or after the others are dropped. -/
theorem restrict_set (kept : keep key = true) :
    (dict.set key value).restrict keep = (dict.restrict keep).set key value := by
  apply eq_of_entries
  by_cases present : key ∈ dict.entries.map Prod.fst
  · rw [entries_restrict, entries_set_of_mem value present,
      entries_set_of_mem value ((mem_keys_restrict kept).mpr present), filter_replace,
      entries_restrict]
  · have still : key ∉ (dict.restrict keep).entries.map Prod.fst := by
      rwa [mem_keys_restrict kept]
    rw [entries_restrict, entries_set_of_not_mem value present,
      entries_set_of_not_mem value still, List.filter_append, entries_restrict]
    simp [kept]

/-- Setting a dropped key does not show. -/
theorem restrict_set_of_dropped (dropped : keep key = false) :
    (dict.set key value).restrict keep = dict.restrict keep := by
  apply eq_of_entries
  by_cases present : key ∈ dict.entries.map Prod.fst
  · rw [entries_restrict, entries_set_of_mem value present, filter_replace,
      entries_restrict]
    apply replace_of_not_mem
    intro member
    obtain ⟨entry, kept, rfl⟩ := List.mem_map.mp member
    have isKept : keep entry.1 = true := (List.mem_filter.mp kept).2
    rw [dropped] at isKept
    cases isKept
  · rw [entries_restrict, entries_set_of_not_mem value present, List.filter_append,
      entries_restrict]
    simp [dropped]

/-- Dictionaries that agree on the kept keys have the same values there. -/
theorem get?_eq_of_restrict {other : Dict Key Value}
    (same : dict.restrict keep = other.restrict keep) (kept : keep key = true) :
    dict.get? key = other.get? key := by
  rw [← get?_restrict kept, same, get?_restrict kept]

/-- Setting one key keeps the agreement. -/
theorem restrict_set_congr {other : Dict Key Value}
    (same : dict.restrict keep = other.restrict keep) :
    (dict.set key value).restrict keep = (other.set key value).restrict keep := by
  by_cases kept : keep key = true
  · rw [restrict_set kept, restrict_set kept, same]
  · have dropped : keep key = false := Bool.eq_false_iff.mpr kept
    rw [restrict_set_of_dropped dropped, restrict_set_of_dropped dropped, same]

end Dict

end ResearchPlatform.Foundation
