import Mathlib.Data.List.Sort
import Mathlib.Data.Rat.Defs
import ResearchPlatform.Foundation.Dict

/-!
# Redis hashes, sets and sorted sets

The commands, each one step.  A field is always written by commands of one kind, so
a value is kept in the form it was written in, and the errors of reading one kind as
another do not arise.  Numbers are exact.  Only sorted sets expire here: a key whose
time is over is not there for the command that looks at it.
-/

namespace ResearchPlatform.Foundation

/-- A value of a hash field. -/
inductive Scalar where
  | text (value : String)
  | int (value : Int)
  | float (value : ℚ)
  deriving DecidableEq

namespace Scalar

/-- `tonumber(value or '0')` of a whole number. -/
def asInt : Option Scalar → Int
  | some (int value) => value
  | _ => 0

/-- `tonumber(value or '0')`. -/
def asFloat : Option Scalar → ℚ
  | some (float value) => value
  | _ => 0

/-- `value or default`. -/
def asText (default : String) : Option Scalar → String
  | some (text value) => value
  | _ => default

@[simp]
theorem asInt_int (value : Int) : asInt (some (int value)) = value := rfl

@[simp]
theorem asFloat_float (value : ℚ) : asFloat (some (float value)) = value := rfl

@[simp]
theorem asText_text (default value : String) :
    asText default (some (text value)) = value := rfl

end Scalar

/-- The scores of the members, and when the key expires, in milliseconds. -/
structure SortedSet where
  scores : Dict String Int := ∅
  expiresAt : Option Int := none

structure Redis where
  hashes : Dict String (Dict String Scalar) := ∅
  sets : Dict String (List String) := ∅
  sortedSets : Dict String SortedSet := ∅

namespace Redis

variable (store : Redis)

/-- `HGETALL`. -/
def hgetall (key : String) : Dict String Scalar :=
  (store.hashes.get? key).getD ∅

/-- `HGET`. -/
def hget (key field : String) : Option Scalar :=
  (store.hgetall key).get? field

/-- `HSET`. -/
def hset (key field : String) (value : Scalar) : Redis :=
  { store with
    hashes := store.hashes.set key ((store.hgetall key).set field value) }

/-- `HINCRBY`. -/
def hincrby (key field : String) (amount : Int) : Int × Redis :=
  let total := Scalar.asInt (store.hget key field) + amount
  (total, store.hset key field (.int total))

/-- `HINCRBYFLOAT`. -/
def hincrbyfloat (key field : String) (amount : ℚ) : ℚ × Redis :=
  let total := Scalar.asFloat (store.hget key field) + amount
  (total, store.hset key field (.float total))

/-- `DEL`. -/
def del (key : String) : Redis :=
  { store with hashes := store.hashes.erase key }

/-- `SMEMBERS`. -/
def smembers (key : String) : List String :=
  (store.sets.get? key).getD []

/-- `SADD`. -/
def sadd (key member : String) : Redis :=
  if member ∈ store.smembers key then store
  else { store with sets := store.sets.set key (store.smembers key ++ [member]) }

/-- The sorted set that a command finds at a time in milliseconds. -/
def sortedSet (key : String) (nowMs : Int) : Option SortedSet :=
  (store.sortedSets.get? key).filter fun set => set.expiresAt.all (nowMs ≤ ·)

/-- `ZREMRANGEBYSCORE key -inf highest`.  A set without members is not kept. -/
def zremrangebyscore (key : String) (highest nowMs : Int) : Redis :=
  match store.sortedSet key nowMs with
  | none => { store with sortedSets := store.sortedSets.erase key }
  | some set =>
      let scores := set.scores.filter (highest < ·.2)
      if scores.entries = [] then
        { store with sortedSets := store.sortedSets.erase key }
      else
        { store with sortedSets := store.sortedSets.set key { set with scores } }

/-- `ZCARD`. -/
def zcard (key : String) (nowMs : Int) : Nat :=
  match store.sortedSet key nowMs with
  | none => 0
  | some set => set.scores.entries.length

/-- `ZADD`. -/
def zadd (key : String) (score : Int) (member : String) (nowMs : Int) : Redis :=
  let set := (store.sortedSet key nowMs).getD {}
  { store with
    sortedSets := store.sortedSets.set key
      { set with scores := set.scores.set member score } }

/-- `PEXPIRE`, for a positive time to live. -/
def pexpire (key : String) (milliseconds nowMs : Int) : Redis :=
  match store.sortedSet key nowMs with
  | none => store
  | some set =>
      { store with
        sortedSets := store.sortedSets.set key
          { set with expiresAt := some (nowMs + milliseconds) } }

variable {store} {key other field member : String} {value : Scalar}

@[simp]
theorem hgetall_hset_self :
    (store.hset key field value).hgetall key = (store.hgetall key).set field value := by
  simp [hgetall, hset]

theorem hgetall_hset_of_ne (different : other ≠ key) :
    (store.hset key field value).hgetall other = store.hgetall other := by
  simp [hgetall, hset, Dict.get?_set_of_ne _ _ different]

@[simp]
theorem hgetall_del_self : (store.del key).hgetall key = ∅ := by
  simp [hgetall, del, Dict.get?_erase]

theorem hgetall_del_of_ne (different : other ≠ key) :
    (store.del key).hgetall other = store.hgetall other := by
  simp [hgetall, del, Dict.get?_erase, different]

@[simp]
theorem hgetall_sadd : (store.sadd key member).hgetall other = store.hgetall other := by
  unfold sadd
  split <;> rfl

@[simp]
theorem smembers_hset : (store.hset key field value).smembers other = store.smembers other :=
  rfl

@[simp]
theorem smembers_del : (store.del key).smembers other = store.smembers other := rfl

theorem mem_smembers_sadd {name : String} :
    name ∈ (store.sadd key member).smembers key ↔
      name ∈ store.smembers key ∨ name = member := by
  by_cases present : member ∈ store.smembers key
  · rw [sadd, if_pos present]
    constructor
    · exact Or.inl
    · intro either
      rcases either with earlier | rfl
      · exact earlier
      · exact present
  · have added : (store.sadd key member).smembers key =
        store.smembers key ++ [member] := by
      rw [sadd, if_neg present, smembers, Dict.get?_set_self, Option.getD_some]
    rw [added, List.mem_append, List.mem_singleton]

/-! ## Sorted sets -/

variable {highest score nowMs milliseconds : Int} {set : SortedSet}

theorem get?_zremrangebyscore_of_ne (different : other ≠ key) :
    (store.zremrangebyscore key highest nowMs).sortedSets.get? other =
      store.sortedSets.get? other := by
  unfold zremrangebyscore
  cases store.sortedSet key nowMs with
  | none => simp [Dict.get?_erase, different]
  | some set =>
      by_cases empty : (set.scores.filter (highest < ·.2)).entries = []
      · simp [empty, Dict.get?_erase, different]
      · simp [empty, Dict.get?_set_of_ne _ _ different]

theorem get?_zremrangebyscore_of_none (gone : store.sortedSet key nowMs = none) :
    (store.zremrangebyscore key highest nowMs).sortedSets.get? key = none := by
  simp [zremrangebyscore, gone, Dict.get?_erase]

theorem get?_zremrangebyscore (found : store.sortedSet key nowMs = some set) :
    (store.zremrangebyscore key highest nowMs).sortedSets.get? key =
      if (set.scores.filter (highest < ·.2)).entries = [] then none
      else some { set with scores := set.scores.filter (highest < ·.2) } := by
  by_cases empty : (set.scores.filter (highest < ·.2)).entries = []
  · simp [zremrangebyscore, found, empty, Dict.get?_erase]
  · simp [zremrangebyscore, found, empty]

theorem get?_zadd_of_ne (different : other ≠ key) :
    (store.zadd key score member nowMs).sortedSets.get? other =
      store.sortedSets.get? other :=
  Dict.get?_set_of_ne _ _ different

theorem get?_zadd :
    (store.zadd key score member nowMs).sortedSets.get? key =
      some { (store.sortedSet key nowMs).getD {} with
        scores := ((store.sortedSet key nowMs).getD {}).scores.set member score } :=
  Dict.get?_set_self ..

theorem get?_pexpire_of_ne (different : other ≠ key) :
    (store.pexpire key milliseconds nowMs).sortedSets.get? other =
      store.sortedSets.get? other := by
  unfold pexpire
  cases store.sortedSet key nowMs with
  | none => rfl
  | some set => exact Dict.get?_set_of_ne _ _ different

theorem get?_pexpire (found : store.sortedSet key nowMs = some set) :
    (store.pexpire key milliseconds nowMs).sortedSets.get? key =
      some { set with expiresAt := some (nowMs + milliseconds) } := by
  simp [pexpire, found]

theorem sortedSet_of_none (absent : store.sortedSets.get? key = none) :
    store.sortedSet key nowMs = none := by
  rw [sortedSet, absent]
  rfl

/-- What a command finds is kept, and its time is not over. -/
theorem get?_of_sortedSet (found : store.sortedSet key nowMs = some set) :
    store.sortedSets.get? key = some set ∧ set.expiresAt.all (nowMs ≤ ·) = true :=
  Option.filter_eq_some_iff.mp found

/-- A command finds a set until its time is over. -/
theorem sortedSet_of_some (kept : store.sortedSets.get? key = some set) :
    store.sortedSet key nowMs =
      if set.expiresAt.all (nowMs ≤ ·) then some set else none := by
  rw [sortedSet, kept]
  rfl

end Redis

end ResearchPlatform.Foundation
