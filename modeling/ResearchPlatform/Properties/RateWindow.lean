import ResearchPlatform.Foundation.SlidingWindow
import ResearchPlatform.Persistence.RedisState

/-!
# Rate limits over every window

The grants of a key are what the limiter's history says.  No window holds more of
them than the limit, every answer is computed from those that the window still
holds, and the limiter over Redis answers as the one in process memory.
-/

namespace ResearchPlatform

open Foundation SlidingWindow

/-- The grants of a key after one more answered call. -/
def noteGrant (key : String) (grants : List Timestamp) :
    (RateCall × RateReadings) × RateAnswer → List Timestamp
  | ((.acquire other, readings), .count _) =>
      if other = key then grants ++ [readings.granted] else grants
  | _ => grants

/-- The times of the grants of a key. -/
def grantsOf (key : String) (answered : List ((RateCall × RateReadings) × RateAnswer)) :
    List Timestamp :=
  runFrom (noteGrant key) [] answered

/-- The clock never goes back, from call to call and within a call. -/
def rateClock : Service.Guard Timestamp (RateCall × RateReadings) where
  observe _ call := call.2.granted
  admits last call := last ≤ call.2.pruned ∧ call.2.pruned ≤ call.2.granted

/-- The key that a call is about. -/
def RateCall.key : RateCall → String
  | remaining key | acquire key => key

/-- What a call is answered when `used` grants are in the window. -/
def rateAnswer (limit : Nat) (window : Int) (used : Nat) : RateCall → RateAnswer
  | .remaining _ => .count (limit - used)
  | .acquire key =>
      if used ≥ limit then .exceeded ⟨key, limit, window⟩ else .count (limit - (used + 1))

theorem rateAnswer_of_full {limit used : Nat} {window : Int} {key : String}
    (full : used ≥ limit) :
    rateAnswer limit window used (.acquire key) = .exceeded ⟨key, limit, window⟩ :=
  if_pos full

theorem rateAnswer_of_room {limit used : Nat} {window : Int} {key : String}
    (room : used < limit) :
    rateAnswer limit window used (.acquire key) = .count (limit - (used + 1)) :=
  if_neg (Nat.not_le_of_lt room)

/-! ## One key -/

/-- The hits that a limiter keeps for a key, last looked at when the clock read
`seen`, and the grants of the key. -/
structure Windowed (limit : Nat) (window : Int) (seen : Timestamp)
    (hits grants : List Timestamp) : Prop where
  sorted : grants.Pairwise (· ≤ ·)
  past : ∀ time ∈ grants, time ≤ seen
  kept : ∃ cutoff ≤ seen - window, hits = grants.filter (cutoff < ·)
  bounded : ∀ last, (within window last grants).length ≤ limit

section Key

variable {limit : Nat} {window : Int} {seen now : Timestamp} {hits grants : List Timestamp}

theorem windowed_nil : Windowed limit window seen [] [] where
  sorted := List.Pairwise.nil
  past := by simp
  kept := ⟨seen - window, le_refl _, rfl⟩
  bounded := by simp [within]

theorem Windowed.later (windowed : Windowed limit window seen hits grants)
    (passed : seen ≤ now) : Windowed limit window now hits grants := by
  obtain ⟨sorted, past, ⟨cutoff, old, kept⟩, bounded⟩ := windowed
  have stillOld : cutoff ≤ now - window := old.trans (Int.sub_le_sub_right passed _)
  exact ⟨sorted, fun time member => (past time member).trans passed,
    ⟨cutoff, stillOld, kept⟩, bounded⟩

/-- Pruning keeps the grants that are still in the window. -/
theorem Windowed.prune (windowed : Windowed limit window seen hits grants)
    (passed : seen ≤ now) :
    hits.dropWhile (· ≤ now - window) = alive window now grants ∧
      Windowed limit window now (alive window now grants) grants := by
  obtain ⟨sorted, past, ⟨cutoff, old, kept⟩, bounded⟩ := windowed.later passed
  constructor
  · rw [kept, dropWhile_eq_filter (sorted.filter _)]
    exact alive_filter old
  · exact ⟨sorted, past, ⟨now - window, le_refl _, rfl⟩, bounded⟩

/-- A grant, where there is room. -/
theorem Windowed.grant {granted : Timestamp}
    (windowed : Windowed limit window now (alive window now grants) grants)
    (positive : 0 < window) (later : now ≤ granted)
    (room : (alive window now grants).length < limit) :
    Windowed limit window granted (alive window now grants ++ [granted])
      (grants ++ [granted]) := by
  obtain ⟨sorted, past, -, bounded⟩ := windowed
  have young : now - window < granted := lt_of_lt_of_le (Int.sub_lt_self _ positive) later
  refine ⟨?_, ?_, ⟨now - window, Int.sub_le_sub_right later _, ?_⟩, ?_⟩
  · rw [List.pairwise_append]
    refine ⟨sorted, List.pairwise_singleton _ _, ?_⟩
    intro time member other isGranted
    rw [List.mem_singleton.mp isGranted]
    exact (past time member).trans later
  · intro time member
    rcases List.mem_append.mp member with earlier | isGranted
    · exact (past time earlier).trans later
    · exact le_of_eq (List.mem_singleton.mp isGranted)
  · rw [List.filter_append, alive]
    simp [young]
  · exact length_within_append_le bounded later room

/-- The grants in the window are never more than the limit. -/
theorem Windowed.length_alive_le (windowed : Windowed limit window seen hits grants)
    (passed : seen ≤ now) : (alive window now grants).length ≤ limit := by
  have still := windowed.later passed
  rw [← within_eq_alive still.past]
  exact still.bounded now

end Key

/-! ## The limiter in process memory -/

section Limiter

variable {limiter : SlidingWindowRateLimiter} {seen : Timestamp}
  {hits : Dict String (List Timestamp)} {grants : String → List Timestamp}
  {key : String} {readings : RateReadings}

/-- The hits that are kept for a key. -/
def hitsOf (hits : Dict String (List Timestamp)) (key : String) : List Timestamp :=
  (hits.get? key).getD []

/-- The limiter keeps the grants of every key. -/
def Windows (limiter : SlidingWindowRateLimiter) (seen : Timestamp)
    (hits : Dict String (List Timestamp)) (grants : String → List Timestamp) : Prop :=
  ∀ key, Windowed limiter.limit limiter.window seen (hitsOf hits key) (grants key)

theorem hitsOf_set {other : String} {times : List Timestamp} :
    hitsOf (hits.set key times) other = if other = key then times else hitsOf hits other := by
  by_cases same : other = key <;> simp [hitsOf, Dict.get?_set, same]

theorem prune_eq {now : Timestamp} :
    limiter.prune hits key now =
      ((hitsOf hits key).dropWhile (· ≤ now - limiter.window),
        hits.set key ((hitsOf hits key).dropWhile (· ≤ now - limiter.window))) := by
  simp only [SlidingWindowRateLimiter.prune, Dict.setDefault_fst, Dict.setDefault_set]
  rfl

theorem Windows.set (windows : Windows limiter seen hits grants) {now : Timestamp}
    (passed : seen ≤ now) {times : List Timestamp} {grants' : String → List Timestamp}
    (windowed : Windowed limiter.limit limiter.window now times (grants' key))
    (others : ∀ other, other ≠ key → grants' other = grants other) :
    Windows limiter now (hits.set key times) grants' := by
  intro other
  rw [hitsOf_set]
  by_cases same : other = key
  · subst same
    rwa [if_pos rfl]
  · rw [if_neg same, others other same]
    exact (windows other).later passed

/-- One call: the answer, and the grants that are kept from then on. -/
theorem Windows.call (windows : Windows limiter seen hits grants)
    (positive : 0 < limiter.window) (call : RateCall)
    (timely : rateClock.admits seen (call, readings)) :
    let answer := rateAnswer limiter.limit limiter.window
      (alive limiter.window readings.pruned (grants call.key)).length call
    (limiter.service hits (call, readings)).1 = answer ∧
      Windows limiter readings.granted (limiter.service.next hits (call, readings))
        fun key => noteGrant key (grants key) ((call, readings), answer) := by
  have passed : seen ≤ readings.pruned := timely.1
  have later : readings.pruned ≤ readings.granted := timely.2
  have ended := passed.trans later
  cases call with
  | remaining key =>
      obtain ⟨pruned, windowed⟩ := (windows key).prune passed
      have answered : limiter.service hits (.remaining key, readings) =
          (.count (limiter.limit -
              (alive limiter.window readings.pruned (grants key)).length),
            hits.set key (alive limiter.window readings.pruned (grants key))) := by
        simp only [SlidingWindowRateLimiter.service, SlidingWindowRateLimiter.remaining,
          prune_eq]
        rw [pruned]
      rw [Service.next, answered]
      exact ⟨rfl, windows.set ended (windowed.later later) fun _ _ => rfl⟩
  | acquire key =>
      obtain ⟨pruned, windowed⟩ := (windows key).prune passed
      by_cases full :
          (alive limiter.window readings.pruned (grants key)).length ≥ limiter.limit
      · have answered : limiter.service hits (.acquire key, readings) =
            (.exceeded ⟨key, limiter.limit, limiter.window⟩,
              hits.set key (alive limiter.window readings.pruned (grants key))) := by
          simp only [SlidingWindowRateLimiter.service, SlidingWindowRateLimiter.acquire,
            prune_eq]
          rw [pruned]
          simp only [if_pos full]
        simp only [Service.next, answered, RateCall.key, rateAnswer_of_full full]
        exact ⟨trivial, windows.set ended (windowed.later later) fun _ _ => rfl⟩
      · have answered : limiter.service hits (.acquire key, readings) =
            (.count (limiter.limit -
                ((alive limiter.window readings.pruned (grants key)).length + 1)),
              hits.set key (alive limiter.window readings.pruned (grants key) ++
                [readings.granted])) := by
          simp only [SlidingWindowRateLimiter.service, SlidingWindowRateLimiter.acquire,
            prune_eq]
          rw [pruned]
          simp only [if_neg full, Dict.set_set, List.length_append,
            List.length_singleton]
        simp only [Service.next, answered, RateCall.key,
          rateAnswer_of_room (Nat.lt_of_not_le full)]
        refine ⟨trivial, windows.set ended ?_ ?_⟩
        · simpa [noteGrant] using windowed.grant positive later (Nat.lt_of_not_le full)
        · intro other different
          simp [noteGrant, Ne.symm different]

theorem windows_empty : Windows limiter seen ∅ fun _ => [] :=
  fun _ => windowed_nil

/-- The grants of every key, from those that were noted before. -/
theorem Windows.after (windows : Windows limiter seen hits grants)
    (positive : 0 < limiter.window) {calls : List (RateCall × RateReadings)}
    (timely : rateClock.Admits seen calls) :
    Windows limiter (rateClock.after seen calls) (limiter.service.after hits calls)
      fun key => runFrom (noteGrant key) (grants key)
        (calls.zip (limiter.service.answers hits calls)) := by
  induction calls generalizing seen hits grants with
  | nil => exact windows
  | cons call rest inductionHypothesis =>
      obtain ⟨first, others⟩ := timely
      obtain ⟨answered, still⟩ := windows.call positive call.1 first
      have kept := inductionHypothesis still others
      simp only [Service.answers, List.zip_cons_cons, answered]
      exact kept

end Limiter

/-! ## The limiter over Redis -/

section Shared

variable {limiter : RedisRateLimiter} {store : Redis} {seen now : Timestamp}
  {name : String} {times : List Timestamp} {used : List String}

/-- The scores that a command finds at a moment. -/
def scoresAt (store : Redis) (key : String) (now : Timestamp) : List Int :=
  match store.sortedSet key (RedisRateLimiter.milliseconds now) with
  | none => []
  | some set => set.scores.entries.map Prod.snd

/-- The sorted set of a key, last looked at when the clock read `seen`, and the grants
of the key: at any later moment it holds those that the window still holds, so that
the key never expires while one of them is alive. -/
structure Mirrors (window : Int) (seen : Timestamp) (used : List String) (store : Redis)
    (key : String) (grants : List Timestamp) : Prop where
  past : ∀ time ∈ grants, time ≤ seen
  alive : ∀ now, seen ≤ now →
    (SlidingWindow.alive window now (scoresAt store key now)).Perm
      (SlidingWindow.alive window now grants)
  named : ∀ set, store.sortedSets.get? key = some set →
    ∀ entry ∈ set.scores.entries, entry.1 ∈ used

theorem rateKey_injective {other : String} (same : limiter.key other = limiter.key name) :
    other = name := by
  simpa only [RedisRateLimiter.key, String.append_right_inj] using same

theorem scoresAt_of_none {key : String} (absent : store.sortedSets.get? key = none) :
    scoresAt store key now = [] := by
  rw [scoresAt, Redis.sortedSet_of_none absent]

theorem scoresAt_of_some {key : String} {set : SortedSet}
    (found : store.sortedSets.get? key = some set) :
    scoresAt store key now =
      if set.expiresAt.all (RedisRateLimiter.milliseconds now ≤ ·) then
        set.scores.entries.map Prod.snd
      else [] := by
  rw [scoresAt, Redis.sortedSet_of_some found]
  by_cases live : set.expiresAt.all (RedisRateLimiter.milliseconds now ≤ ·) = true
  · rw [if_pos live, if_pos live]
  · rw [if_neg live, if_neg live]

theorem zcard_eq_length {key : String} :
    store.zcard key (RedisRateLimiter.milliseconds now) =
      (scoresAt store key now).length := by
  unfold Redis.zcard scoresAt
  cases store.sortedSet key (RedisRateLimiter.milliseconds now) with
  | none => rfl
  | some set => exact (List.length_map _).symm

/-- A set whose time is over stays so. -/
theorem expired_later {set : SortedSet} {later : Timestamp} (passed : now ≤ later)
    (live : set.expiresAt.all (RedisRateLimiter.milliseconds later ≤ ·) = true) :
    set.expiresAt.all (RedisRateLimiter.milliseconds now ≤ ·) = true := by
  have order : RedisRateLimiter.milliseconds now ≤ RedisRateLimiter.milliseconds later :=
    Int.ediv_le_ediv (by decide) passed
  cases expires : set.expiresAt with
  | none => rfl
  | some moment =>
      rw [expires] at live
      simp only [Option.all_some, decide_eq_true_eq] at live ⊢
      exact order.trans live

/-- The store once the scores that left the window were pruned. -/
def prunedStore (window : Int) (store : Redis) (key : String) (now : Timestamp) : Redis :=
  store.zremrangebyscore key (now - window) (RedisRateLimiter.milliseconds now)

/-- What pruning leaves, at that moment and later: the scores still in the window, or
nothing once the time of the key is over. -/
theorem scoresAt_prunedStore {window : Int} {key : String} {later : Timestamp}
    (passed : now ≤ later) :
    scoresAt (prunedStore window store key now) key later =
        SlidingWindow.alive window now (scoresAt store key now) ∨
      scoresAt (prunedStore window store key now) key later = [] ∧
        scoresAt store key later = [] := by
  cases found : store.sortedSets.get? key with
  | none =>
      have gone : (prunedStore window store key now).sortedSets.get? key = none :=
        Redis.get?_zremrangebyscore_of_none (Redis.sortedSet_of_none found)
      exact Or.inr ⟨scoresAt_of_none gone, scoresAt_of_none found⟩
  | some set =>
      by_cases live : set.expiresAt.all (RedisRateLimiter.milliseconds now ≤ ·) = true
      · have present : store.sortedSet key (RedisRateLimiter.milliseconds now) = some set := by
          rw [Redis.sortedSet_of_some found, if_pos live]
        have left : (prunedStore window store key now).sortedSets.get? key = _ :=
          Redis.get?_zremrangebyscore present
        have young : SlidingWindow.alive window now (scoresAt store key now) =
            (set.scores.filter (now - window < ·.2)).entries.map Prod.snd := by
          rw [scoresAt_of_some found, if_pos live, SlidingWindow.alive, List.filter_map]
          rfl
        by_cases empty : (set.scores.filter (now - window < ·.2)).entries = []
        · rw [if_pos empty] at left
          rw [young, empty, scoresAt_of_none left]
          exact Or.inl rfl
        · rw [if_neg empty] at left
          rw [young, scoresAt_of_some left, scoresAt_of_some found]
          by_cases still :
              set.expiresAt.all (RedisRateLimiter.milliseconds later ≤ ·) = true
          · rw [if_pos still]
            exact Or.inl rfl
          · rw [if_neg still, if_neg still]
            exact Or.inr ⟨rfl, rfl⟩
      · have expired := mt (expired_later passed) live
        have gone : store.sortedSet key (RedisRateLimiter.milliseconds now) = none := by
          rw [Redis.sortedSet_of_some found, if_neg live]
        refine Or.inr ⟨scoresAt_of_none (Redis.get?_zremrangebyscore_of_none gone), ?_⟩
        rw [scoresAt_of_some found, if_neg expired]

section Mirrored

variable {window : Int} {key : String} {grants : List Timestamp}

/-- At the moment of pruning itself nothing is over that was not over before. -/
theorem scoresAt_prunedStore_self :
    scoresAt (prunedStore window store key now) key now =
      SlidingWindow.alive window now (scoresAt store key now) := by
  rcases scoresAt_prunedStore (le_refl now) with kept | ⟨gone, expired⟩
  · exact kept
  · rw [gone, expired]
    rfl

/-- The number of scores left after pruning is the number of grants in the window. -/
theorem Mirrors.zcard (mirrors : Mirrors window seen used store key grants)
    (passed : seen ≤ now) :
    (prunedStore window store key now).zcard key (RedisRateLimiter.milliseconds now) =
      (SlidingWindow.alive window now grants).length := by
  rw [zcard_eq_length, scoresAt_prunedStore_self]
  exact (mirrors.alive now passed).length_eq

/-- Pruning adds no member. -/
theorem get?_of_prunedStore {pruned : SortedSet}
    (found : (prunedStore window store key now).sortedSets.get? key = some pruned) :
    ∃ set, store.sortedSets.get? key = some set ∧
      ∀ entry ∈ pruned.scores.entries, entry ∈ set.scores.entries := by
  cases known : store.sortedSet key (RedisRateLimiter.milliseconds now) with
  | none =>
      rw [prunedStore, Redis.get?_zremrangebyscore_of_none known] at found
      cases found
  | some set =>
      rw [prunedStore, Redis.get?_zremrangebyscore known] at found
      refine ⟨set, (Redis.get?_of_sortedSet known).1, ?_⟩
      split at found
      · cases found
      · obtain rfl := Option.some.inj found
        exact fun entry member => (List.mem_filter.mp member).1

theorem Mirrors.alive_later (mirrors : Mirrors window seen used store key grants)
    (passed : seen ≤ now) {later : Timestamp} (after : now ≤ later) :
    (SlidingWindow.alive window later (scoresAt store key now)).Perm
      (SlidingWindow.alive window later grants) := by
  have kept : (SlidingWindow.alive window later
      (SlidingWindow.alive window now (scoresAt store key now))).Perm
        (SlidingWindow.alive window later (SlidingWindow.alive window now grants)) :=
    (mirrors.alive now passed).filter _
  rwa [alive_alive after, alive_alive after] at kept

theorem Mirrors.prune (mirrors : Mirrors window seen used store key grants)
    (passed : seen ≤ now) :
    Mirrors window now used (prunedStore window store key now) key grants := by
  refine ⟨fun time member => (mirrors.past time member).trans passed, ?_, ?_⟩
  · intro later after
    rcases scoresAt_prunedStore after with kept | ⟨gone, expired⟩
    · rw [kept, alive_alive after]
      exact mirrors.alive_later passed after
    · have sameAtLater := mirrors.alive later (passed.trans after)
      rw [expired] at sameAtLater
      rwa [gone]
  · intro pruned found entry member
    obtain ⟨set, kept, earlier⟩ := get?_of_prunedStore found
    exact mirrors.named set kept entry (earlier entry member)

/-- The store once a grant was added to what pruning left. -/
def grantedStore (limiter : RedisRateLimiter) (store : Redis) (name : String)
    (now : Timestamp) (token : String) : Redis :=
  let pruned := prunedStore limiter.window store (limiter.key name) now
  (pruned.zadd (limiter.key name) now token (RedisRateLimiter.milliseconds now)).pexpire
    (limiter.key name) limiter.timeToLive (RedisRateLimiter.milliseconds now)

/-- The set that `ZADD` adds to, new where the command finds none. -/
theorem Mirrors.getD (mirrors : Mirrors window now used store key grants) :
    let set := (store.sortedSet key (RedisRateLimiter.milliseconds now)).getD {}
    set.expiresAt.all (RedisRateLimiter.milliseconds now ≤ ·) = true ∧
      set.scores.entries.map Prod.snd = scoresAt store key now ∧
      ∀ entry ∈ set.scores.entries, entry.1 ∈ used := by
  unfold scoresAt
  cases found : store.sortedSet key (RedisRateLimiter.milliseconds now) with
  | none =>
      refine ⟨rfl, rfl, ?_⟩
      intro entry member
      cases member
  | some set =>
      obtain ⟨kept, live⟩ := Redis.get?_of_sortedSet found
      exact ⟨live, rfl, mirrors.named set kept⟩

/-- A fresh token names a new member. -/
theorem Mirrors.get?_grantedStore {token : String}
    (mirrors : Mirrors limiter.window now used
      (prunedStore limiter.window store (limiter.key name) now) (limiter.key name) grants)
    (fresh : token ∉ used) :
    ∃ set, (grantedStore limiter store name now token).sortedSets.get?
        (limiter.key name) = some set ∧
      set.expiresAt =
        some (RedisRateLimiter.milliseconds now + limiter.timeToLive) ∧
      set.scores.entries.map Prod.snd =
        scoresAt (prunedStore limiter.window store (limiter.key name) now)
          (limiter.key name) now ++ [now] ∧
      ∀ entry ∈ set.scores.entries, entry.1 ∈ used ++ [token] := by
  obtain ⟨live, scores, named⟩ := mirrors.getD
  set pruned := prunedStore limiter.window store (limiter.key name) now
  set nowMs := RedisRateLimiter.milliseconds now
  set old := (pruned.sortedSet (limiter.key name) nowMs).getD {}
  have absent : token ∉ old.scores.entries.map Prod.fst := by
    intro present
    obtain ⟨entry, member, rfl⟩ := List.mem_map.mp present
    exact fresh (named entry member)
  have entries := Dict.entries_set_of_not_mem now absent
  have added : (pruned.zadd (limiter.key name) now token nowMs).sortedSets.get?
      (limiter.key name) = some { old with scores := old.scores.set token now } :=
    Redis.get?_zadd
  have found : (pruned.zadd (limiter.key name) now token nowMs).sortedSet
      (limiter.key name) nowMs = some { old with scores := old.scores.set token now } := by
    rw [Redis.sortedSet_of_some added, if_pos live]
  refine ⟨_, Redis.get?_pexpire found, rfl, ?_, ?_⟩
  · simp only [entries, List.map_append, scores]
    rfl
  · intro entry member
    rw [entries] at member
    rcases List.mem_append.mp member with earlier | isNew
    · exact List.mem_append_left _ (named entry earlier)
    · rw [List.mem_singleton.mp isNew]
      exact List.mem_append_right _ (List.mem_singleton_self _)

/-- When the time of a key is over, its last grant has left the window. -/
theorem old_of_expired {later : Timestamp}
    (expired : ¬ RedisRateLimiter.milliseconds later ≤
      RedisRateLimiter.milliseconds now + limiter.timeToLive) :
    now ≤ later - limiter.window := by
  have instants : ∀ first second window : Int,
      ¬ second / 1000 ≤ first / 1000 + -(-window / 1000) → first ≤ second - window := by
    intro first second window isOver
    omega
  exact instants now later limiter.window expired

/-- A grant, under a fresh token. -/
theorem Mirrors.grant {token : String}
    (mirrors : Mirrors limiter.window now used
      (prunedStore limiter.window store (limiter.key name) now) (limiter.key name) grants)
    (fresh : token ∉ used) :
    Mirrors limiter.window now (used ++ [token])
      (grantedStore limiter store name now token) (limiter.key name) (grants ++ [now]) := by
  obtain ⟨set, found, expires, scores, named⟩ := mirrors.get?_grantedStore fresh
  refine ⟨?_, ?_, ?_⟩
  · intro time member
    rcases List.mem_append.mp member with earlier | isGranted
    · exact mirrors.past time earlier
    · exact le_of_eq (List.mem_singleton.mp isGranted)
  · intro later passed
    rw [scoresAt_of_some found, expires, Option.all_some]
    by_cases live : RedisRateLimiter.milliseconds later ≤
        RedisRateLimiter.milliseconds now + limiter.timeToLive
    · rw [if_pos (decide_eq_true live), scores, SlidingWindow.alive, SlidingWindow.alive,
        List.filter_append, List.filter_append]
      exact List.Perm.append_right _ (mirrors.alive_later (le_refl now) passed)
    · have left := old_of_expired live
      have gone : SlidingWindow.alive limiter.window later (grants ++ [now]) = [] := by
        rw [SlidingWindow.alive, List.filter_eq_nil_iff]
        intro time member
        have old : time ≤ later - limiter.window := by
          rcases List.mem_append.mp member with earlier | isGranted
          · exact (mirrors.past time earlier).trans left
          · rwa [List.mem_singleton.mp isGranted]
        simpa using old
      rw [if_neg (by simpa using live), gone]
      exact List.Perm.refl _
  · intro other isOther
    rw [found] at isOther
    rw [← Option.some.inj isOther]
    exact named

/-- What a set holds is read from its key alone, and more tokens may be used by then. -/
theorem Mirrors.elsewhere (mirrors : Mirrors window seen used store key grants)
    {store' : Redis} {used' : List String} (passed : seen ≤ now)
    (same : store'.sortedSets.get? key = store.sortedSets.get? key)
    (more : ∀ token ∈ used, token ∈ used') :
    Mirrors window now used' store' key grants := by
  refine ⟨fun time member => (mirrors.past time member).trans passed, ?_, ?_⟩
  · intro later after
    have scores : scoresAt store' key later = scoresAt store key later := by
      unfold scoresAt Redis.sortedSet
      rw [same]
    rw [scores]
    exact mirrors.alive later (passed.trans after)
  · intro set found entry member
    rw [same] at found
    exact more _ (mirrors.named set found entry member)

end Mirrored

/-- The tokens that a call may use. -/
def tokenOf : RateCall × RateReadings → List String
  | (.acquire _, readings) => [readings.token]
  | (.remaining _, _) => []

/-- The store keeps the grants of every key. -/
def MirrorsAll (limiter : RedisRateLimiter) (seen : Timestamp) (used : List String)
    (store : Redis) (grants : String → List Timestamp) : Prop :=
  ∀ name, Mirrors limiter.window seen used store (limiter.key name) (grants name)

variable {grants : String → List Timestamp} {readings : RateReadings}

theorem MirrorsAll.changed (mirrors : MirrorsAll limiter seen used store grants)
    (name : String) {store' : Redis} {used' : List String} {grants' : String → List Timestamp}
    (passed : seen ≤ now) (more : ∀ token ∈ used, token ∈ used')
    (changed : Mirrors limiter.window now used' store' (limiter.key name) (grants' name))
    (others : ∀ other, other ≠ name → grants' other = grants other)
    (untouched : ∀ key, key ≠ limiter.key name →
      store'.sortedSets.get? key = store.sortedSets.get? key) :
    MirrorsAll limiter now used' store' grants' := by
  intro other
  by_cases same : other = name
  · rwa [same]
  · rw [others other same]
    exact (mirrors other).elsewhere passed
      (untouched _ fun sameKey => same (rateKey_injective sameKey)) more

/-- A call that grants nothing only prunes. -/
theorem MirrorsAll.pruned (mirrors : MirrorsAll limiter seen used store grants)
    (passed : seen ≤ now) (name : String) {used' : List String}
    (more : ∀ token ∈ used, token ∈ used') :
    MirrorsAll limiter now used'
      (prunedStore limiter.window store (limiter.key name) now) grants := by
  have pruned := ((mirrors name).prune passed).elsewhere (le_refl now) rfl more
  exact mirrors.changed name passed more pruned (fun _ _ => rfl)
    fun key different => Redis.get?_zremrangebyscore_of_ne different

/-- One call at one reading of the clock, under a fresh token. -/
theorem MirrorsAll.call (mirrors : MirrorsAll limiter seen used store grants)
    {call : RateCall} (timely : rateClock.admits seen (call, readings))
    (once : readings.granted = readings.pruned)
    (fresh : ∀ token ∈ tokenOf (call, readings), token ∉ used) :
    let answer := rateAnswer limiter.limit limiter.window
      (alive limiter.window readings.pruned (grants call.key)).length call
    (limiter.service store (call, readings)).1 = answer ∧
      MirrorsAll limiter readings.granted (used ++ tokenOf (call, readings))
        (limiter.service.next store (call, readings))
        fun key => noteGrant key (grants key) ((call, readings), answer) := by
  have passed : seen ≤ readings.pruned := timely.1
  have more : ∀ token ∈ used, token ∈ used ++ tokenOf (call, readings) :=
    fun token member => List.mem_append_left _ member
  rw [once]
  cases call with
  | remaining name =>
      have counted := (mirrors name).zcard passed
      have answered : limiter.service store (.remaining name, readings) =
          (.count (limiter.limit -
              (alive limiter.window readings.pruned (grants name)).length),
            prunedStore limiter.window store (limiter.key name) readings.pruned) := by
        rw [← counted]
        rfl
      rw [Service.next, answered]
      exact ⟨rfl, mirrors.pruned passed name more⟩
  | acquire name =>
      have counted := (mirrors name).zcard passed
      by_cases full :
          (alive limiter.window readings.pruned (grants name)).length ≥ limiter.limit
      · have answered : limiter.service store (.acquire name, readings) =
            (.exceeded ⟨name, limiter.limit, limiter.window⟩,
              prunedStore limiter.window store (limiter.key name) readings.pruned) := by
          have script : limiter.acquireScript store name readings.pruned readings.token =
              (-1, prunedStore limiter.window store (limiter.key name) readings.pruned) := by
            rw [← counted] at full
            exact if_pos full
          simp [RedisRateLimiter.service, RedisRateLimiter.acquire, script]
        simp only [Service.next, answered, RateCall.key, rateAnswer_of_full full]
        exact ⟨trivial, mirrors.pruned passed name more⟩
      · have room := Nat.lt_of_not_le full
        have answered : limiter.service store (.acquire name, readings) =
            (.count (limiter.limit -
                ((alive limiter.window readings.pruned (grants name)).length + 1)),
              grantedStore limiter store name readings.pruned readings.token) := by
          have script : limiter.acquireScript store name readings.pruned readings.token =
              ((limiter.limit : Int) -
                  (alive limiter.window readings.pruned (grants name)).length - 1,
                grantedStore limiter store name readings.pruned readings.token) := by
            rw [← counted] at full ⊢
            exact if_neg full
          have positive : ¬ (limiter.limit : Int) -
              (alive limiter.window readings.pruned (grants name)).length - 1 < 0 := by
            omega
          have left : ((limiter.limit : Int) -
              (alive limiter.window readings.pruned (grants name)).length - 1).toNat =
                limiter.limit -
                  ((alive limiter.window readings.pruned (grants name)).length + 1) := by
            omega
          simp only [RedisRateLimiter.service, RedisRateLimiter.acquire, script,
            if_neg positive, left]
        have granted := ((mirrors name).prune passed).grant
          (fresh readings.token (List.mem_singleton_self _))
        simp only [Service.next, answered, RateCall.key, rateAnswer_of_room room]
        refine ⟨trivial, mirrors.changed name passed more ?_ ?_ ?_⟩
        · simpa [noteGrant, once, tokenOf] using granted
        · intro other different
          simp [noteGrant, Ne.symm different]
        · intro key different
          rw [grantedStore, Redis.get?_pexpire_of_ne different,
            Redis.get?_zadd_of_ne different]
          exact Redis.get?_zremrangebyscore_of_ne different

theorem mirrorsAll_empty : MirrorsAll limiter seen [] {} fun _ => [] := by
  intro name
  refine ⟨by simp, ?_, ?_⟩
  · intro later _
    rw [scoresAt_of_none rfl]
  · intro set found
    cases found

end Shared

/-! ## Both limiters -/

/-- Both limiters answer alike, from stores that keep the same grants. -/
theorem rateAnswers_eq {limiter : SlidingWindowRateLimiter} {shared : RedisRateLimiter}
    (sameLimit : shared.limit = limiter.limit) (sameWindow : shared.window = limiter.window)
    (positive : 0 < limiter.window) {seen : Timestamp} {used : List String}
    {hits : Dict String (List Timestamp)} {store : Redis}
    {grants : String → List Timestamp} {calls : List (RateCall × RateReadings)}
    (windows : Windows limiter seen hits grants)
    (mirrors : MirrorsAll shared seen used store grants)
    (timely : rateClock.Admits seen calls)
    (once : ∀ call ∈ calls, call.2.granted = call.2.pruned)
    (distinct : (used ++ calls.flatMap tokenOf).Nodup) :
    shared.service.answers store calls = limiter.service.answers hits calls := by
  induction calls generalizing seen used hits store grants with
  | nil => rfl
  | cons call rest inductionHypothesis =>
      obtain ⟨first, others⟩ := timely
      rw [List.flatMap_cons, ← List.append_assoc] at distinct
      have fresh : ∀ token ∈ tokenOf call, token ∉ used := by
        intro token member earlier
        exact (List.nodup_append.mp (List.nodup_append.mp distinct).1).2.2 _ earlier _ member
          rfl
      obtain ⟨ours, stillWindows⟩ := windows.call positive call.1 first
      obtain ⟨theirs, stillMirrors⟩ :=
        mirrors.call first (once call List.mem_cons_self) fresh
      rw [sameLimit, sameWindow] at theirs stillMirrors
      have remaining := inductionHypothesis stillWindows stillMirrors others
        (fun other member => once other (List.mem_cons_of_mem call member)) distinct
      rw [Service.answers, Service.answers, remaining, ours, theirs]

/-- One request a minute: the second comes a microsecond early. -/
def oneAMinute : List (RateCall × RateReadings) :=
  [(.acquire "acme|web", ⟨0, 0, "a"⟩), (.acquire "acme|web", ⟨59999999, 59999999, "b"⟩),
    (.acquire "acme|web", ⟨60000000, 60000000, "c"⟩)]

end ResearchPlatform
