import ResearchPlatform.Persistence.RedisState
import ResearchPlatform.Properties.CircuitHistory

/-!
# Shared circuits

The circuit breaker over Redis answers as the one in process memory.  The hash of a
server stands for its circuit, field by field; a hash that is not there stands for
a new circuit.
-/

namespace ResearchPlatform

open Foundation

/-- The fields of a hash stand for a circuit. -/
structure Stored (circuit : Circuit) (fields : Dict String Scalar) : Prop where
  state : Scalar.asText "closed" (fields.get? "state") = circuit.state.value
  failures : Scalar.asInt (fields.get? "failures") = circuit.failures
  openedAt : ∀ moment, circuit.openedAt = some moment →
    Scalar.asInt (fields.get? "opened_at") = moment

theorem stored_empty : Stored {} ∅ :=
  ⟨rfl, rfl, by simp⟩

theorem value_eq_open_iff {state : CircuitState} :
    state.value = "open" ↔ state = .opened := by
  cases state <;> decide

theorem value_eq_half_open_iff {state : CircuitState} :
    state.value = "half_open" ↔ state = .halfOpen := by
  cases state <;> decide

namespace Circuit

variable {circuit : Circuit} {cooldown : Int} {now : Timestamp}

theorem openedAt_since (isOpen : circuit.state = .opened) :
    circuit.openedAt = some (circuit.since isOpen) :=
  (Option.some_get _).symm

theorem openedAt_refreshed : (circuit.refreshed cooldown now).openedAt = circuit.openedAt := by
  unfold refreshed
  split
  · split <;> rfl
  · rfl

theorem refreshed_empty : ({} : Circuit).refreshed cooldown now = {} :=
  refreshed_of_ne_opened (by simp)

/-- A second look at the same moment changes nothing. -/
theorem refreshed_refreshed :
    (circuit.refreshed cooldown now).refreshed cooldown now =
      circuit.refreshed cooldown now := by
  by_cases isOpen : circuit.state = .opened
  · by_cases rested : now - circuit.since isOpen ≥ cooldown
    · have half : (circuit.refreshed cooldown now).state = .halfOpen := by
        rw [refreshed, dif_pos isOpen, if_pos rested]
      exact refreshed_of_ne_opened (by simp [half])
    · have unchanged : circuit.refreshed cooldown now = circuit := by
        rw [refreshed, dif_pos isOpen, if_neg rested]
      rw [unchanged, unchanged]
  · rw [refreshed_of_ne_opened isOpen, refreshed_of_ne_opened isOpen]

end Circuit

/-! ## One server -/

section Server

variable {shared : RedisCircuitBreaker} {store : Redis} {server : String}
  {circuit : Circuit}

theorem key_injective {other : String} (same : shared.key other = shared.key server) :
    other = server := by
  simpa only [RedisCircuitBreaker.key, String.append_right_inj] using same

/-- A look at a server: the state and the time that it was opened, the hash that is
left, and everything else as it was. -/
theorem Stored.refresh (stored : Stored circuit (store.hgetall (shared.key server)))
    (now : Timestamp) :
    let looked := circuit.refreshed shared.cooldown now
    (shared.refresh store server now).1.1 = looked.state.value ∧
      (∀ moment, looked.openedAt = some moment →
        (shared.refresh store server now).1.2 = moment) ∧
      Stored looked ((shared.refresh store server now).2.hgetall (shared.key server)) ∧
      (∀ other, other ≠ server →
        (shared.refresh store server now).2.hgetall (shared.key other) =
          store.hgetall (shared.key other)) ∧
      ∀ name, (shared.refresh store server now).2.smembers name = store.smembers name := by
  have openedAt : ∀ moment, (circuit.refreshed shared.cooldown now).openedAt = some moment →
      Scalar.asInt (store.hget (shared.key server) "opened_at") = moment := by
    intro moment known
    rw [Circuit.openedAt_refreshed] at known
    exact stored.openedAt moment known
  have isText : Scalar.asText "closed" (store.hget (shared.key server) "state") =
      circuit.state.value := stored.state
  unfold RedisCircuitBreaker.refresh
  by_cases isOpen : circuit.state = .opened
  · have since := stored.openedAt _ (circuit.openedAt_since isOpen)
    have isSince : Scalar.asInt (store.hget (shared.key server) "opened_at") =
        circuit.since isOpen := since
    by_cases rested : now - circuit.since isOpen ≥ shared.cooldown
    · have looked : circuit.refreshed shared.cooldown now =
          { circuit with state := .halfOpen, openSince := by simp } := by
        rw [Circuit.refreshed, dif_pos isOpen, if_pos rested]
      have expired : circuit.state.value = "open" ∧
          now - circuit.since isOpen ≥ shared.cooldown :=
        ⟨value_eq_open_iff.mpr isOpen, rested⟩
      simp only [isText, isSince, if_pos expired]
      rw [isSince] at openedAt
      refine ⟨by rw [looked]; rfl, openedAt, ?_, ?_, fun _ => rfl⟩
      · rw [looked, Redis.hgetall_hset_self]
        exact ⟨by simp [CircuitState.value],
          by simpa [Dict.get?_set] using stored.failures,
          by simpa [Dict.get?_set] using stored.openedAt⟩
      · intro other different
        exact Redis.hgetall_hset_of_ne fun same => different (key_injective same)
    · have looked : circuit.refreshed shared.cooldown now = circuit := by
        rw [Circuit.refreshed, dif_pos isOpen, if_neg rested]
      have resting : ¬ (circuit.state.value = "open" ∧
          now - circuit.since isOpen ≥ shared.cooldown) := fun both => rested both.2
      simp only [isText, isSince, if_neg resting]
      rw [isSince] at openedAt
      rw [looked] at openedAt ⊢
      exact ⟨rfl, openedAt, stored, fun _ _ => trivial, fun _ => trivial⟩
  · have looked : circuit.refreshed shared.cooldown now = circuit :=
      Circuit.refreshed_of_ne_opened isOpen
    have resting : ¬ (circuit.state.value = "open" ∧
        now - Scalar.asInt (store.hget (shared.key server) "opened_at") ≥ shared.cooldown) :=
      fun both => isOpen (value_eq_open_iff.mp both.1)
    simp only [isText, if_neg resting]
    rw [looked] at openedAt ⊢
    exact ⟨rfl, openedAt, stored, fun _ _ => trivial, fun _ => trivial⟩

/-- What `_read` returns, and what it leaves. -/
theorem Stored.read (stored : Stored circuit (store.hgetall (shared.key server)))
    (now : Timestamp) :
    let looked := circuit.refreshed shared.cooldown now
    ∃ openedAt store', shared.read store server now = (some (looked.state, openedAt), store') ∧
      (∀ moment, looked.openedAt = some moment → openedAt = moment) ∧
      Stored looked (store'.hgetall (shared.key server)) ∧
      (∀ other, other ≠ server →
        store'.hgetall (shared.key other) = store.hgetall (shared.key other)) ∧
      ∀ name, store'.smembers name = store.smembers name := by
  have refreshed := stored.refresh now
  refine ⟨_, _, ?_, refreshed.2⟩
  simp only [RedisCircuitBreaker.read, refreshed.1, CircuitState.ofValue_value,
    Option.map_some]

theorem hgetall_failed_of_ne {key other state : String} {now : Timestamp} (different : other ≠ key) :
    (shared.failed store key state now).hgetall other = store.hgetall other := by
  unfold RedisCircuitBreaker.failed
  split
  · simp [Redis.hgetall_hset_of_ne different]
  · by_cases reached :
        (shared.failureThreshold : Int) ≤ Scalar.asInt (store.hget key "failures") + 1 <;>
      simp [Redis.hincrby, reached, Redis.hgetall_hset_of_ne different]

theorem smembers_failed {key name state : String} {now : Timestamp} :
    (shared.failed store key state now).smembers name = store.smembers name := by
  unfold RedisCircuitBreaker.failed
  split
  · rfl
  · by_cases reached :
        (shared.failureThreshold : Int) ≤ Scalar.asInt (store.hget key "failures") + 1 <;>
      simp [Redis.hincrby, reached]

/-- One more failure, of a breaker with the same threshold. -/
theorem Stored.failed {breaker : CircuitBreaker} {key : String} {now : Timestamp}
    (sameThreshold : shared.failureThreshold = breaker.failureThreshold)
    (stored : Stored circuit (store.hgetall key)) :
    Stored (breaker.failed circuit now)
      ((shared.failed store key circuit.state.value now).hgetall key) := by
  unfold RedisCircuitBreaker.failed CircuitBreaker.failed
  by_cases isHalf : circuit.state = .halfOpen
  · rw [if_pos (value_eq_half_open_iff.mpr isHalf), if_pos isHalf]
    simp only [Redis.hgetall_hset_self]
    constructor
    · simp [Dict.get?_set, CircuitState.value]
    · simp [Dict.get?_set, sameThreshold]
    · simp
  · have notHalf := mt value_eq_half_open_iff.mp isHalf
    have counted : Scalar.asInt (store.hget key "failures") + 1 =
        (circuit.failures + 1 : Nat) := by
      have known : Scalar.asInt (store.hget key "failures") = circuit.failures :=
        stored.failures
      rw [known, Nat.cast_add, Nat.cast_one]
    rw [if_neg notHalf, if_neg isHalf]
    simp only [Redis.hincrby, counted, sameThreshold, ge_iff_le, Nat.cast_le]
    by_cases reached : breaker.failureThreshold ≤ circuit.failures + 1
    · rw [if_pos reached, if_pos reached]
      simp only [Redis.hgetall_hset_self]
      constructor
      · simp [Dict.get?_set, CircuitState.value]
      · simp [Dict.get?_set]
      · simp
    · rw [if_neg reached, if_neg reached, Redis.hgetall_hset_self]
      exact ⟨by simpa [Dict.get?_set] using stored.state, by simp,
        by simpa [Dict.get?_set] using stored.openedAt⟩

end Server

/-! ## Every server -/

section Servers

variable {shared : RedisCircuitBreaker} {breaker : CircuitBreaker} {store : Redis}
  {circuits : Dict String Circuit}

/-- The store keeps the circuits: each in its hash, and the names of those that are
remembered in the set. -/
structure Shares (shared : RedisCircuitBreaker) (circuits : Dict String Circuit)
    (store : Redis) : Prop where
  stored : ∀ server, Stored (circuitOf circuits server) (store.hgetall (shared.key server))
  listed : ∀ server,
    server ∈ store.smembers shared.servers ↔ (circuits.get? server).isSome = true

/-- Both breakers have the same limits. -/
structure SameLimits (shared : RedisCircuitBreaker) (breaker : CircuitBreaker) :
    Prop where
  threshold : shared.failureThreshold = breaker.failureThreshold
  cooldown : shared.cooldown = breaker.cooldown

/-- What `states` reads of one server after the other. -/
theorem statesOf_spec (readings : ClockReadings) (servers : List String)
    (states : Dict String CircuitState) {circuit : String → Circuit}
    (stored : ∀ server, Stored (circuit server) (store.hgetall (shared.key server))) :
    let looked := fun server =>
      (circuit server).refreshed shared.cooldown (readings.looked server)
    let outcome := shared.statesOf readings servers states store
    (∃ listed, outcome.1 = some listed ∧ ∀ server, listed.get? server =
        if server ∈ servers then some (looked server).state else states.get? server) ∧
      (∀ server, Stored (if server ∈ servers then looked server else circuit server)
        (outcome.2.hgetall (shared.key server))) ∧
      ∀ name, outcome.2.smembers name = store.smembers name := by
  induction servers generalizing store states circuit with
  | nil => simpa [RedisCircuitBreaker.statesOf] using stored
  | cons first rest inductionHypothesis =>
      obtain ⟨openedAt, store', read, -, looked, others, members⟩ :=
        (stored first).read (readings.looked first)
      have stateOf : shared.stateOf store first (readings.looked first) =
          (some ((circuit first).refreshed shared.cooldown (readings.looked first)).state,
            store') := by
        simp [RedisCircuitBreaker.stateOf, read]
      have stored' : ∀ server, Stored
          (if server = first then
            (circuit server).refreshed shared.cooldown (readings.looked server)
          else circuit server) (store'.hgetall (shared.key server)) := by
        intro server
        by_cases same : server = first
        · subst same
          rwa [if_pos rfl]
        · rw [if_neg same, others server same]
          exact stored server
      obtain ⟨⟨listed, answered, known⟩, kept, members'⟩ := inductionHypothesis
        (states.set first
          ((circuit first).refreshed shared.cooldown (readings.looked first)).state) stored'
      simp only [RedisCircuitBreaker.statesOf, stateOf]
      refine ⟨⟨listed, answered, ?_⟩, ?_, fun name => (members' name).trans (members name)⟩
      · intro server
        rw [known]
        by_cases same : server = first
        · subst same
          simp [Circuit.refreshed_refreshed]
        · simp [same, Dict.get?_set]
      · intro server
        have still := kept server
        by_cases same : server = first
        · subst same
          simpa [Circuit.refreshed_refreshed] using still
        · simpa [same] using still

/-- Answers that are the same, the listed servers in any order. -/
def AnswersAlike : BreakerAnswer → BreakerAnswer → Prop
  | .states first, .states second => ∀ server, first.get? server = second.get? server
  | first, second => first = second

/-- What a call has to leave in the store. -/
theorem Shares.next (shares : Shares shared circuits store) {store' : Redis}
    {call : BreakerCall × ClockReadings}
    (stored : ∀ server, Stored
      ((circuitOf circuits server).afterCall breaker server call)
      (store'.hgetall (shared.key server)))
    (listed : ∀ server, server ∈ store'.smembers shared.servers ↔
      server ∈ store.smembers shared.servers ∨ recordsOn server call.1 = true) :
    Shares shared (breaker.service.next circuits call) store' := by
  constructor
  · intro server
    rw [circuitOf_next]
    exact stored server
  · intro server
    rw [listed, shares.listed, get?_next]
    by_cases records : recordsOn server call.1 = true <;> simp [records]

theorem Shares.circuitOf_of_not_listed (shares : Shares shared circuits store) {server : String}
    (unlisted : server ∉ store.smembers shared.servers) : circuitOf circuits server = {} := by
  have unknown : circuits.get? server = none := by
    simpa using mt (shares.listed server).mpr unlisted
  rw [circuitOf, unknown]
  rfl

/-- The circuits once the hash of one server was rewritten. -/
theorem Shares.rewritten (shares : Shares shared circuits store) {store' : Redis}
    {server : String} (change : Circuit → Circuit)
    (stored : Stored (change (circuitOf circuits server))
      (store'.hgetall (shared.key server)))
    (others : ∀ other, other ≠ server →
      store'.hgetall (shared.key other) = store.hgetall (shared.key other))
    (other : String) :
    Stored (if server = other then change (circuitOf circuits other)
        else circuitOf circuits other)
      (store'.hgetall (shared.key other)) := by
  by_cases same : server = other
  · subst same
    rwa [if_pos rfl]
  · rw [if_neg same, others other (Ne.symm same)]
    exact shares.stored other

theorem mem_smembers_sadd_servers {server other : String} :
    other ∈ (store.sadd shared.servers server).smembers shared.servers ↔
      other ∈ store.smembers shared.servers ∨ server = other := by
  rw [Redis.mem_smembers_sadd, eq_comm]

theorem Shares.stateOf (limits : SameLimits shared breaker)
    (shares : Shares shared circuits store) (server : String) (now : Timestamp) :
    (∃ answer, (shared.service store (.stateOf server, .at now)).1 = some answer ∧
        AnswersAlike (breaker.service circuits (.stateOf server, .at now)).1 answer) ∧
      Shares shared (breaker.service.next circuits (.stateOf server, .at now))
        (shared.service.next store (.stateOf server, .at now)) := by
  obtain ⟨openedAt, store', read, -, looked, others, members⟩ :=
    (shares.stored server).read now
  rw [limits.cooldown] at read looked
  have answered : shared.service store (.stateOf server, .at now) =
      (some (.state ((circuitOf circuits server).refreshed breaker.cooldown now).state),
        store') := by
    simp [RedisCircuitBreaker.service, RedisCircuitBreaker.stateOf, ClockReadings.at, read]
  have left : shared.service.next store (.stateOf server, .at now) = store' :=
    congrArg Prod.snd answered
  rw [answered, left]
  refine ⟨⟨_, rfl, ?_⟩, shares.next ?_ ?_⟩
  · simp [AnswersAlike, CircuitBreaker.service, CircuitBreaker.stateOf, refresh_fst,
      ClockReadings.at]
  · exact shares.rewritten (Circuit.refreshed breaker.cooldown now) looked others
  · simp [members, recordsOn]

theorem Shares.ensureClosed (limits : SameLimits shared breaker)
    (shares : Shares shared circuits store) (server : String) (now : Timestamp) :
    (∃ answer, (shared.service store (.ensureClosed server, .at now)).1 = some answer ∧
        AnswersAlike (breaker.service circuits (.ensureClosed server, .at now)).1 answer) ∧
      Shares shared (breaker.service.next circuits (.ensureClosed server, .at now))
        (shared.service.next store (.ensureClosed server, .at now)) := by
  obtain ⟨openedAt, store', read, since, looked, others, members⟩ :=
    (shares.stored server).read now
  rw [limits.cooldown] at read since looked
  have answered : shared.service store (.ensureClosed server, .at now) =
      (some (if ((circuitOf circuits server).refreshed breaker.cooldown now).state = .opened
        then .refused ⟨server, openedAt + breaker.cooldown⟩ else .done), store') := by
    simp [RedisCircuitBreaker.service, ClockReadings.at, read, limits.cooldown]
  have left : shared.service.next store (.ensureClosed server, .at now) = store' :=
    congrArg Prod.snd answered
  rw [answered, left]
  refine ⟨⟨_, rfl, ?_⟩, shares.next ?_ ?_⟩
  · rw [CircuitBreaker.answer_ensureClosed]
    simp only [refresh_fst, ClockReadings.at]
    by_cases isOpen :
        ((circuitOf circuits server).refreshed breaker.cooldown now).state = .opened
    · rw [dif_pos isOpen, if_pos isOpen, since _ (Circuit.openedAt_since isOpen)]
      rfl
    · rw [dif_neg isOpen, if_neg isOpen]
      rfl
  · exact shares.rewritten (Circuit.refreshed breaker.cooldown now) looked others
  · simp [members, recordsOn]

theorem Shares.recordSuccess (shares : Shares shared circuits store) (server : String)
    (now : Timestamp) :
    Shares shared (breaker.service.next circuits (.recordSuccess server, .at now))
      (shared.recordSuccess store server) := by
  apply shares.next
  · apply shares.rewritten (fun _ => {})
    · simpa [RedisCircuitBreaker.recordSuccess] using stored_empty
    · intro other different
      rw [RedisCircuitBreaker.recordSuccess, Redis.hgetall_sadd]
      exact Redis.hgetall_del_of_ne (mt key_injective different)
  · intro other
    rw [RedisCircuitBreaker.recordSuccess, mem_smembers_sadd_servers, Redis.smembers_del]
    simp [recordsOn]

theorem Shares.recordFailure (limits : SameLimits shared breaker)
    (shares : Shares shared circuits store) (server : String) (now : Timestamp) :
    Shares shared (breaker.service.next circuits (.recordFailure server, .at now))
      (shared.recordFailure store server now) := by
  obtain ⟨state, -, looked, others, members⟩ := (shares.stored server).refresh now
  apply shares.next
  · apply shares.rewritten
      (fun circuit => breaker.failed (circuit.refreshed breaker.cooldown now) now)
    · rw [RedisCircuitBreaker.recordFailure, Redis.hgetall_sadd, state, ← limits.cooldown]
      exact looked.failed limits.threshold
    · intro other different
      rw [RedisCircuitBreaker.recordFailure, Redis.hgetall_sadd,
        hgetall_failed_of_ne (mt key_injective different)]
      exact others other different
  · intro other
    rw [RedisCircuitBreaker.recordFailure, mem_smembers_sadd_servers, smembers_failed,
      members]
    simp [recordsOn]

theorem Shares.states (limits : SameLimits shared breaker)
    (shares : Shares shared circuits store) (now : Timestamp) :
    (∃ answer, (shared.service store (.states, .at now)).1 = some answer ∧
        AnswersAlike (breaker.service circuits (.states, .at now)).1 answer) ∧
      Shares shared (breaker.service.next circuits (.states, .at now))
        (shared.service.next store (.states, .at now)) := by
  obtain ⟨⟨listed, answered, known⟩, stored, members⟩ :=
    statesOf_spec (.at now)
      ((store.smembers shared.servers).insertionSort (· ≤ ·)) ∅ shares.stored
  have isListed : ∀ server,
      server ∈ (store.smembers shared.servers).insertionSort (· ≤ ·) ↔
        (circuits.get? server).isSome = true :=
    fun server => (List.mem_insertionSort _).trans (shares.listed server)
  refine ⟨⟨.states listed, ?_, ?_⟩, shares.next ?_ ?_⟩
  · simp [RedisCircuitBreaker.service, RedisCircuitBreaker.states, answered]
  · intro server
    rw [known]
    simp only [isListed, limits.cooldown, ClockReadings.at, Dict.get?_mapValues]
    cases found : circuits.get? server <;> simp [circuitOf, found]
  · intro server
    have kept := stored server
    simp only [isListed, limits.cooldown] at kept
    by_cases isKnown : (circuits.get? server).isSome = true
    · rwa [if_pos isKnown] at kept
    · have unknown : circuitOf circuits server = {} :=
        shares.circuitOf_of_not_listed (mt (shares.listed server).mp isKnown)
      have unchanged : (circuitOf circuits server).afterCall breaker server
          (.states, .at now) = circuitOf circuits server := by
        simp [Circuit.afterCall, unknown, Circuit.refreshed_empty]
      rw [if_neg isKnown] at kept
      rwa [unchanged]
  · intro server
    exact (members _).symm ▸ (by simp [recordsOn])

theorem shares_empty : Shares shared ∅ {} where
  stored _ := stored_empty
  listed _ := by simp [Redis.smembers]

/-- One call at one reading of the clock: both answer the same, and the store still
keeps the circuits. -/
theorem Shares.answer (limits : SameLimits shared breaker)
    (shares : Shares shared circuits store) (call : BreakerCall) (now : Timestamp) :
    (∃ answer, (shared.service store (call, .at now)).1 = some answer ∧
        AnswersAlike (breaker.service circuits (call, .at now)).1 answer) ∧
      Shares shared (breaker.service.next circuits (call, .at now))
        (shared.service.next store (call, .at now)) := by
  cases call with
  | stateOf server => exact shares.stateOf limits server now
  | states => exact shares.states limits now
  | ensureClosed server => exact shares.ensureClosed limits server now
  | recordSuccess server => exact ⟨⟨.done, rfl, rfl⟩, shares.recordSuccess server now⟩
  | recordFailure server =>
      exact ⟨⟨.done, rfl, rfl⟩, shares.recordFailure limits server now⟩

end Servers

/-- `RedisCircuitBreaker` answers every sequence of calls as `CircuitBreaker` with
the same limits does, at whatever readings of the clock. -/
theorem redisCircuitBreaker_answers (breaker : CircuitBreaker) (keyPrefix : String)
    (calls : List (BreakerCall × Timestamp)) :
    let shared : RedisCircuitBreaker :=
      ⟨breaker.failureThreshold, breaker.cooldown, keyPrefix, breaker.thresholdInRange⟩
    let timed := calls.map fun call => (call.1, ClockReadings.at call.2)
    List.Forall₂
      (fun ours theirs => ∃ answer, theirs = some answer ∧ AnswersAlike ours answer)
      (breaker.service.answers ∅ timed) (shared.service.answers {} timed) := by
  intro shared timed
  have limits : SameLimits shared breaker := ⟨rfl, rfl⟩
  have atOnce : ∀ call ∈ timed, ∃ now, call.2 = ClockReadings.at now := by
    intro call member
    obtain ⟨⟨asked, now⟩, -, rfl⟩ := List.mem_map.mp member
    exact ⟨now, rfl⟩
  have start : Shares shared ∅ {} := shares_empty
  refine Service.forall₂_answers_of_each ?_ start atOnce
  rintro circuits store ⟨call, readings⟩ shares ⟨now, rfl⟩
  exact shares.answer limits call now

end ResearchPlatform
