import ResearchPlatform.Mcp.Breaker

/-!
# What a circuit breaker remembers

The state of a circuit is a function of the failures recorded since the last
recorded success: how many they are and when the last of them was.  The breaker
itself rewrites its circuits at every look.
-/

namespace ResearchPlatform

open Foundation

/-- The failures recorded for a server since its last recorded success: how many,
and the time of the last. -/
structure FailureCount where
  count : Nat := 0
  last : Timestamp := 0
  deriving DecidableEq

namespace FailureCount

/-- What the failures make of the circuit at a moment. -/
def stateAt (breaker : CircuitBreaker) (now : Timestamp) (failures : FailureCount) :
    CircuitState :=
  if failures.count < breaker.failureThreshold then .closed
  else if now - failures.last < breaker.cooldown then .opened
  else .halfOpen

end FailureCount

/-- A call that records an outcome of the server. -/
def recordsOn (server : String) : BreakerCall → Bool
  | .recordSuccess other => other = server
  | .recordFailure other => other = server
  | _ => false

/-- The failures after one more call. -/
def noted (server : String) (failures : FailureCount) :
    BreakerCall × ClockReadings → FailureCount
  | (.recordSuccess other, _) => if other = server then {} else failures
  | (.recordFailure other, readings) =>
      if other = server then ⟨failures.count + 1, readings.recorded⟩ else failures
  | _ => failures

/-- The failures that a history leaves. -/
def failuresOf (server : String) (history : List (BreakerCall × ClockReadings)) :
    FailureCount :=
  runFrom (noted server) {} history

/-- The clock never goes back, from call to call and within a call. -/
def breakerClock : Service.Guard Timestamp (BreakerCall × ClockReadings) where
  observe _ call := call.2.recorded
  admits last call := ∀ server,
    last ≤ call.2.looked server ∧ call.2.looked server ≤ call.2.recorded

/-! ## One circuit -/

section Circuits

variable {breaker : CircuitBreaker} {seen now : Timestamp} {circuit : Circuit}
  {failures : FailureCount}

/-- A circuit, last looked at when the clock read `seen`, and the failures that it
stands for.  Its own counter says less: a failed probe sets it back. -/
def Reflects (breaker : CircuitBreaker) (seen : Timestamp) (circuit : Circuit)
    (failures : FailureCount) : Prop :=
  if failures.count < breaker.failureThreshold then
    circuit.state = .closed ∧ circuit.failures = failures.count
  else
    breaker.failureThreshold ≤ circuit.failures ∧
      circuit.openedAt = some failures.last ∧
      (circuit.state = .opened ∨
        circuit.state = .halfOpen ∧ breaker.cooldown ≤ seen - failures.last)

theorem Circuit.since_eq {isOpen : circuit.state = .opened} {moment : Timestamp}
    (known : circuit.openedAt = some moment) : circuit.since isOpen = moment := by
  simp [Circuit.since, known]

theorem Circuit.refreshed_of_ne_opened {cooldown : Int}
    (notOpen : circuit.state ≠ .opened) : circuit.refreshed cooldown now = circuit := by
  rw [Circuit.refreshed, dif_neg notOpen]

theorem reflects_empty : Reflects breaker seen {} {} := by
  have positive : 0 < breaker.failureThreshold := breaker.thresholdInRange
  simp [Reflects, positive]

theorem Reflects.later {later : Timestamp} (reflects : Reflects breaker seen circuit failures)
    (passed : seen ≤ later) : Reflects breaker later circuit failures := by
  unfold Reflects at reflects ⊢
  split
  · rename_i few
    rwa [if_pos few] at reflects
  · rename_i many
    rw [if_neg many] at reflects
    obtain ⟨counted, known, state⟩ := reflects
    refine ⟨counted, known, ?_⟩
    rcases state with isOpen | ⟨isHalf, waited⟩
    · exact Or.inl isOpen
    · exact Or.inr ⟨isHalf, le_trans waited (Int.sub_le_sub_right passed _)⟩

/-- A look brings the circuit to the state that the failures make of it. -/
theorem Reflects.refreshed (reflects : Reflects breaker seen circuit failures)
    (passed : seen ≤ now) :
    Reflects breaker now (circuit.refreshed breaker.cooldown now) failures ∧
      (circuit.refreshed breaker.cooldown now).state = failures.stateAt breaker now := by
  by_cases few : failures.count < breaker.failureThreshold
  · have closed : circuit.state = .closed := by
      rw [Reflects, if_pos few] at reflects
      exact reflects.1
    have unchanged : circuit.refreshed breaker.cooldown now = circuit :=
      Circuit.refreshed_of_ne_opened (by simp [closed])
    rw [unchanged, FailureCount.stateAt, if_pos few]
    exact ⟨reflects.later passed, closed⟩
  · have still := reflects.later passed
    rw [Reflects, if_neg few] at still
    obtain ⟨counted, known, state⟩ := still
    rw [Reflects, if_neg few, FailureCount.stateAt, if_neg few]
    rcases state with isOpen | ⟨isHalf, waited⟩
    · rw [Circuit.refreshed, dif_pos isOpen, Circuit.since_eq known]
      by_cases rested : now - failures.last ≥ breaker.cooldown
      · have notOpen := not_lt.mpr rested
        rw [if_pos rested, if_neg notOpen]
        exact ⟨⟨counted, known, Or.inr ⟨rfl, rested⟩⟩, rfl⟩
      · have resting := not_le.mp rested
        rw [if_neg rested, if_pos resting]
        exact ⟨⟨counted, known, Or.inl isOpen⟩, isOpen⟩
    · have unchanged : circuit.refreshed breaker.cooldown now = circuit :=
        Circuit.refreshed_of_ne_opened (by simp [isHalf])
      have notOpen := not_lt.mpr waited
      rw [unchanged, if_neg notOpen]
      exact ⟨⟨counted, known, Or.inr ⟨isHalf, waited⟩⟩, isHalf⟩

/-- A recorded failure is one more, and the last. -/
theorem Reflects.failed {later : Timestamp} (reflects : Reflects breaker seen circuit failures) :
    Reflects breaker later (breaker.failed circuit now) ⟨failures.count + 1, now⟩ := by
  by_cases few : failures.count < breaker.failureThreshold
  · rw [Reflects, if_pos few] at reflects
    obtain ⟨closed, counted⟩ := reflects
    have notHalf : circuit.state ≠ .halfOpen := by simp [closed]
    rw [CircuitBreaker.failed, if_neg notHalf]
    by_cases reached : circuit.failures + 1 ≥ breaker.failureThreshold
    · have many : ¬ failures.count + 1 < breaker.failureThreshold := by omega
      rw [if_pos reached, Reflects, if_neg many]
      exact ⟨reached, rfl, Or.inl rfl⟩
    · have still : failures.count + 1 < breaker.failureThreshold := by omega
      rw [if_neg reached, Reflects, if_pos still]
      exact ⟨closed, by simp [counted]⟩
  · have many : ¬ failures.count + 1 < breaker.failureThreshold := by omega
    rw [Reflects, if_neg few] at reflects
    obtain ⟨counted, -, state⟩ := reflects
    rw [Reflects, if_neg many, CircuitBreaker.failed]
    rcases state with isOpen | ⟨isHalf, -⟩
    · have notHalf : circuit.state ≠ .halfOpen := by simp [isOpen]
      have reached : circuit.failures + 1 ≥ breaker.failureThreshold := by omega
      rw [if_neg notHalf, if_pos reached]
      exact ⟨reached, rfl, Or.inl rfl⟩
    · rw [if_pos isHalf]
      exact ⟨le_refl _, rfl, Or.inl rfl⟩

end Circuits

/-! ## Histories -/

section Histories

variable {breaker : CircuitBreaker} {server : String}
  {circuits : Dict String Circuit} {readings : ClockReadings}

/-- The circuit of a server; one that is not remembered is as new. -/
def circuitOf (circuits : Dict String Circuit) (server : String) : Circuit :=
  (circuits.get? server).getD {}

theorem reflects_fresh {seen : Timestamp} :
    Reflects breaker seen (circuitOf ∅ server) {} :=
  reflects_empty

/-- What a call makes of the circuit of a server. -/
def Circuit.afterCall (breaker : CircuitBreaker) (server : String) (circuit : Circuit) :
    BreakerCall × ClockReadings → Circuit
  | (.stateOf other, readings) | (.ensureClosed other, readings) =>
      if other = server then
        circuit.refreshed breaker.cooldown (readings.looked server)
      else circuit
  | (.states, readings) => circuit.refreshed breaker.cooldown (readings.looked server)
  | (.recordSuccess other, _) => if other = server then {} else circuit
  | (.recordFailure other, readings) =>
      if other = server then
        breaker.failed (circuit.refreshed breaker.cooldown (readings.looked server))
          readings.recorded
      else circuit

theorem refresh_fst {now : Timestamp} :
    (breaker.refresh circuits server now).1 =
      (circuitOf circuits server).refreshed breaker.cooldown now := by
  unfold CircuitBreaker.refresh circuitOf
  cases circuits.get? server <;> rfl

theorem get?_refresh {other : String} {now : Timestamp} :
    (breaker.refresh circuits server now).2.get? other =
      if server = other then
        (circuits.get? other).map (Circuit.refreshed breaker.cooldown now)
      else circuits.get? other := by
  unfold CircuitBreaker.refresh
  by_cases same : server = other
  · subst same
    cases found : circuits.get? server <;> simp [found]
  · cases circuits.get? server with
    | none => simp [same]
    | some circuit => simp [Dict.get?_set, same, Ne.symm same]

/-- A recording call remembers the server; any other changes only what is there. -/
theorem get?_next (call : BreakerCall × ClockReadings) :
    (breaker.service.next circuits call).get? server =
      if recordsOn server call.1 then
        some ((circuitOf circuits server).afterCall breaker server call)
      else (circuits.get? server).map (Circuit.afterCall breaker server · call) := by
  obtain ⟨call, readings⟩ := call
  cases call with
  | stateOf other =>
      refine get?_refresh.trans ?_
      by_cases same : other = server <;> simp [recordsOn, Circuit.afterCall, same]
  | states =>
      simp [Service.next, CircuitBreaker.service, CircuitBreaker.states, recordsOn,
        Circuit.afterCall]
  | ensureClosed other =>
      rw [CircuitBreaker.next_ensureClosed, get?_refresh]
      by_cases same : other = server <;> simp [recordsOn, Circuit.afterCall, same]
  | recordSuccess other =>
      by_cases same : server = other
      · simp [Service.next, CircuitBreaker.service, CircuitBreaker.recordSuccess,
          recordsOn, Circuit.afterCall, same]
      · simp [Service.next, CircuitBreaker.service, CircuitBreaker.recordSuccess,
          Dict.get?_set, recordsOn, Circuit.afterCall, same, Ne.symm same]
  | recordFailure other =>
      by_cases same : server = other
      · simp [Service.next, CircuitBreaker.service, CircuitBreaker.recordFailure,
          recordsOn, Circuit.afterCall, refresh_fst, same]
      · simp [Service.next, CircuitBreaker.service, CircuitBreaker.recordFailure,
          Dict.get?_set, recordsOn, Circuit.afterCall, get?_refresh, same, Ne.symm same]

theorem circuitOf_next (call : BreakerCall × ClockReadings) :
    circuitOf (breaker.service.next circuits call) server =
      (circuitOf circuits server).afterCall breaker server call := by
  rw [circuitOf, get?_next]
  by_cases records : recordsOn server call.1 = true
  · rw [if_pos records, Option.getD_some]
  · rw [if_neg records, circuitOf]
    cases circuits.get? server with
    | some circuit => rfl
    | none =>
        obtain ⟨call, readings⟩ := call
        have unopened : ({} : Circuit).refreshed breaker.cooldown
            (readings.looked server) = {} :=
          Circuit.refreshed_of_ne_opened (by simp)
        cases call <;> simp_all [recordsOn, Circuit.afterCall]

/-- One call keeps the circuit in step with the failures. -/
theorem Reflects.afterCall {seen : Timestamp} {circuit : Circuit}
    {failures : FailureCount} {call : BreakerCall × ClockReadings}
    (reflects : Reflects breaker seen circuit failures)
    (timely : breakerClock.admits seen call) :
    Reflects breaker call.2.recorded (circuit.afterCall breaker server call)
      (noted server failures call) := by
  obtain ⟨call, readings⟩ := call
  obtain ⟨passed, ended⟩ := timely server
  have looked := (reflects.refreshed passed).1
  have waited := reflects.later (passed.trans ended)
  cases call with
  | stateOf other =>
      by_cases same : other = server
      · simpa only [Circuit.afterCall, noted, if_pos same] using looked.later ended
      · simpa only [Circuit.afterCall, noted, if_neg same] using waited
  | states => exact looked.later ended
  | ensureClosed other =>
      by_cases same : other = server
      · simpa only [Circuit.afterCall, noted, if_pos same] using looked.later ended
      · simpa only [Circuit.afterCall, noted, if_neg same] using waited
  | recordSuccess other =>
      by_cases same : other = server
      · simpa only [Circuit.afterCall, noted, if_pos same] using reflects_empty
      · simpa only [Circuit.afterCall, noted, if_neg same] using waited
  | recordFailure other =>
      by_cases same : other = server
      · simpa only [Circuit.afterCall, noted, if_pos same] using looked.failed
      · simpa only [Circuit.afterCall, noted, if_neg same] using waited

theorem reflects_after {seen : Timestamp} {failures : FailureCount}
    {calls : List (BreakerCall × ClockReadings)}
    (reflects : Reflects breaker seen (circuitOf circuits server) failures)
    (timely : breakerClock.Admits seen calls) :
    Reflects breaker (breakerClock.after seen calls)
      (circuitOf (breaker.service.after circuits calls) server)
      (runFrom (noted server) failures calls) := by
  induction calls generalizing seen circuits failures with
  | nil => exact reflects
  | cons call rest inductionHypothesis =>
      obtain ⟨first, others⟩ := timely
      have still : Reflects breaker call.2.recorded
          (circuitOf (breaker.service.next circuits call) server)
          (noted server failures call) := by
        rw [circuitOf_next]
        exact reflects.afterCall first
      exact inductionHypothesis still others

/-- A server is remembered exactly when an outcome was recorded for it. -/
theorem isSome_get?_after {calls : List (BreakerCall × ClockReadings)} :
    ((breaker.service.after circuits calls).get? server).isSome = true ↔
      (circuits.get? server).isSome = true ∨
        ∃ call ∈ calls, recordsOn server call.1 = true := by
  induction calls generalizing circuits with
  | nil => simp
  | cons call rest inductionHypothesis =>
      rw [Service.after_cons, inductionHypothesis, get?_next]
      by_cases records : recordsOn server call.1 = true
      · simp [records]
      · simp [records]

theorem noted_of_not_recordsOn {failures : FailureCount}
    {call : BreakerCall × ClockReadings} (other : ¬ recordsOn server call.1 = true) :
    noted server failures call = failures := by
  obtain ⟨call, readings⟩ := call
  cases call with
  | stateOf name => rfl
  | states => rfl
  | ensureClosed name => rfl
  | recordSuccess name =>
      have different : name ≠ server := by simpa [recordsOn] using other
      simp [noted, different]
  | recordFailure name =>
      have different : name ≠ server := by simpa [recordsOn] using other
      simp [noted, different]

/-- Calls that record nothing about the server leave its failures. -/
theorem failuresOf_filter (calls : List (BreakerCall × ClockReadings)) :
    failuresOf server (calls.filter (recordsOn server ·.1)) =
      failuresOf server calls := by
  unfold failuresOf
  generalize ({} : FailureCount) = failures
  induction calls generalizing failures with
  | nil => rfl
  | cons call rest inductionHypothesis =>
      by_cases records : recordsOn server call.1 = true
      · rw [List.filter_cons, if_pos records]
        exact inductionHypothesis _
      · rw [List.filter_cons, if_neg records, inductionHypothesis]
        exact congrArg (runFrom (noted server) · rest) (noted_of_not_recordsOn records).symm

theorem breakerClock_admits_of_le {earlier later : Timestamp}
    {calls : List (BreakerCall × ClockReadings)} (passed : earlier ≤ later)
    (timely : breakerClock.Admits later calls) : breakerClock.Admits earlier calls := by
  cases calls with
  | nil => trivial
  | cons call rest =>
      obtain ⟨first, others⟩ := timely
      exact ⟨fun server => ⟨passed.trans (first server).1, (first server).2⟩, others⟩

theorem breakerClock_after_le {earlier later : Timestamp} (passed : earlier ≤ later)
    (calls : List (BreakerCall × ClockReadings)) :
    breakerClock.after earlier calls ≤ breakerClock.after later calls := by
  cases calls with
  | nil => exact passed
  | cons call rest => exact le_refl _

/-- A timely history stays timely without some of its calls, and ends no later. -/
theorem breakerClock_filter {start : Timestamp}
    {calls : List (BreakerCall × ClockReadings)} (timely : breakerClock.Admits start calls)
    (kept : BreakerCall × ClockReadings → Bool) :
    breakerClock.Admits start (calls.filter kept) ∧
      breakerClock.after start (calls.filter kept) ≤ breakerClock.after start calls := by
  induction calls generalizing start with
  | nil => exact ⟨timely, le_refl _⟩
  | cons call rest inductionHypothesis =>
      obtain ⟨first, others⟩ := timely
      obtain ⟨still, ends⟩ := inductionHypothesis others
      by_cases isKept : kept call = true
      · rw [List.filter_cons_of_pos isKept]
        exact ⟨⟨first, still⟩, ends⟩
      · rw [List.filter_cons_of_neg isKept]
        have passed := (first "").1.trans (first "").2
        exact ⟨breakerClock_admits_of_le passed still,
          (breakerClock_after_le passed _).trans ends⟩

/-- What the breaker answers about a server, from the failures that its history
leaves. -/
def answerFrom (breaker : CircuitBreaker) (server : String) (readings : ClockReadings)
    (failures : FailureCount) : BreakerAnswer × BreakerAnswer :=
  let state := failures.stateAt breaker (readings.looked server)
  (.state state,
    if state = .opened then .refused ⟨server, failures.last + breaker.cooldown⟩
    else .done)

/-- What the breaker answers about a server: to `state_of` and to `ensure_closed`. -/
def answersAbout (breaker : CircuitBreaker) (circuits : Dict String Circuit)
    (server : String) (readings : ClockReadings) : BreakerAnswer × BreakerAnswer :=
  ((breaker.service circuits (.stateOf server, readings)).1,
    (breaker.service circuits (.ensureClosed server, readings)).1)

theorem answersAbout_of_reflects {seen : Timestamp} {failures : FailureCount}
    (reflects : Reflects breaker seen (circuitOf circuits server) failures)
    (passed : seen ≤ readings.looked server) :
    answersAbout breaker circuits server readings =
      answerFrom breaker server readings failures := by
  obtain ⟨looked, state⟩ := reflects.refreshed passed
  unfold answersAbout answerFrom
  rw [CircuitBreaker.answer_ensureClosed]
  simp only [CircuitBreaker.service, CircuitBreaker.stateOf, refresh_fst, state]
  by_cases isOpen : failures.stateAt breaker (readings.looked server) = .opened
  · have many : ¬ failures.count < breaker.failureThreshold := by
      intro few
      simp [FailureCount.stateAt, few] at isOpen
    rw [Reflects, if_neg many] at looked
    rw [dif_pos isOpen, if_pos isOpen, Circuit.since_eq looked.2.1]
  · rw [dif_neg isOpen, if_neg isOpen]

end Histories

section Claims

variable (breaker : CircuitBreaker) (start : Timestamp)
  (history : List (BreakerCall × ClockReadings)) (server : String)
  (readings : ClockReadings)

/-- After a history whose clock never goes back, the state of a server is a function
of its failures since the last success; the calls that record nothing about the
server have no part in it. -/
theorem circuitState_of_history (timely : breakerClock.Admits start history)
    (later : breakerClock.after start history ≤ readings.looked server) :
    answersAbout breaker (breaker.service.after ∅ history) server readings =
        answerFrom breaker server readings (failuresOf server history) ∧
      answersAbout breaker (breaker.service.after ∅ history) server readings =
        answersAbout breaker
          (breaker.service.after ∅ (history.filter (recordsOn server ·.1)))
          server readings ∧
      ∃ states, (breaker.service (breaker.service.after ∅ history)
            (.states, readings)).1 = .states states ∧
        states.get? server =
          if ∃ call ∈ history, recordsOn server call.1 = true then
            some ((failuresOf server history).stateAt breaker (readings.looked server))
          else none := by
  have reflects : Reflects breaker _ _ (failuresOf server history) :=
    reflects_after reflects_fresh timely
  obtain ⟨recordedTimely, ends⟩ := breakerClock_filter timely (recordsOn server ·.1)
  have recorded : Reflects breaker _ _ (failuresOf server _) :=
    reflects_after reflects_fresh recordedTimely
  rw [failuresOf_filter] at recorded
  have answered := answersAbout_of_reflects reflects later
  refine ⟨answered, ?_, _, rfl, ?_⟩
  · rw [answered, answersAbout_of_reflects recorded (ends.trans later)]
  · have known : ((breaker.service.after ∅ history).get? server).isSome = true ↔ _ :=
      isSome_get?_after
    have state := (reflects.refreshed later).2
    simp only [Dict.get?_mapValues, Option.map_map]
    unfold circuitOf at state
    cases found : (breaker.service.after ∅ history).get? server with
    | none =>
        rw [found] at known
        rw [if_neg (by simpa using known)]
        rfl
    | some circuit =>
        rw [found] at known state
        rw [if_pos (by simpa using known)]
        exact congrArg some state

/-- One failure too few, a read, the failure that opens the circuit, a read while it
rests. -/
theorem circuitState_of_history_at_secondFailure :
    answersAbout ⟨2, 10, by decide⟩
        (CircuitBreaker.service ⟨2, 10, by decide⟩ |>.after ∅
          [(.recordFailure "web", .at 1), (.stateOf "web", .at 2),
            (.recordFailure "web", .at 3)])
        "web" (.at 12) =
      (.state .opened, .refused ⟨"web", 13⟩) := by
  have timely : breakerClock.Admits 0
      [(.recordFailure "web", .at 1), (.stateOf "web", .at 2),
        (.recordFailure "web", .at 3)] := by
    simp [Service.Guard.Admits, StepsMeet, breakerClock, ClockReadings.at]
  exact (circuitState_of_history _ 0 _ "web" (.at 12) timely (by decide)).1.trans
    (by decide)

end Claims

end ResearchPlatform
