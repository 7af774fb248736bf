import Mathlib.Logic.Function.Basic
import Mathlib.Tactic.Common

/-!
# Two clients that read, then write

Each client takes two atomic steps on a shared store: it reads and decides what
to write, or ends without writing; then it writes.  A complete run of two such
clients is one of four: one client after the other, in either order, or both
reading before either writes, with either writing first.
-/

namespace ResearchPlatform.Foundation.ReadModifyWrite

/-- A client: the first step ends with a reply or holds what is to be written,
and leaves the store as it is. -/
structure Client (Store Held Reply : Type) where
  read : Store → Reply ⊕ Held
  write : Held → Store → Reply × Store

inductive Phase (Held Reply : Type) where
  | ready
  | holding (held : Held)
  | finished (reply : Reply)

inductive Side where
  | left
  | right
  deriving DecidableEq, Repr

namespace Side

def other : Side → Side
  | left => right
  | right => left

@[simp]
theorem other_other (side : Side) : side.other.other = side := by
  cases side <;> rfl

@[simp]
theorem other_ne (side : Side) : side.other ≠ side := by
  cases side <;> decide

@[simp]
theorem ne_other (side : Side) : side ≠ side.other := by
  cases side <;> decide

theorem eq_or_eq_other (side reference : Side) :
    side = reference ∨ side = reference.other := by
  cases side <;> cases reference <;> decide

theorem eq_other_of_ne {first second : Side} (different : first ≠ second) :
    second = first.other := by
  rcases eq_or_eq_other second first with same | other
  · exact absurd same.symm different
  · exact other

end Side

variable {Store Held Reply : Type}

/-- The store and how far each client has come. -/
@[ext]
structure Race (Store Held Reply : Type) where
  store : Store
  phase : Side → Phase Held Reply

/-- Both clients are about to read this store. -/
def Race.start (store : Store) : Race Store Held Reply := ⟨store, fun _ => .ready⟩

/-- Both clients have their reply. -/
def Race.Complete (race : Race Store Held Reply) : Prop :=
  ∀ side, ∃ reply, race.phase side = .finished reply

variable (clients : Side → Client Store Held Reply)

/-- One atomic step of one client; a client that has finished does nothing. -/
def step (race : Race Store Held Reply) (side : Side) : Race Store Held Reply :=
  match race.phase side with
  | .ready =>
      match (clients side).read race.store with
      | .inl reply =>
          { race with phase := Function.update race.phase side (.finished reply) }
      | .inr held =>
          { race with phase := Function.update race.phase side (.holding held) }
  | .holding held =>
      let (reply, store) := (clients side).write held race.store
      ⟨store, Function.update race.phase side (.finished reply)⟩
  | .finished _ => race

def run (race : Race Store Held Reply) (schedule : List Side) :
    Race Store Held Reply :=
  schedule.foldl (step clients) race

/-- One client takes both its steps. -/
def settle (race : Race Store Held Reply) (side : Side) : Race Store Held Reply :=
  step clients (step clients race side) side

variable {clients} {race : Race Store Held Reply} {side : Side}

@[simp]
theorem run_nil : run clients race [] = race := rfl

@[simp]
theorem run_cons {rest : List Side} :
    run clients race (side :: rest) = run clients (step clients race side) rest := rfl

theorem step_of_finished {reply : Reply}
    (finished : race.phase side = .finished reply) :
    step clients race side = race := by
  unfold step
  rw [finished]

theorem step_of_ready_refused {reply : Reply} (ready : race.phase side = .ready)
    (refused : (clients side).read race.store = .inl reply) :
    step clients race side =
      ⟨race.store, Function.update race.phase side (.finished reply)⟩ := by
  unfold step
  simp only [ready, refused]

theorem step_of_ready_held {held : Held} (ready : race.phase side = .ready)
    (read : (clients side).read race.store = .inr held) :
    step clients race side =
      ⟨race.store, Function.update race.phase side (.holding held)⟩ := by
  unfold step
  simp only [ready, read]

theorem step_of_holding {held : Held} (holding : race.phase side = .holding held) :
    step clients race side =
      ⟨((clients side).write held race.store).2,
        Function.update race.phase side
          (.finished ((clients side).write held race.store).1)⟩ := by
  unfold step
  rw [holding]

/-- A step of one client leaves the other where it was. -/
theorem phase_step_of_ne {turn : Side} (different : side ≠ turn) :
    (step clients race turn).phase side = race.phase side := by
  unfold step
  split
  · split <;> simp [different]
  · simp [different]
  · rfl

/-- A client that has read has finished after one more step. -/
theorem finished_of_step (clients : Side → Client Store Held Reply)
    (started : race.phase side ≠ .ready) :
    ∃ reply, (step clients race side).phase side = .finished reply := by
  cases phase : race.phase side with
  | ready => exact absurd phase started
  | holding held => simp [step_of_holding phase]
  | finished reply => exact ⟨reply, by rw [step_of_finished phase, phase]⟩

theorem started_of_step : (step clients race side).phase side ≠ .ready := by
  cases phase : race.phase side with
  | ready =>
      cases read : (clients side).read race.store with
      | inl reply => simp [step_of_ready_refused phase read]
      | inr held => simp [step_of_ready_held phase read]
  | holding held => simp [step_of_holding phase]
  | finished reply => simp [step_of_finished phase, phase]

/-- A client that took both its steps has finished. -/
theorem finished_of_settle (clients : Side → Client Store Held Reply)
    (race : Race Store Held Reply) (side : Side) :
    ∃ reply, (settle clients race side).phase side = .finished reply :=
  finished_of_step clients started_of_step

/-- A third step of a client does nothing. -/
theorem settle_step :
    settle clients (step clients race side) side = settle clients race side := by
  obtain ⟨reply, finished⟩ := finished_of_settle clients race side
  exact step_of_finished finished

theorem settle_of_finished {reply : Reply}
    (finished : race.phase side = .finished reply) :
    settle clients race side = race := by
  rw [settle, step_of_finished finished, step_of_finished finished]

theorem settle_of_started (started : race.phase side ≠ .ready) :
    settle clients race side = step clients race side := by
  obtain ⟨reply, finished⟩ := finished_of_step clients started
  exact step_of_finished finished

/-- Both steps of a client that has nothing to write. -/
theorem settle_of_refused {reply : Reply} (ready : race.phase side = .ready)
    (refused : (clients side).read race.store = .inl reply) :
    settle clients race side =
      ⟨race.store, Function.update race.phase side (.finished reply)⟩ := by
  have finished : (step clients race side).phase side = .finished reply := by
    simp [step_of_ready_refused ready refused]
  rw [settle, step_of_finished finished]
  exact step_of_ready_refused ready refused

/-- Both steps of a client that writes. -/
theorem settle_of_held {held : Held} (ready : race.phase side = .ready)
    (read : (clients side).read race.store = .inr held) :
    settle clients race side =
      ⟨((clients side).write held race.store).2,
        Function.update race.phase side
          (.finished ((clients side).write held race.store).1)⟩ := by
  have holding : (step clients race side).phase side = .holding held := by
    simp [step_of_ready_held ready read]
  rw [settle, step_of_holding holding, step_of_ready_held ready read]
  simp

/-- Reading commutes with reading. -/
theorem step_step_of_ready (ready : race.phase side = .ready)
    (otherReady : race.phase side.other = .ready) :
    step clients (step clients race side) side.other =
      step clients (step clients race side.other) side := by
  have thenOther : (step clients race side).phase side.other = .ready := by
    rw [phase_step_of_ne (Side.other_ne side), otherReady]
  have thenSide : (step clients race side.other).phase side = .ready := by
    rw [phase_step_of_ne (Side.ne_other side), ready]
  have readKeeps : ∀ {current : Race Store Held Reply} {which : Side},
      current.phase which = .ready →
      step clients current which =
        ⟨current.store, Function.update current.phase which
          (match (clients which).read current.store with
            | .inl reply => .finished reply
            | .inr held => .holding held)⟩ := by
    intro current which isReady
    cases read : (clients which).read current.store with
    | inl reply => exact step_of_ready_refused isReady read
    | inr held => exact step_of_ready_held isReady read
  rw [readKeeps thenOther, readKeeps thenSide, readKeeps ready, readKeeps otherReady]
  ext1
  · rfl
  · exact Function.update_comm (Side.ne_other side) _ _ _

/-- Once one client has finished, what is left of a complete run is the other's
two steps. -/
theorem run_of_finished {reply : Reply} {schedule : List Side}
    (finished : race.phase side = .finished reply)
    (complete : (run clients race schedule).Complete) :
    run clients race schedule = settle clients race side.other := by
  induction schedule generalizing race with
  | nil =>
      obtain ⟨otherReply, otherFinished⟩ := complete side.other
      exact (settle_of_finished otherFinished).symm
  | cons turn rest inductionHypothesis =>
      rcases Side.eq_or_eq_other turn side with rfl | rfl
      · rw [run_cons, step_of_finished finished] at complete ⊢
        exact inductionHypothesis finished complete
      · have stillFinished :
            (step clients race side.other).phase side = .finished reply := by
          rw [phase_step_of_ne (Side.ne_other side), finished]
        rw [run_cons] at complete ⊢
        rw [inductionHypothesis stillFinished complete, settle_step]

variable (clients)

/-- One client after the other. -/
def serial (store : Store) (first : Side) : Race Store Held Reply :=
  settle clients (settle clients (Race.start store) first) first.other

/-- Both clients read the store, then `first` writes and the other after it. -/
def overlapped (store : Store) (first : Side) : Race Store Held Reply :=
  let bothRead := step clients (step clients (Race.start store) first) first.other
  settle clients (settle clients bothRead first) first.other

/-- Both clients take a first step before either takes its second. -/
def Overlaps : List Side → Prop
  | first :: second :: _ => first ≠ second
  | _ => False

instance : DecidablePred Overlaps
  | [] => isFalse id
  | [_] => isFalse id
  | first :: second :: _ => inferInstanceAs (Decidable (first ≠ second))

/-- The client that takes its second step first, in a schedule that overlaps. -/
def firstWriter : List Side → Side
  | _ :: _ :: third :: _ => third
  | _ => .left

variable {clients} {store : Store} {schedule : List Side}

/-- A complete run that does not overlap is serial. -/
theorem run_eq_serial
    (complete : (run clients (Race.start store) schedule).Complete)
    (apart : ¬ Overlaps schedule) :
    ∃ first, run clients (Race.start store) schedule = serial clients store first := by
  match schedule with
  | [] =>
      obtain ⟨reply, finished⟩ := complete .left
      cases finished
  | [turn] =>
      obtain ⟨reply, finished⟩ := complete turn.other
      rw [run_cons, run_nil, phase_step_of_ne (Side.other_ne turn)] at finished
      cases finished
  | first :: second :: rest =>
      obtain rfl : first = second := not_ne_iff.mp apart
      obtain ⟨reply, finished⟩ := finished_of_settle clients (Race.start store) first
      exact ⟨first, run_of_finished finished complete⟩

/-- A complete run that overlaps is the overlapped one of its first writer. -/
theorem run_eq_overlapped
    (complete : (run clients (Race.start store) schedule).Complete)
    (overlaps : Overlaps schedule) :
    run clients (Race.start store) schedule =
      overlapped clients store (firstWriter schedule) := by
  match schedule with
  | first :: second :: rest =>
      obtain rfl : second = first.other := Side.eq_other_of_ne overlaps
      rw [run_cons, run_cons] at complete ⊢
      have bothRead : ∀ side,
          step clients (step clients (Race.start store) first) first.other =
            step clients (step clients (Race.start store) side) side.other := by
        intro side
        rcases Side.eq_or_eq_other side first with rfl | rfl
        · rfl
        · rw [Side.other_other]
          exact step_step_of_ready rfl rfl
      match rest with
      | [] =>
          -- Neither client had anything to write.
          rw [run_nil] at complete ⊢
          rw [bothRead (firstWriter [first, first.other])] at complete ⊢
          obtain ⟨reply, finished⟩ := complete (firstWriter [first, first.other])
          obtain ⟨otherReply, otherFinished⟩ :=
            complete (firstWriter [first, first.other]).other
          rw [overlapped, settle_of_finished finished, settle_of_finished otherFinished]
      | third :: rest =>
          rw [bothRead third, run_cons] at complete ⊢
          have started :
              (step clients (step clients (Race.start store) third)
                third.other).phase third ≠ .ready := by
            rw [phase_step_of_ne (Side.ne_other third)]
            exact started_of_step
          obtain ⟨reply, finished⟩ := finished_of_step clients started
          change _ = overlapped clients store third
          rw [run_of_finished finished complete, overlapped, settle_of_started started]

/-- The outcome is that of the two clients one after the other, in one of the
two orders. -/
def Serializable (clients : Side → Client Store Held Reply) (store : Store)
    (schedule : List Side) : Prop :=
  ∃ first, run clients (Race.start store) schedule = serial clients store first

/-- A client that ends without writing does not disturb the other. -/
theorem overlapped_eq_serial_of_refused {reply : Reply} {refused : Side}
    (ends : (clients refused).read store = .inl reply) (first : Side) :
    overlapped clients store first = serial clients store refused := by
  have ended : step clients (Race.start store) refused =
      ⟨store, Function.update (fun _ => .ready) refused (.finished reply)⟩ :=
    step_of_ready_refused rfl ends
  have finishedFirst : (step clients (Race.start store) refused).phase refused =
      .finished reply := by
    simp [ended]
  have settled : step clients (Race.start store) refused =
      settle clients (Race.start store) refused :=
    (step_of_finished finishedFirst).symm
  have finished : (settle clients (Race.start store) refused).phase refused =
      .finished reply := settled ▸ finishedFirst
  have stillFinished : ∀ {race : Race Store Held Reply},
      race.phase refused = .finished reply →
      (settle clients race refused.other).phase refused = .finished reply := by
    intro race already
    rw [settle, phase_step_of_ne (Side.ne_other refused),
      phase_step_of_ne (Side.ne_other refused), already]
  unfold overlapped serial
  rcases Side.eq_or_eq_other first refused with rfl | rfl
  · simp only [settled]
    have unmoved :
        (step clients (settle clients (Race.start store) first) first.other).phase
            first = .finished reply := by
      rw [phase_step_of_ne (Side.ne_other first), finished]
    rw [settle_of_finished unmoved, settle_step]
  · have swapped :
        step clients (step clients (Race.start store) refused.other)
            refused.other.other =
          step clients (settle clients (Race.start store) refused) refused.other := by
      rw [Side.other_other, ← settled]
      exact (step_step_of_ready rfl rfl).symm
    simp only [swapped]
    rw [settle_step, Side.other_other]
    exact settle_of_finished (stillFinished finished)

/-- A race is known by its store and the two phases. -/
theorem Race.eq_iff {first second : Race Store Held Reply} (side : Side) :
    first = second ↔
      first.store = second.store ∧ first.phase side = second.phase side ∧
        first.phase side.other = second.phase side.other := by
  constructor
  · rintro rfl
    exact ⟨rfl, rfl, rfl⟩
  · rintro ⟨sameStore, samePhase, sameOther⟩
    ext1
    · exact sameStore
    · funext which
      rcases Side.eq_or_eq_other which side with rfl | rfl
      · exact samePhase
      · exact sameOther

/-- When both clients have something to write, the second write goes on top of
the first, and each was decided on the store as it was at the start. -/
theorem overlapped_of_held {first : Side} {held otherHeld : Held}
    (reads : (clients first).read store = .inr held)
    (otherReads : (clients first.other).read store = .inr otherHeld) :
    let written := (clients first).write held store
    let last := (clients first.other).write otherHeld written.2
    (overlapped clients store first).store = last.2 ∧
      (overlapped clients store first).phase first = .finished written.1 ∧
      (overlapped clients store first).phase first.other = .finished last.1 := by
  have bothRead : step clients (step clients (Race.start store) first) first.other =
      ⟨store, Function.update (Function.update (fun _ => .ready) first
        (.holding held)) first.other (.holding otherHeld)⟩ := by
    have firstRead : step clients (Race.start store) first =
        ⟨store, Function.update (fun _ => .ready) first (.holding held)⟩ :=
      step_of_ready_held rfl reads
    rw [firstRead]
    exact step_of_ready_held (by simp) otherReads
  let afterReads : Race Store Held Reply :=
    ⟨store, Function.update (Function.update (fun _ => .ready) first
      (.holding held)) first.other (.holding otherHeld)⟩
  have holding : afterReads.phase first = .holding held := by simp [afterReads]
  have firstWrites : settle clients afterReads first = _ :=
    (settle_of_started (by simp [holding])).trans (step_of_holding holding)
  have otherHolding :
      (settle clients afterReads first).phase first.other = .holding otherHeld := by
    simp [firstWrites, afterReads]
  have otherWrites :
      settle clients (settle clients afterReads first) first.other = _ :=
    (settle_of_started (by simp [otherHolding])).trans
      (step_of_holding otherHolding)
  unfold overlapped
  simp only [bothRead]
  change (settle clients (settle clients afterReads first) first.other).store = _ ∧
    (settle clients (settle clients afterReads first) first.other).phase first = _ ∧
    (settle clients (settle clients afterReads first) first.other).phase
      first.other = _
  rw [otherWrites, firstWrites]
  simp [afterReads]

end ResearchPlatform.Foundation.ReadModifyWrite
