import Mathlib.Algebra.Order.Floor.Semiring
import Mathlib.Data.Rat.Floor
import Mathlib.Tactic.Linarith
import ResearchPlatform.Mcp.SandboxPod

/-!
# No calculation with a network

A pod runs the submitted code only when the last two attempts to reach the API server failed,
with no attempt between them that succeeded.  A pod that is never cut off gives up.
-/

namespace ResearchPlatform

open Foundation Program

/-- What a run of the script shows: the attempts that failed in a row, the limit that was set,
the time that has passed, and for each code that was run what had been shown by then. -/
structure PodWatch where
  refusals : Nat := 0
  limit : Option Int := none
  passed : Rat
  started : List (Nat × Option Int × String) := []

namespace PodPython

/-- The monitor that watches the script. -/
def podMonitor (admits : PodWatch → PodEvent → Prop) :
    Monitor PodCall PodCall.Answer PodFault PodWatch where
  observe
    | watch, ⟨.connect .., .ok _⟩ => { watch with refusals := 0 }
    | watch, ⟨.connect .., .error _⟩ => { watch with refusals := watch.refusals + 1 }
    | watch, ⟨.monotonic, .ok now⟩ => { watch with passed := now }
    | watch, ⟨.sleep slept, .ok _⟩ => { watch with passed := watch.passed + slept }
    | watch, ⟨.setrlimit limit, .ok _⟩ => { watch with limit := some limit }
    | watch, ⟨.execute code, _⟩ =>
        { watch with started := watch.started ++ [(watch.refusals, watch.limit, code)] }
    | watch, _ => watch
  admits := admits

/-- The fault is not that of a loop without turns, unless something outside raised that. -/
def Raised (admits : PodWatch → PodEvent → Prop) (fault : PodFault) : Prop :=
  fault ≠ .starved ∨ ∃ watch call, admits watch ⟨call, .error fault⟩

variable {admits : PodWatch → PodEvent → Prop} {host : String} {port : Int}

/-- One turn is cut off once more, or sleeps before the time to give up, or ends the loop
after two refusals in a row. -/
theorem ensures_probe {giveUp : Rat} {blocked : Nat} {watch : PodWatch}
    (counted : watch.refusals = blocked) (few : blocked ≤ 2) :
    Ensures (podMonitor admits) (probe host port giveUp blocked) watch
      fun outcome last => last.started = watch.started ∧
        match outcome with
        | .ok (.inl next) => last.refusals = next ∧ next ≤ 2 ∧
            (next = blocked + 1 ∧ last.passed = watch.passed ∨
              next = 0 ∧ blocked < 2 ∧ ∃ now, now < giveUp ∧ last.passed = now + 1 / 4 ∧
                admits { watch with refusals := 0 } ⟨.monotonic, .ok now⟩)
        | .ok (.inr _) => last.refusals = 2
        | .error fault => Raised admits fault := by
  rw [probe]
  split
  · rename_i less
    apply ensures_bind.mpr
    apply Program.ensures_attempt.mpr
    apply ensures_perform.mpr
    intro answer admitted
    cases answer with
    | error fault =>
        cases fault with
        | osError message =>
            refine ⟨rfl, ?_, by omega, Or.inl ⟨rfl, rfl⟩⟩
            change watch.refusals + 1 = blocked + 1
            rw [counted]
        | systemExit message => exact ⟨rfl, Or.inl (by simp)⟩
        | raised message => exact ⟨rfl, Or.inl (by simp)⟩
        | starved => exact ⟨rfl, Or.inr ⟨_, _, admitted⟩⟩
    | ok _ =>
        apply ensures_perform_bind.mpr
        intro shown shownAdmitted
        cases shown with
        | error fault => exact ⟨rfl, Or.inr ⟨_, _, shownAdmitted⟩⟩
        | ok now =>
            dsimp only
            split
            · exact ⟨rfl, Or.inl (by simp)⟩
            · rename_i early
              apply ensures_perform_bind.mpr
              intro slept sleptAdmitted
              cases slept with
              | error fault => exact ⟨rfl, Or.inr ⟨_, _, sleptAdmitted⟩⟩
              | ok _ =>
                  refine ⟨rfl, rfl, Nat.zero_le 2, Or.inr ⟨rfl, less, now, ?_, rfl, ?_⟩⟩
                  · exact lt_of_not_ge early
                  · exact shownAdmitted
  · refine ⟨rfl, ?_⟩
    change watch.refusals = 2
    omega

/-- Nothing was run, or one code was, right after two refusals and under a limit. -/
def Isolated (started : List (Nat × Option Int × String)) : Prop :=
  started = [] ∨ ∃ limit code, started = [(2, some limit, code)]

variable {python : PodPython}

/-- After the loop the code is run under a limit, or not at all. -/
theorem ensures_calculate {watch : PodWatch} (cutOff : watch.refusals = 2)
    (fresh : watch.started = []) :
    Ensures (podMonitor admits) python.calculate watch fun outcome last =>
      Isolated last.started ∧ ∀ fault, outcome = .error fault → Raised admits fault := by
  have raised : ∀ {watch call fault}, admits watch ⟨call, .error fault⟩ →
      ∀ other, (Except.error fault : Except PodFault Unit) = .error other →
        Raised admits other := by
    intro watch call fault admitted other same
    cases same
    exact Or.inr ⟨watch, call, admitted⟩
  apply ensures_perform_bind.mpr
  intro text admitted
  cases text with
  | error fault => exact ⟨Or.inl fresh, raised admitted⟩
  | ok text =>
      apply ensures_bind.mpr
      cases python.int text with
      | none => exact ⟨Or.inl fresh, fun fault same => Or.inl (by cases same; simp)⟩
      | some limit =>
          apply ensures_perform_bind.mpr
          intro limited limitedAdmitted
          cases limited with
          | error fault => exact ⟨Or.inl fresh, raised limitedAdmitted⟩
          | ok _ =>
              apply ensures_perform_bind.mpr
              intro code codeAdmitted
              cases code with
              | error fault => exact ⟨Or.inl fresh, raised codeAdmitted⟩
              | ok code =>
                  apply ensures_perform.mpr
                  intro ran ranAdmitted
                  constructor
                  · refine Or.inr ⟨limit, code, ?_⟩
                    change watch.started ++ [(watch.refusals, some limit, code)] = _
                    rw [fresh, cutOff, List.nil_append]
                  · cases ran with
                    | ok _ => exact nofun
                    | error fault => exact raised ranAdmitted

/-- The readings at the head of the script. -/
theorem ensures_script {turns : Nat} {passed : Rat}
    {post : Except PodFault Unit → PodWatch → Prop}
    (failed : ∀ fault watch, watch.started = [] → Raised admits fault →
      post (.error fault) watch)
    (looped : ∀ host port now text seconds, admits ⟨0, none, now, []⟩
        ⟨.pop "CALCULATION_ISOLATION_SECONDS", .ok text⟩ →
      python.float text = some seconds →
      Ensures (podMonitor admits)
        ((loop (probe host port (now + seconds)) .starved turns 0).bind fun _ =>
          python.calculate) ⟨0, none, now, []⟩ post) :
    Ensures (podMonitor admits) (python.script turns) ⟨0, none, passed, []⟩ post := by
  apply ensures_perform_bind.mpr
  intro host admitted
  cases host with
  | error fault => exact failed fault _ rfl (Or.inr ⟨_, _, admitted⟩)
  | ok host =>
      apply ensures_perform_bind.mpr
      intro portText admitted
      cases portText with
      | error fault => exact failed fault _ rfl (Or.inr ⟨_, _, admitted⟩)
      | ok portText =>
          apply ensures_bind.mpr
          cases python.int portText with
          | none => exact failed _ _ rfl (Or.inl (by simp))
          | some port =>
              apply ensures_perform_bind.mpr
              intro shown admitted
              cases shown with
              | error fault => exact failed fault _ rfl (Or.inr ⟨_, _, admitted⟩)
              | ok now =>
                  apply ensures_perform_bind.mpr
                  intro text textAdmitted
                  cases text with
                  | error fault => exact failed fault _ rfl (Or.inr ⟨_, _, textAdmitted⟩)
                  | ok text =>
                      apply ensures_bind.mpr
                      cases read : python.float text with
                      | none => exact failed _ _ rfl (Or.inl (by simp))
                      | some seconds =>
                          exact looped host port now text seconds textAdmitted read

/-! ## Safety -/

/-- However long the loop is, what is run is isolated. -/
theorem ensures_isolated {turns : Nat} {passed : Rat} :
    Ensures (podMonitor admits) (python.script turns) ⟨0, none, passed, []⟩
      fun _ last => Isolated last.started := by
  apply ensures_script
  · exact fun fault watch fresh _ => Or.inl fresh
  · intro host port now text seconds _ _
    apply ensures_bind.mpr
    have probed : Ensures (podMonitor admits)
        (loop (probe host port (now + seconds)) .starved turns 0) ⟨0, none, now, []⟩
        fun outcome last => last.started = [] ∧ (outcome = .ok () → last.refusals = 2) := by
      apply ensures_loop_of_starved fun blocked (watch : PodWatch) =>
        watch.refusals = blocked ∧ blocked ≤ 2 ∧ watch.started = []
      · intro blocked watch holds
        obtain ⟨counted, few, fresh⟩ := holds
        apply (ensures_probe counted few).mono
        intro outcome last turned
        obtain ⟨same, turned⟩ := turned
        match outcome, turned with
        | .ok (.inl next), ⟨counted, few, _⟩ => exact ⟨counted, few, same.trans fresh⟩
        | .ok (.inr _), cutOff => exact ⟨same.trans fresh, fun _ => cutOff⟩
        | .error fault, _ => exact ⟨same.trans fresh, nofun⟩
      · exact fun blocked watch holds => ⟨holds.2.2, nofun⟩
      · exact ⟨rfl, Nat.zero_le 2, rfl⟩
    apply probed.mono
    intro outcome watch ended
    cases outcome with
    | ok _ => exact (ensures_calculate (ended.2 rfl) ended.1).mono fun _ _ done => done.1
    | error fault => exact Or.inl ended.1

/-! ## Time -/

/-- The clock goes forward, a sleep lasts, and the pod is given an allowance of `seconds`.
Nothing outside raises the fault of a loop without turns. -/
def Timed (python : PodPython) (seconds : Rat) : PodWatch → PodEvent → Prop
  | watch, ⟨.monotonic, .ok now⟩ => watch.passed ≤ now
  | _, ⟨.pop name, .ok text⟩ =>
      name = "CALCULATION_ISOLATION_SECONDS" → python.float text = some seconds
  | _, ⟨_, .error fault⟩ => fault ≠ .starved
  | _, _ => True

theorem Raised.fed {seconds : Rat} {fault : PodFault}
    (raised : Raised (Timed python seconds) fault) : fault ≠ .starved := by
  rcases raised with fed | ⟨watch, call, admitted⟩
  · exact fed
  · cases call <;> exact admitted

/-- Before the time to give up a pod is refused at most twice for each sleep that is left. -/
def Remaining (giveUp : Rat) (blocked : Nat) (watch : PodWatch) (left : Nat) : Prop :=
  watch.refusals = blocked ∧ blocked ≤ 2 ∧ watch.started = [] ∧
    ∃ sleeps : Nat, giveUp ≤ watch.passed + sleeps * (1 / 4) ∧ 3 * sleeps + 2 ≤ left + blocked

/-- The loop ends within its allowance. -/
theorem ensures_ends {turns : Nat} {passed seconds : Rat}
    (enough : 3 * ⌈seconds * 4⌉₊ + 2 < turns) :
    Ensures (podMonitor (Timed python seconds)) (python.script turns) ⟨0, none, passed, []⟩
      fun outcome _ => outcome ≠ .error .starved := by
  apply ensures_script
  · intro fault watch _ raised starved
    exact raised.fed (Except.error.inj starved)
  · intro host port now text other popped read
    obtain rfl := Option.some.inj ((popped rfl).symm.trans read)
    apply ensures_bind.mpr
    have probed : Ensures (podMonitor (Timed python seconds))
        (loop (probe host port (now + seconds)) .starved turns 0) ⟨0, none, now, []⟩
        fun outcome last => last.started = [] ∧
          match outcome with
          | .ok _ => last.refusals = 2
          | .error fault => fault ≠ .starved := by
      refine ensures_loop (Remaining (now + seconds)) ?_ enough ?_
      · intro blocked watch left remaining
        obtain ⟨counted, few, fresh, sleeps, bounded, enough⟩ := remaining
        apply (ensures_probe counted few).mono
        intro outcome last turned
        obtain ⟨same, turned⟩ := turned
        match outcome, turned with
        | .ok (.inl next), ⟨counted, few, Or.inl ⟨isNext, unmoved⟩⟩ =>
            refine ⟨left - 1, by omega, counted, few, same.trans fresh, sleeps, ?_, by omega⟩
            rw [unmoved]
            exact bounded
        | .ok (.inl next), ⟨counted, few, Or.inr ⟨isZero, less, shown, early, slept, clock⟩⟩ =>
            have forward : watch.passed ≤ shown := clock
            cases sleeps with
            | zero =>
                rw [Nat.cast_zero, zero_mul, add_zero] at bounded
                exact absurd (lt_of_le_of_lt forward early) (not_lt_of_ge bounded)
            | succ fewer =>
                refine ⟨left - 1, by omega, counted, few, same.trans fresh, fewer, ?_, by omega⟩
                rw [Nat.cast_succ] at bounded
                rw [slept]
                linarith
        | .ok (.inr _), cutOff => exact ⟨same.trans fresh, cutOff⟩
        | .error fault, raised => exact ⟨same.trans fresh, raised.fed⟩
      · refine ⟨rfl, Nat.zero_le 2, rfl, ⌈seconds * 4⌉₊, ?_, Nat.le_refl _⟩
        have rounded := Nat.le_ceil (seconds * 4)
        change now + seconds ≤ now + _ * (1 / 4)
        linarith
    apply probed.mono
    intro outcome watch ended
    cases outcome with
    | ok _ =>
        apply (ensures_calculate ended.2 ended.1).mono
        intro outcome _ done starved
        exact (done.2 _ starved).fed rfl
    | error fault => simpa using ended.2

namespace CutOff

def readings : PodPython where
  int _ := some 10
  float _ := some 15

def pod : Handler PodCall PodCall.Answer PodFault Rat
  | now, .environ _ => (.ok "443", now)
  | now, .pop _ => (.ok "15", now)
  | now, .connect .. => (.error (.osError "timed out"), now + 1)
  | now, .monotonic => (.ok now, now)
  | now, .sleep seconds => (.ok (), now + seconds)
  | now, .setrlimit _ => (.ok (), now)
  | now, .execute _ => (.ok (), now)

theorem timed : (podMonitor (Timed readings 15)).Admits ⟨0, none, 0, []⟩
    (interpret pod (readings.script 183) 0).trace := by
  refine Monitor.admits_interpret (fun watch now => watch.passed ≤ now) ?_ ?_ _ (le_refl 0)
  · intro watch now call behind
    match call with
    | .monotonic => exact behind
    | .pop _ => exact fun _ => rfl
    | .connect .. => exact nofun
    | .environ _ | .sleep _ | .setrlimit _ | .execute _ => trivial
  · intro watch now call behind
    match call with
    | .monotonic => exact le_refl now
    | .connect .. => exact le_trans behind (le_add_of_nonneg_right zero_le_one)
    | .sleep seconds => exact add_le_add_left behind seconds
    | .pop _ | .environ _ | .setrlimit _ | .execute _ => exact behind

end CutOff

end PodPython

end ResearchPlatform
