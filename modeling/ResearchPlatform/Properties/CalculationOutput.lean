import Mathlib.Algebra.Order.Floor.Semiring
import Mathlib.Data.Rat.Floor
import Mathlib.Tactic.Linarith
import ResearchPlatform.Foundation.Traces
import ResearchPlatform.Properties.SandboxJobs

/-!
# The output of a calculation

Under a clock that goes forward a calculation on a cluster is followed for a bounded number
of turns.  What it returns is what the pod of its Job printed, once the Job was reported
complete.
-/

namespace ResearchPlatform

open Foundation Program

namespace KubernetesSandboxBackend

variable {backend : KubernetesSandboxBackend}

/-! ## Time -/

/-- The monotonic clock and `sleep`: the state is a time that has passed.  Nothing outside
raises the fault of a loop without turns. -/
def timeMonitor : Monitor SandboxCall SandboxCall.Answer SandboxFault Rat where
  observe
    | _, ⟨.clock, .ok now⟩ => now
    | passed, ⟨.sleep seconds, .ok _⟩ => passed + seconds
    | passed, _ => passed
  admits
    | passed, ⟨.clock, .ok now⟩ => passed ≤ now
    | _, ⟨_, .error fault⟩ => fault ≠ .starved
    | _, _ => True

/-- No loop of the program runs out of its turns. -/
def Unstarved {α : Type} (program : Sandboxing α) : Prop :=
  ∀ passed, Ensures timeMonitor program passed fun outcome _ => outcome ≠ .error .starved

section Unstarved

variable {α β : Type} {program : Sandboxing α}

theorem unstarved_finish {outcome : Except SandboxFault α} (fed : outcome ≠ .error .starved) :
    Unstarved (finish outcome) := fun _ => fed

theorem unstarved_perform (call : SandboxCall) :
    Unstarved (perform call : Sandboxing call.Answer) := by
  intro passed answer admitted starved
  subst starved
  cases call <;> exact absurd rfl admitted

theorem Unstarved.bind {next : α → Sandboxing β} (first : Unstarved program)
    (second : ∀ value, Unstarved (next value)) : Unstarved (program.bind next) := by
  intro passed
  apply ensures_bind.mpr
  apply (first passed).mono
  intro outcome last fed
  cases outcome with
  | ok value => exact second value last
  | error fault => simpa using fed

theorem Unstarved.rescue {recover : SandboxFault → Sandboxing α} (first : Unstarved program)
    (second : ∀ fault, fault ≠ .starved → Unstarved (recover fault)) :
    Unstarved (program.rescue recover) := by
  intro passed
  apply ensures_rescue.mpr
  apply (first passed).mono
  intro outcome last fed
  cases outcome with
  | ok value => exact fed
  | error fault => exact second fault (by simpa using fed) last

theorem Unstarved.ensuring {cleanup : Sandboxing Unit} (first : Unstarved program)
    (second : Unstarved cleanup) : Unstarved (program.ensuring cleanup) := by
  intro passed
  apply ensures_ensuring.mpr
  apply (first passed).mono
  intro outcome middle fed
  apply (second middle).mono
  intro cleaned last cleanedFed
  cases cleaned with
  | ok _ => exact fed
  | error fault => simpa using cleanedFed

theorem unstarved_translate (text : String) {fault : SandboxFault} (fed : fault ≠ .starved) :
    Unstarved (raise (translate text fault) : Sandboxing α) := by
  apply unstarved_finish
  cases fault with
  | starved => exact absurd rfl fed
  | _ => simp [translate]

theorem unstarved_request {method : HttpMethod} {path : String} {options : RequestOptions} :
    Unstarved (request method path options) :=
  (unstarved_perform .token).bind fun _ => unstarved_perform _

theorem get_fed {name : String} {default document : Json} :
    get name default document ≠ .error .starved := by
  cases document <;> simp [get]

theorem iterate_fed {document : Json} : iterate document ≠ .error .starved := by
  cases document <;> simp [iterate]

/-- What two readings raise, one of them raises. -/
theorem bind_fed {first : Except SandboxFault α} {next : α → Except SandboxFault β}
    (firstFed : first ≠ .error .starved) (nextFed : ∀ value, next value ≠ .error .starved) :
    first.bind next ≠ .error .starved := by
  intro starved
  rcases bind_eq_error.mp starved with early | ⟨value, -, late⟩
  · exact firstFed early
  · exact nextFed value late

theorem finished_fed (conditions : List Json) :
    backend.finished conditions ≠ .error .starved := by
  induction conditions with
  | nil => simp [finished]
  | cons condition rest inductionHypothesis =>
      apply bind_fed get_fed
      intro status
      split
      · exact inductionHypothesis
      · apply bind_fed get_fed
        intro type
        split
        · exact nofun
        · split
          · apply bind_fed get_fed
            intro reason
            split
            · exact fun starved => SandboxFault.noConfusion (Except.error.inj starved)
            · exact nofun
          · exact inductionHypothesis

theorem readStatus_fed (response : ApiResponse) :
    backend.readStatus response ≠ .error .starved := by
  refine bind_fed ?_ fun _ => bind_fed get_fed fun _ => bind_fed get_fed fun _ =>
    bind_fed iterate_fed finished_fed
  rw [ApiResponse.json]
  split <;> simp

end Unstarved

/-- A request takes no time that the clock is known to have shown. -/
theorem ensures_request {method : HttpMethod} {path : String} {options : RequestOptions}
    {passed : Rat} :
    Ensures timeMonitor (request method path options) passed fun outcome last =>
      outcome ≠ .error .starved ∧ last = passed := by
  apply ensures_perform_bind.mpr
  intro token tokenAdmitted
  cases token with
  | error fault => exact ⟨by simpa [timeMonitor] using tokenAdmitted, rfl⟩
  | ok token =>
      apply ensures_perform.mpr
      intro answer admitted
      cases answer with
      | error fault => exact ⟨by simpa [timeMonitor] using admitted, rfl⟩
      | ok response => exact ⟨by simp, rfl⟩

/-- A turn of the loop ends it, or sleeps before the deadline. -/
theorem ensures_poll {job : String} {deadline passed : Rat} :
    Ensures timeMonitor (backend.poll job deadline ()) passed fun outcome last =>
      match outcome with
      | .ok (.inl _) => passed < deadline ∧ passed + backend.pollSeconds ≤ last
      | .ok (.inr _) => True
      | .error fault => fault ≠ .starved := by
  apply ensures_bind.mpr
  apply ensures_request.mono
  intro answered after seen
  obtain ⟨fed, rfl⟩ := seen
  cases answered with
  | error fault => simpa using fed
  | ok response =>
      apply ensures_bind.mpr
      have readFed := backend.readStatus_fed response
      cases read : backend.readStatus response with
      | error fault =>
          rw [read] at readFed
          simpa [lift] using readFed
      | ok status =>
          cases status with
          | some succeeded => trivial
          | none =>
              apply ensures_perform_bind.mpr
              intro shown shownAdmitted
              cases shown with
              | error fault => simpa [timeMonitor] using shownAdmitted
              | ok now =>
                  have later : after ≤ now := shownAdmitted
                  dsimp only
                  split
                  · exact fun starved => SandboxFault.noConfusion starved
                  · rename_i early
                    apply ensures_perform_bind.mpr
                    intro slept sleptAdmitted
                    cases slept with
                    | error fault => simpa [timeMonitor] using sleptAdmitted
                    | ok _ =>
                        have wakes : after + backend.pollSeconds ≤ now + backend.pollSeconds :=
                          by linarith
                        exact ⟨lt_of_le_of_lt later (lt_of_not_ge early), wakes⟩

/-- The loop of `_wait` ends within the allowance: every turn that goes on has slept. -/
theorem unstarved_wait (positive : 0 < backend.pollSeconds) {turns : Nat}
    (enough : ⌈backend.allowance / backend.pollSeconds⌉₊ < turns) (job : String) :
    Unstarved (backend.wait turns job) := by
  intro passed
  apply ensures_perform_bind.mpr
  intro started admitted
  cases started with
  | error fault => simpa [timeMonitor] using admitted
  | ok now =>
      refine ensures_loop
        (fun _ (time : Rat) left => now + backend.allowance ≤ time + left * backend.pollSeconds)
        ?_ enough ?_
      · intro _ time left bounded
        apply ensures_poll.mono
        intro outcome last turned
        match outcome, turned with
        | .ok (.inl _), ⟨early, slept⟩ =>
            cases left with
            | zero =>
                rw [Nat.cast_zero, zero_mul, add_zero] at bounded
                exact absurd early (not_lt_of_ge bounded)
            | succ fewer =>
                refine ⟨fewer, Nat.lt_succ_self fewer, ?_⟩
                rw [Nat.cast_succ] at bounded
                linarith
        | .ok (.inr _), _ => exact nofun
        | .error fault, fed => simpa using fed
      · change now + backend.allowance ≤ now + _ * backend.pollSeconds
        have rounded := Nat.le_ceil (backend.allowance / backend.pollSeconds)
        rw [div_le_iff₀ positive] at rounded
        linarith

theorem firstPod_fed (response : ApiResponse) :
    backend.firstPod response ≠ .error .starved := by
  refine bind_fed ?_ fun _ => bind_fed get_fed fun items => ?_
  · rw [ApiResponse.json]
    split <;> simp
  · split
    case h_9 =>
      split
      · split
        · exact nofun
        · exact fun starved => SandboxFault.noConfusion (Except.error.inj starved)
      · exact fun starved => SandboxFault.noConfusion (Except.error.inj starved)
    case h_10 => exact fun starved => SandboxFault.noConfusion (Except.error.inj starved)
    all_goals exact nofun

theorem unstarved_output (name : String) : Unstarved (backend.output name) := by
  apply unstarved_request.bind
  intro response
  apply (unstarved_finish (backend.firstPod_fed response)).bind
  intro pod
  cases pod with
  | none => exact unstarved_finish nofun
  | some pod => exact unstarved_request.bind fun _ => unstarved_finish nofun

theorem unstarved_delete (job : String) : Unstarved (delete job) := by
  apply Unstarved.rescue
  · exact unstarved_request.bind fun _ => unstarved_finish nofun
  · intro fault fed
    cases fault with
    | starved => exact absurd rfl fed
    | httpError message => exact unstarved_finish nofun
    | _ => exact unstarved_finish (by simp)

section Run

variable (positive : 0 < backend.pollSeconds) {turns : Nat}
  (enough : ⌈backend.allowance / backend.pollSeconds⌉₊ < turns)

include positive enough

theorem unstarved_run (code : String) (cpuSeconds memoryMib : Int) :
    Unstarved (backend.run turns code cpuSeconds memoryMib) := by
  apply (unstarved_perform .uuid).bind
  intro id
  apply Unstarved.bind
  · exact unstarved_request.rescue fun _ => unstarved_translate _
  · intro started
    apply Unstarved.bind
    · apply Unstarved.ensuring _ (unstarved_delete _)
      apply Unstarved.rescue _ fun _ => unstarved_translate _
      apply (unstarved_wait positive enough _).bind
      exact fun _ => (unstarved_output _).bind fun _ => unstarved_finish nofun
    · intro pair
      apply unstarved_finish
      obtain ⟨succeeded, output⟩ := pair
      dsimp only
      rw [judge]
      split
      · simp
      · split <;> simp

/-- No loop of the service does. -/
theorem unstarved_service {limits : SandboxLimits} {parser : PythonParser}
    {tenantId code : String} :
    Unstarved ((backend.service turns limits parser).run tenantId code) := by
  obtain ⟨fault, fed, refused⟩ | ⟨_, configured, -, ran⟩ :=
    (backend.service turns limits parser).run_cases tenantId code
  · rw [refused]
    exact unstarved_finish (by simpa using fed)
  · obtain rfl := Option.some.inj configured
    rw [ran]
    apply (unstarved_run positive enough _ _ _).bind
    intro output
    apply unstarved_finish
    rw [SandboxService.bounded]
    split <;> simp

end Run

/-! ## What is returned -/

/-- What a run has to have seen before it returns an output: the Job of its name reported
complete, and the log of the first pod of that name, or a list without pods. -/
structure Reported (backend : KubernetesSandboxBackend) (trace : List SandboxEvent)
    (name output : String) : Prop where
  complete : ∃ authorization response,
    ⟨.api .get (backend.job name) authorization .bare, .ok response⟩ ∈ trace ∧
      backend.readStatus response = .ok (some true)
  printed : ∃ authorization listing,
    ⟨.api .get backend.pods authorization (.params "labelSelector" ("job-name=" ++ name)),
      .ok listing⟩ ∈ trace ∧
    (backend.firstPod listing = .ok none ∧ output = "" ∨
      ∃ pod authorization log, backend.firstPod listing = .ok (some pod) ∧
        ⟨.api .get (backend.pods ++ "/" ++ pod ++ "/log") authorization .bare, .ok log⟩ ∈ trace ∧
        output = log.text)

section Returned

variable {trace : List SandboxEvent}

theorem yields_request {method : HttpMethod} {path : String} {options : RequestOptions}
    {response : ApiResponse} (ends : Yields (request method path options) trace (.ok response)) :
    ∃ authorization, ⟨.api method path authorization options, .ok response⟩ ∈ trace := by
  obtain ⟨token, before, after, rfl, -, asked⟩ := yields_bind_ok.mp ends
  rw [yields_perform.mp asked]
  exact ⟨_, List.mem_append_right before List.mem_cons_self⟩

theorem yields_wait {turns : Nat} {job : String} {succeeded : Bool}
    (ends : Yields (backend.wait turns job) trace (.ok succeeded)) :
    ∃ authorization response,
      ⟨.api .get job authorization .bare, .ok response⟩ ∈ trace ∧
        backend.readStatus response = .ok (some succeeded) := by
  obtain ⟨now, before, after, rfl, -, looped⟩ := yields_bind_ok.mp ends
  obtain ⟨_, earlier, turn, rfl, turned⟩ := exists_last_turn looped
  obtain ⟨response, asked, rest, rfl, requested, turned⟩ := yields_bind_ok.mp turned
  obtain ⟨authorization, member⟩ := yields_request requested
  obtain ⟨status, -, last, rfl, ⟨rfl, read⟩, turned⟩ := yields_bind_ok.mp turned
  refine ⟨authorization, response, by simp [member], ?_⟩
  rw [read]
  cases status with
  | some reported =>
      obtain ⟨-, same⟩ := turned
      rw [Sum.inr.inj (Except.ok.inj same)]
  | none =>
      obtain ⟨shown, -, late, -, -, turned⟩ := yields_bind_ok.mp turned
      split at turned
      · exact absurd turned.2 nofun
      · obtain ⟨_, _, _, -, -, -, impossible⟩ := yields_bind_ok.mp turned
        cases impossible

theorem yields_output {name output : String}
    (ends : Yields (backend.output name) trace (.ok output)) :
    ∃ authorization listing,
      ⟨.api .get backend.pods authorization (.params "labelSelector" ("job-name=" ++ name)),
        .ok listing⟩ ∈ trace ∧
      (backend.firstPod listing = .ok none ∧ output = "" ∨
        ∃ pod authorization log, backend.firstPod listing = .ok (some pod) ∧
          ⟨.api .get (backend.pods ++ "/" ++ pod ++ "/log") authorization .bare, .ok log⟩
            ∈ trace ∧
          output = log.text) := by
  obtain ⟨listing, asked, rest, rfl, requested, ends⟩ := yields_bind_ok.mp ends
  obtain ⟨authorization, member⟩ := yields_request requested
  obtain ⟨first, -, last, rfl, ⟨rfl, found⟩, ends⟩ := yields_bind_ok.mp ends
  refine ⟨authorization, listing, List.mem_append_left _ member, ?_⟩
  cases first with
  | none => exact Or.inl ⟨found, (Except.ok.inj ends.2).symm⟩
  | some pod =>
      obtain ⟨log, logged, _, rfl, requested, -, same⟩ := yields_bind_ok.mp ends
      obtain ⟨authorization, member⟩ := yields_request requested
      refine Or.inr ⟨pod, authorization, log, found, ?_, (Except.ok.inj same).symm⟩
      exact List.mem_append_right _ (List.mem_append_right _ (List.mem_append_left _ member))

/-- What one run has seen when it returns. -/
theorem yields_run {turns : Nat} {code output : String} {cpuSeconds memoryMib : Int}
    (ends : Yields (backend.run turns code cpuSeconds memoryMib) trace (.ok output)) :
    ∃ id, Reported backend trace (calculationName id) output := by
  obtain ⟨id, drawn, created, rfl, -, ends⟩ := yields_bind_ok.mp ends
  obtain ⟨_, started, rest, rfl, -, ends⟩ := yields_bind_ok.mp ends
  obtain ⟨pair, ensured, judged, rfl, ended, -, same⟩ := yields_bind_ok.mp ends
  obtain ⟨followed, cleaned, rfl, ended, -⟩ := yields_ensuring_ok.mp ended
  obtain ⟨succeeded, waited, printed, rfl, waits, ended⟩ :=
    yields_bind_ok.mp (yields_rescue_raise.mp ended)
  obtain ⟨text, logged, last, rfl, prints, -, ended⟩ := yields_bind_ok.mp ended
  obtain rfl := Except.ok.inj ended
  rw [judge] at same
  have succeeds : succeeded = true ∧ text = output := by
    cases succeeded with
    | true => exact ⟨rfl, by simpa using same⟩
    | false => split at same <;> simp at same
  obtain ⟨rfl, rfl⟩ := succeeds
  obtain ⟨authorization, response, polled, complete⟩ := yields_wait waits
  obtain ⟨listAuthorization, listing, listed, found⟩ := yields_output prints
  have within : ∀ event ∈ waited ++ (logged ++ last),
      event ∈ drawn ++ (started ++ (waited ++ (logged ++ last) ++ cleaned ++ judged)) := by
    intro event member
    simp only [List.mem_append] at member ⊢
    exact Or.inr (Or.inr (Or.inl (Or.inl member)))
  refine ⟨id, ⟨authorization, response, ?_, complete⟩, listAuthorization, listing, ?_, ?_⟩
  · exact within _ (List.mem_append_left _ polled)
  · exact within _ (List.mem_append_right _ (List.mem_append_left _ listed))
  · rcases found with none | ⟨pod, logAuthorization, log, found, read, same⟩
    · exact Or.inl none
    · refine Or.inr ⟨pod, logAuthorization, log, found, ?_, same⟩
      exact within _ (List.mem_append_right _ (List.mem_append_left _ read))

end Returned

/-- Under a clock that goes forward and sleeps that last, no calculation is followed for more
turns than its allowance has polls, whatever the API server answers. -/
theorem calculations_end {World : Type}
    (handler : Handler SandboxCall SandboxCall.Answer SandboxFault World) (world : World)
    (backend : KubernetesSandboxBackend) (turns : Nat) (limits : SandboxLimits)
    (parser : PythonParser) (tenantId code : String) (passed : Rat)
    (positive : 0 < backend.pollSeconds)
    (enough : ⌈backend.allowance / backend.pollSeconds⌉₊ < turns)
    (timed : timeMonitor.Admits passed (interpret handler
      ((backend.service turns limits parser).run tenantId code) world).trace) :
    (interpret handler ((backend.service turns limits parser).run tenantId code) world).outcome ≠
      .error .starved :=
  (unstarved_service positive enough passed).sound timed

/-! ### One calculation -/

namespace Multiplication

def kubernetes : KubernetesSandboxBackend where
  clusterNamespace := "research"
  strOf _ := ""

def parser : PythonParser where
  parse _ := .ok (.node .other [])

/-- A cluster that completes the Job at once. -/
def cluster : Handler SandboxCall SandboxCall.Answer SandboxFault Rat
  | now, .uuid => (.ok 0, now)
  | now, .execute .. => (.error (.osError "no container runtime"), now)
  | now, .token => (.ok "token", now)
  | now, .api .get _ _ (.params ..) =>
      (.ok {
        text := ""
        document := some (.object [("items", .array [
          .object [("metadata", .object [("name", .text "pod")])]])]) }, now)
  | now, .api .. =>
      (.ok {
        text := "42"
        document := some (.object [("status", .object [("conditions", .array [
          .object [("type", .text "Complete"), ("status", .text "True")]])])]) }, now)
  | now, .clock => (.ok now, now)
  | now, .sleep seconds => (.ok (), now + seconds)

theorem timed {α : Type} (program : Sandboxing α) :
    timeMonitor.Admits 0 (interpret cluster program 0).trace := by
  refine Monitor.admits_interpret (fun passed now => passed = now) ?_ ?_ program rfl
  · rintro passed now call rfl
    match call with
    | .uuid | .token | .sleep _ | .api .get _ _ (.params ..) | .api .get _ _ .bare
    | .api .get _ _ (.json _) | .api .post .. | .api .delete .. => trivial
    | .execute .. => exact nofun
    | .clock => exact le_refl passed
  · rintro passed now call rfl
    match call with
    | .uuid | .token | .sleep _ | .api .get _ _ (.params ..) | .api .get _ _ .bare
    | .api .get _ _ (.json _) | .api .post .. | .api .delete .. | .execute .. | .clock => rfl

end Multiplication

theorem calculations_end_for_multiplication :
    (interpret Multiplication.cluster ((Multiplication.kubernetes.service 211 .standard
      Multiplication.parser).run "acme" "print(6 * 7)") 0).outcome ≠ .error .starved := by
  refine calculations_end Multiplication.cluster 0 Multiplication.kubernetes 211 .standard
    Multiplication.parser "acme" "print(6 * 7)" 0 ?_ ?_ (Multiplication.timed _)
  · exact one_half_pos
  · have polls :
        Multiplication.kubernetes.allowance / Multiplication.kubernetes.pollSeconds = 210 := by
      norm_num [allowance, Multiplication.kubernetes]
    rw [polls]
    simp

end KubernetesSandboxBackend

end ResearchPlatform
