import Mathlib.Tactic.Linarith
import ResearchPlatform.Mcp.ServiceTokens

/-!
# The tokens that are sent

Where the endpoint's answers take no longer than the margin, a token that is sent again has
not expired, however often it is asked for and whatever fails in between.
-/

namespace ResearchPlatform

open Foundation Program

/-- A token that the endpoint granted. -/
structure TokenGrant where
  token : String
  grantedAt : ℚ
  lifetime : ℚ

/-- The latest time that is known, what was granted up to then, the last first, and whether
that was granted since a token was last sent. -/
structure TokenWatch where
  now : ℚ
  grants : List TokenGrant := []
  isNew : Bool := false

abbrev TokenEvent : Type := Event TokenCall TokenCall.Answer TokenFault

namespace ClientCredentialsTokens

variable (tokens : ClientCredentialsTokens) (values : TokenValues)

/-- What an event says of the time and of the tokens. -/
def observe (watch : TokenWatch) : TokenEvent → TokenWatch
  | ⟨.clock, .ok now⟩ => { watch with now := now }
  | ⟨.post .., .ok response⟩ =>
      match values.read response.granted with
      | .ok (token, lifetime) =>
          ⟨response.grantedAt, ⟨token, response.grantedAt, lifetime⟩ :: watch.grants, true⟩
      | .error _ => { watch with now := response.grantedAt }
  | ⟨.send _, _⟩ => { watch with isNew := false }
  | _ => watch

/-- The clock is read, never goes back, and is read within the margin after a grant. -/
def Timely (watch : TokenWatch) : TokenEvent → Prop
  | ⟨.clock, .ok now⟩ =>
      watch.now ≤ now ∧ (watch.isNew = true → now ≤ watch.now + expiryMarginSeconds)
  | ⟨.clock, .error _⟩ => False
  | ⟨.post .., .ok response⟩ => watch.now ≤ response.grantedAt
  | _ => True

/-- The monitor that follows the tokens. -/
def tokenMonitor : Monitor TokenCall TokenCall.Answer TokenFault TokenWatch where
  observe := observe values
  admits := Timely

/-- What may be asked: a token of the endpoint that was configured, and a server with a
token that was granted for this call or has not expired. -/
def Sends (watch : TokenWatch) : TokenCall → Prop
  | .clock => True
  | .post url form clientId clientSecret =>
      url = tokens.tokenUrl ∧ form = tokens.form ∧ clientId = tokens.clientId ∧
        clientSecret = tokens.clientSecret
  | .send token =>
      ∃ grant ∈ watch.grants, grant.token = token ∧
        (watch.now < grant.grantedAt + grant.lifetime ∨
          watch.isNew = true ∧ watch.grants.head? = some grant ∧
            watch.now ≤ grant.grantedAt + expiryMarginSeconds)

/-- What is kept is a token that was granted, and is not reused after it expires. -/
def Backed (cache : CachedToken) (watch : TokenWatch) : Prop :=
  ∀ token, cache.token = some token → ∃ grant ∈ watch.grants, grant.token = token ∧
    (cache.expiresAt ≤ watch.now ∨ cache.expiresAt ≤ grant.grantedAt + grant.lifetime)

/-- Between two calls. -/
def Settled (cache : CachedToken) (watch : TokenWatch) : Prop :=
  watch.isNew = false ∧ Backed cache watch

variable {tokens values} {cache : CachedToken} {watch : TokenWatch}

theorem Backed.mono {later : TokenWatch} (backed : Backed cache watch)
    (passes : watch.now ≤ later.now) (known : ∀ grant ∈ watch.grants, grant ∈ later.grants) :
    Backed cache later := by
  intro token kept
  obtain ⟨grant, member, isToken, stale | unexpired⟩ := backed token kept
  · exact ⟨grant, known grant member, isToken, Or.inl (stale.trans passes)⟩
  · exact ⟨grant, known grant member, isToken, Or.inr unexpired⟩

/-- A token is asked for, and what was kept stays as it was if none is granted. -/
theorem guarded_request (settled : Settled cache watch) :
    Guarded (tokenMonitor values) tokens.Sends (tokens.request values) watch
      fun outcome last =>
        match outcome with
        | .ok (token, lifetime) =>
            last.isNew = true ∧ last.grants.head? = some ⟨token, last.now, lifetime⟩
        | .error _ => Settled cache last := by
  apply guarded_rescue.mpr
  have permitted : tokens.Sends watch
      (.post tokens.tokenUrl tokens.form tokens.clientId tokens.clientSecret) :=
    ⟨rfl, rfl, rfl, rfl⟩
  refine guarded_perform_bind permitted ?_ ?_
  · intro response later
    cases reads : values.read response.granted with
    | ok pair => simp [tokenMonitor, observe, reads, Program.lift]
    | error fault =>
        have still : Settled cache { watch with now := response.grantedAt } :=
          ⟨settled.1, settled.2.mono later fun grant known => known⟩
        simp only [tokenMonitor, observe, reads, Program.lift]
        cases fault <;> exact still
  · intro fault
    cases fault <;> exact settled

/-- A new token may be sent, and is kept for no longer than it lives. -/
theorem guarded_renew (settled : Settled cache watch) :
    Guarded (tokenMonitor values) tokens.Sends (tokens.renew values) watch
      fun outcome last =>
        match outcome with
        | .ok (token, kept) => tokens.Sends last (.send token) ∧ Backed kept last
        | .error _ => Settled cache last := by
  apply guarded_bind.mpr
  apply (guarded_request settled).mono
  intro outcome middle granted
  match outcome, granted with
  | .error fault, still => exact still
  | .ok (token, lifetime), ⟨isNew, isHead⟩ =>
      refine ⟨trivial, ?_⟩
      intro answer timely
      cases answer with
      | error fault => exact timely.elim
      | ok now =>
          obtain ⟨later, prompt⟩ := timely
          have inTime := prompt isNew
          have known : ⟨token, middle.now, lifetime⟩ ∈ middle.grants :=
            List.mem_of_head? isHead
          refine ⟨⟨_, known, rfl, Or.inr ⟨isNew, isHead, inTime⟩⟩, ?_⟩
          intro other isKept
          refine ⟨_, known, Option.some.inj isKept, ?_⟩
          rcases le_total lifetime expiryMarginSeconds with short | long
          · left
            change now + max 0 (lifetime - expiryMarginSeconds) ≤ now
            rw [max_eq_left (by linarith)]
            linarith
          · right
            change now + max 0 (lifetime - expiryMarginSeconds) ≤ middle.now + lifetime
            rw [max_eq_right (by linarith)]
            linarith

/-- What is kept is sent while it lasts, and is renewed afterwards. -/
theorem guarded_get (settled : Settled cache watch) :
    Guarded (tokenMonitor values) tokens.Sends (tokens.get values cache) watch
      fun outcome last =>
        match outcome with
        | .ok (token, kept) => tokens.Sends last (.send token) ∧ Backed kept last
        | .error _ => Settled cache last := by
  unfold get
  split
  · exact guarded_renew settled
  · rename_i token isKept
    refine ⟨trivial, ?_⟩
    intro answer timely
    cases answer with
    | error fault => exact timely.elim
    | ok now =>
        obtain ⟨isOld, backed⟩ := settled
        have passed : Backed cache { watch with now := now } :=
          backed.mono timely.1 fun grant known => known
        apply guarded_bind.mpr
        apply guarded_finish.mpr
        dsimp only
        split
        · exact guarded_renew ⟨isOld, passed⟩
        · rename_i unexpired
          refine ⟨?_, passed⟩
          obtain ⟨grant, known, isToken, stale | lives⟩ := passed token isKept
          · exact absurd stale unexpired
          · exact ⟨grant, known, isToken, Or.inl (lt_of_lt_of_le (not_le.mp unexpired) lives)⟩

/-- A call settles what is kept, however it ends. -/
theorem guarded_callRemote (settled : Settled cache watch) :
    Guarded (tokenMonitor values) tokens.Sends (tokens.callRemote values cache) watch
      (Returning fun pair last => Settled pair.2 last) := by
  apply guarded_bind.mpr
  apply guarded_attempt.mpr
  apply (guarded_get settled).mono
  intro outcome middle ready
  match outcome, ready with
  | .error fault, still => exact still
  | .ok (token, kept), ⟨may, backed⟩ =>
      apply guarded_bind.mpr
      apply guarded_attempt.mpr
      refine ⟨may, ?_⟩
      intro answer _
      exact ⟨rfl, backed.mono le_rfl fun grant known => known⟩

/-- The induction is on the calls that are to come. -/
theorem guarded_calls (count : Nat) (settled : Settled cache watch) :
    Guarded (tokenMonitor values) tokens.Sends (tokens.calls values count cache) watch
      fun _ _ => True := by
  induction count generalizing cache watch with
  | zero => trivial
  | succ count inductionHypothesis =>
      apply guarded_bind.mpr
      apply (guarded_callRemote settled).mono
      intro outcome middle settles
      match outcome, settles with
      | .error fault, _ => trivial
      | .ok (first, kept), still =>
          apply guarded_bind.mpr
          apply (inductionHypothesis still).mono
          intro rest last _
          cases rest <;> trivial

/-- Whatever the endpoint and the servers answer, with a clock that never goes back and
answers of the endpoint within the margin: every token is asked for at the endpoint that was
configured, and every call is sent with a token that was granted for it or, if it was kept
from an earlier call, is sent before it expires. -/
theorem tokens_current {World : Type}
    (handler : Handler TokenCall TokenCall.Answer TokenFault World) (world : World)
    (count : Nat) (start : ℚ) :
    let run := interpret handler (tokens.calls values count {}) world
    (tokenMonitor values).Admits ⟨start, [], false⟩ run.trace →
      ∀ before call answer after, run.trace = before ++ ⟨call, answer⟩ :: after →
        tokens.Sends ((tokenMonitor values).after ⟨start, [], false⟩ before) call := by
  intro run timely
  have settled : Settled {} ⟨start, [], false⟩ := ⟨rfl, nofun⟩
  exact ((guarded_calls count settled).sound timely).1

/-! ## A steady issuer -/

namespace SteadyIssuer

def provider : ClientCredentialsTokens where
  tokenUrl := "https://issuer/token"
  clientId := "gateway"
  clientSecret := "kept"

def plainValues : TokenValues where
  python := { nfc := id, strOf := fun _ => "" }
  float
    | .int value => .ok value
    | _ => .error (.other "TypeError")

/-- The world is the time: tokens of 90 seconds are granted at once, and a call takes 40. -/
def answers : Handler TokenCall TokenCall.Answer TokenFault ℚ := fun now call =>
  match call with
  | .clock => (.ok now, now)
  | .post .. =>
      (.ok ⟨.object [("access_token", .text "issued"), ("expires_in", .int 90)], now⟩, now)
  | .send _ => (.ok (), now + 40)

/-- The watch knows of no later time than the clock's. -/
def InTime (watch : TokenWatch) (now : ℚ) : Prop :=
  watch.now ≤ now ∧ (watch.isNew = true → now = watch.now)

theorem timely_answers (count : Nat) :
    (tokenMonitor plainValues).Admits ⟨0, [], false⟩
      (interpret answers (provider.calls plainValues count {}) 0).trace := by
  refine Monitor.admits_interpret InTime ?_ ?_ _ ⟨le_rfl, by simp⟩
  · intro watch now call inTime
    cases call with
    | clock =>
        refine ⟨inTime.1, fun isNew => ?_⟩
        rw [inTime.2 isNew, expiryMarginSeconds]
        linarith
    | post url form clientId clientSecret => exact inTime.1
    | send token => trivial
  · intro watch now call inTime
    cases call with
    | clock => exact ⟨le_rfl, fun _ => rfl⟩
    | post url form clientId clientSecret => exact ⟨le_rfl, fun _ => rfl⟩
    | send token =>
        refine ⟨?_, fun isNew => by cases isNew⟩
        change watch.now ≤ now + 40
        linarith [inTime.1]

end SteadyIssuer

open SteadyIssuer in
theorem tokens_current_of_steadyIssuer :
    ∀ before call answer after,
      (interpret answers (provider.calls plainValues 3 {}) 0).trace =
          before ++ ⟨call, answer⟩ :: after →
        provider.Sends ((tokenMonitor plainValues).after ⟨0, [], false⟩ before) call :=
  tokens_current answers 0 3 0 (timely_answers 3)

end ClientCredentialsTokens

end ResearchPlatform
