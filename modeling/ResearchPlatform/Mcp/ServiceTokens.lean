import Mathlib.Algebra.Order.Field.Rat
import ResearchPlatform.Agents.Provenance
import ResearchPlatform.Foundation.Loops

/-!
# Service tokens

`ClientCredentialsTokens`: the token that a remote MCP server is called with, kept until
shortly before it expires.  Times and lifetimes are exact.
-/

namespace ResearchPlatform

open Foundation Program

/-- `EXPIRY_MARGIN_SECONDS`. -/
def expiryMarginSeconds : ℚ := 30

/-- What the endpoint answers: its JSON, and when it granted the token, which the platform
is not told. -/
structure TokenResponse where
  granted : Json
  grantedAt : ℚ

/-- What is asked of the clock, of the token endpoint, and of the server that is called. -/
inductive TokenCall where
  | clock
  | post (url : String) (form : List (String × String)) (clientId clientSecret : String)
  | send (token : String)

abbrev TokenCall.Answer : TokenCall → Type
  | clock => ℚ
  | post .. => TokenResponse
  | send _ => Unit

/-- What is raised: the exceptions that `_request` catches are those of the HTTP client,
`KeyError` and `ValueError`. -/
inductive TokenFault where
  | caught (className : String)
  | tokenUnavailable (message : String)
  | other (className : String)
  deriving DecidableEq

abbrev TokenProgram : Type → Type := Program TokenCall TokenCall.Answer TokenFault

/-- `str` of a JSON value, and `float` of one, which may raise. -/
structure TokenValues where
  python : PythonText
  float : Json → Except TokenFault ℚ

/-- `response.json()["access_token"]` and `["expires_in"]`. -/
def TokenValues.read (values : TokenValues) : Json → Except TokenFault (String × ℚ)
  | .object members => do
      match members.find? (·.1 = "access_token") with
      | none => throw (.caught "KeyError")
      | some (_, token) =>
          let stated := (members.find? (·.1 = "expires_in")).map Prod.snd
          let lifetime ← values.float (stated.getD (.int 60))
          return (values.python.str token, lifetime)
  | _ => .error (.other "TypeError")

/-- The token that is kept, and when it stops being reused. -/
structure CachedToken where
  token : Option String := none
  expiresAt : ℚ := 0

/-- `ClientCredentialsTokens`, without what it keeps. -/
structure ClientCredentialsTokens where
  tokenUrl : String
  clientId : String
  clientSecret : String
  audience : Option String := none

namespace ClientCredentialsTokens

variable (tokens : ClientCredentialsTokens) (values : TokenValues)

def form : List (String × String) :=
  ("grant_type", "client_credentials") ::
    match tokens.audience.filter (· ≠ "") with
    | some audience => [("audience", audience)]
    | none => []

/-- `_request`. -/
def request : TokenProgram (String × ℚ) :=
  Program.rescue
    (do
      let response ← perform
        (TokenCall.post tokens.tokenUrl tokens.form tokens.clientId tokens.clientSecret)
      lift (values.read response.granted))
    fun fault =>
      match fault with
      | .caught className =>
          raise (.tokenUnavailable (className ++ " from the token endpoint"))
      | fault => raise fault

/-- Ask for a token, and keep it. -/
def renew : TokenProgram (String × CachedToken) := do
  let (token, lifetime) ← tokens.request values
  let now ← perform TokenCall.clock
  return (token, ⟨some token, now + max 0 (lifetime - expiryMarginSeconds)⟩)

/-- `__call__`: the token, and what is kept from then on. -/
def get (cache : CachedToken) : TokenProgram (String × CachedToken) :=
  match cache.token with
  | none => tokens.renew values
  | some token => do
      let now ← perform TokenCall.clock
      if cache.expiresAt ≤ now then tokens.renew values else return (token, cache)

/-- A remote server is called with a token.  What is kept outlives the call, and a fault of
`__call__` leaves it as it was. -/
def callRemote (cache : CachedToken) : TokenProgram (Except TokenFault Unit × CachedToken) := do
  match ← (tokens.get values cache).attempt with
  | .error fault => return (.error fault, cache)
  | .ok (token, kept) => return (← (perform (TokenCall.send token)).attempt, kept)

/-- Calls of remote servers, one after the other. -/
def calls : Nat → CachedToken → TokenProgram (List (Except TokenFault Unit))
  | 0, _ => return []
  | count + 1, cache => do
      let (outcome, kept) ← tokens.callRemote values cache
      return outcome :: (← calls count kept)

end ClientCredentialsTokens

end ResearchPlatform
