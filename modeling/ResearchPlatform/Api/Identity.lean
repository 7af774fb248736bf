import ResearchPlatform.Agents.Provenance
import ResearchPlatform.Api.Routes
import ResearchPlatform.Foundation.Url
import ResearchPlatform.Mcp.FilesystemBoundary

/-!
# Who is calling

`TokenVerifier` and `request_identity`.  The JWT library and the keys of the realm are
parameters; the time at which a token is decoded is an argument.
-/

namespace ResearchPlatform

open Foundation

/-- `ACCEPTED_ALGORITHMS`. -/
def acceptedAlgorithms : List String := ["RS256", "RS384", "RS512", "ES256", "ES384"]

/-- `CLOCK_LEEWAY_SECONDS`. -/
def clockLeewaySeconds : Nat := 30

/-- `TokenRejected`. -/
structure TokenRejected where
  message : String
  deriving DecidableEq

/-- The claims of a token. -/
abbrev Claims : Type := List (String × Json)

/-- `text.lower()`, as far as it can be told from a text in small letters. -/
def lowerCase (text : String) : String := String.ofList (text.toList.flatMap lowerChar)

/-! ## Claims -/

/-- One step of `_read_path`. -/
def readStep (current : Json) (segment : String) : Json :=
  match current with
  | .object members => ((members.find? (·.1 = segment)).map Prod.snd).getD .null
  | _ => .null

/-- `_read_path`. -/
def readPath (claims : Claims) (path : String) : Json :=
  ((path.toList.splitOn '.').map String.ofList).foldl readStep (.object claims)

/-- `Role(text)`. -/
def Role.ofValue (text : String) : Option Role :=
  [Role.requester, .reviewer, .administrator].find? (·.value = text)

/-- `AccessClass(text)`. -/
def AccessClass.ofValue (text : String) : Option AccessClass :=
  [AccessClass.publicClass, .internal, .restricted].find? (·.value = text)

/-- `ClaimMapping`. -/
structure ClaimMapping where
  tenantClaim : String := "tenant_id"
  clearanceClaim : String := "clearance"
  rolesClaim : String := "realm_access.roles"

namespace ClaimMapping

variable (mapping : ClaimMapping) (python : PythonText) (claims : Claims)

/-- The role that an item of the claim names. -/
def roleOf (name : Json) : Option Role := Role.ofValue (lowerCase (strip (python.str name)))

/-- `read_roles`: a name that is not a role is dropped. -/
def readRoles : Finset Role :=
  match readPath claims mapping.rolesClaim with
  | .array names => (names.filterMap (roleOf python)).toFinset
  | _ => ∅

/-- `read_tenant`. -/
def readTenant : Except TokenRejected { tenant : String // tenant ≠ "" } :=
  match readPath claims mapping.tenantClaim with
  | .text tenant =>
      if given : strip tenant ≠ "" then .ok ⟨strip tenant, given⟩
      else .error ⟨"the token carries no " ++ mapping.tenantClaim ++ " claim"⟩
  | _ => .error ⟨"the token carries no " ++ mapping.tenantClaim ++ " claim"⟩

/-- `read_clearance`, with the `repr` of what is not one. -/
def readClearance (repr : Json → String) : Except TokenRejected AccessClass :=
  match readPath claims mapping.clearanceClaim with
  | .null => .ok .publicClass
  | raw =>
      match AccessClass.ofValue (lowerCase (strip (python.str raw))) with
      | some clearance => .ok clearance
      | none => .error ⟨repr raw ++ " is not a recognized clearance"⟩

end ClaimMapping

/-! ## Tokens -/

/-- How `jwt.decode` refuses a token. -/
inductive JwtError where
  | expiredSignature
  | invalidAudience
  | invalidIssuer
  | invalidToken (text : String)

/-- What `jwt.decode` is told. -/
structure DecodeRequest (Key : Type) where
  token : String
  key : Key
  algorithms : List String
  issuer : String
  audience : String
  leeway : Nat
  required : List String

/-- The keys of the realm, `jwt.decode` at a time, and Python's texts of JSON values. -/
structure TokenLibrary (Key : Type) where
  keyFor : String → Option Key
  decode : Nat → DecodeRequest Key → Except JwtError Claims
  python : PythonText
  repr : Json → String

/-- `TokenVerifier`. -/
structure TokenVerifier where
  issuer : String
  audience : String
  mapping : ClaimMapping := {}
  issuerGiven : issuer ≠ ""
  audienceGiven : audience ≠ ""

namespace TokenVerifier

variable {Key : Type} (verifier : TokenVerifier) (library : TokenLibrary Key) (now : Nat)

/-- What `verify` has decoded. -/
def decoding (candidate : String) (key : Key) : DecodeRequest Key where
  token := candidate
  key := key
  algorithms := acceptedAlgorithms
  issuer := verifier.issuer
  audience := verifier.audience
  leeway := clockLeewaySeconds
  required := ["exp", "iat", "iss", "aud", "sub"]

/-- The reason that `verify` gives for a token that was not decoded. -/
def rejection : JwtError → TokenRejected
  | .expiredSignature => ⟨"the access token has expired"⟩
  | .invalidAudience => ⟨"the access token was issued for another audience"⟩
  | .invalidIssuer => ⟨"the access token was issued by another authority"⟩
  | .invalidToken text => ⟨"the access token is not valid: " ++ text⟩

/-- `str(claims.get("sub", "")).strip()`. -/
def subject (claims : Claims) : String :=
  match claims.find? (·.1 = "sub") with
  | some (_, value) => strip (library.python.str value)
  | none => ""

/-- The principal that decoded claims name. -/
def principalOf (claims : Claims) : Except TokenRejected Principal := do
  if given : subject library claims ≠ "" then
    let tenant ← verifier.mapping.readTenant claims
    let clearance ← verifier.mapping.readClearance library.python claims library.repr
    return {
      tenantId := tenant.val
      subjectId := subject library claims
      roles := verifier.mapping.readRoles library.python claims
      clearance := clearance
      tenantGiven := tenant.property
      subjectGiven := given }
  else
    throw ⟨"the token carries no subject"⟩

/-- `verify`. -/
def verify (token : String) : Except TokenRejected Principal :=
  let candidate := strip token
  if candidate = "" then
    .error ⟨"no access token was presented"⟩
  else
    match library.keyFor candidate with
    | none => .error ⟨"the token signing key could not be resolved"⟩
    | some key =>
        match library.decode now (verifier.decoding candidate key) with
        | .error refusal => .error (rejection refusal)
        | .ok claims => verifier.principalOf library claims

end TokenVerifier

/-- `bearer_token`. -/
def bearerToken (headerValue : Option String) : Except TokenRejected String :=
  match headerValue.filter (· ≠ "") with
  | none => .error ⟨"no Authorization header was presented"⟩
  | some value =>
      let (scheme, token) := Url.cut ' ' value.toList
      if lowerCase (String.ofList scheme) ≠ "bearer" ∨ trim token = [] then
        .error ⟨"the Authorization header must present a bearer token"⟩
      else
        .ok (String.ofList (trim token))

/-! ## Requests -/

deriving instance DecidableEq for RequestIdentity

/-- The headers that `request_identity` is given. -/
structure IdentityHeaders where
  authorization : Option String := none
  tenantId : Option String := none
  requesterId : Option String := none
  roles : Option String := none
  clearance : Option String := none

/-- An `HTTPException` with its headers, or FastAPI's own refusal of a header. -/
structure IdentityRefusal where
  statusCode : Nat
  detail : String
  headers : List (String × String) := []
  deriving DecidableEq

/-- The items of `_parse_roles`. -/
def roleItems (raw : String) : List String :=
  ((raw.toList.splitOn ',').map fun item => String.ofList (trim item)).filter (· ≠ "")

/-- `_parse_roles`. -/
def parseRoles (raw : Option String) : Except IdentityRefusal (Finset Role) :=
  match raw.filter (strip · ≠ "") with
  | none => .ok {.requester}
  | some raw =>
      match (roleItems raw).find? (Role.ofValue · = none) with
      | some item =>
          .error { statusCode := 400
                   detail := "unknown role: " ++ reprText item ++ " is not a valid Role" }
      | none => .ok ((roleItems raw).filterMap Role.ofValue).toFinset

/-- `_parse_clearance`. -/
def parseClearance (raw : Option String) : Except IdentityRefusal AccessClass :=
  match raw.filter (strip · ≠ "") with
  | none => .ok .publicClass
  | some raw =>
      match AccessClass.ofValue (strip raw) with
      | some clearance => .ok clearance
      | none => .error { statusCode := 400, detail := "unknown clearance: " ++ raw }

/-- The limits of the headers, which FastAPI checks before anything is read. -/
def IdentityHeaders.Admitted (headers : IdentityHeaders) : Prop :=
  (∀ text ∈ headers.tenantId, text.length ≤ 100) ∧
    (∀ text ∈ headers.requesterId, text.length ≤ 200) ∧
    (∀ text ∈ headers.roles, text.length ≤ 200) ∧
    ∀ text ∈ headers.clearance, text.length ≤ 50

instance (headers : IdentityHeaders) : Decidable headers.Admitted :=
  inferInstanceAs (Decidable (_ ∧ _))

/-- `RequestIdentity.of`. -/
def RequestIdentity.of (principal : Principal) : RequestIdentity where
  tenantId := principal.tenantId
  requesterId := principal.subjectId
  roles := principal.roles
  clearance := principal.clearance

/-- The identity of the development headers. -/
def headerIdentity (headers : IdentityHeaders) : Except IdentityRefusal RequestIdentity := do
  match headers.tenantId.filter (· ≠ ""), headers.requesterId.filter (· ≠ "") with
  | some tenantId, some requesterId =>
      let roles ← parseRoles headers.roles
      let clearance ← parseClearance headers.clearance
      return { tenantId, requesterId, roles, clearance }
  | _, _ =>
      throw {
        statusCode := 401
        detail := "X-Tenant-ID and X-Requester-ID are required while no token issuer " ++
          "is configured" }

/-- The identity of a verified token. -/
def tokenIdentity {Key : Type} (verifier : TokenVerifier) (library : TokenLibrary Key)
    (now : Nat) (headers : IdentityHeaders) : Except IdentityRefusal RequestIdentity :=
  match (do verifier.verify library now (← bearerToken headers.authorization)) with
  | .ok principal => .ok (.of principal)
  | .error rejected =>
      .error {
        statusCode := 401
        detail := rejected.message
        headers := [("WWW-Authenticate", "Bearer")] }

/-- `request_identity`: with a verifier, only a verified token is accepted. -/
def requestIdentity {Key : Type} (verifier : Option TokenVerifier) (library : TokenLibrary Key)
    (now : Nat) (headers : IdentityHeaders) : Except IdentityRefusal RequestIdentity :=
  if headers.Admitted then
    match verifier with
    | some verifier => tokenIdentity verifier library now headers
    | none => headerIdentity headers
  else
    .error { statusCode := 422, detail := "a header is too long" }

end ResearchPlatform
