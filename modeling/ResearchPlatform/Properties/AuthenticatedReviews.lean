import ResearchPlatform.Api.Identity
import ResearchPlatform.Properties.ReviewAuthority

/-!
# Who stands behind a review

Where an issuer of tokens is configured, the routes of `ReviewAuthority` are reached by the
identities of verified tokens alone.  What an execution does and is told is then traced to
tokens that the issuer signed for this platform.
-/

namespace ResearchPlatform

open Foundation Program

/-! ## What is relied on -/

/-- What `jwt.decode` says of the claims it returns.  `signed` tells which tokens carry which
claims under a key and an algorithm, and `asInt` is `int` of a claim. -/
structure TokenLibrary.Decodes {Key : Type} (library : TokenLibrary Key)
    (signed : Key → String → String → Claims → Prop) (asInt : Json → Option Int) : Prop where
  signature : ∀ {now request claims}, library.decode now request = .ok claims →
    ∃ algorithm ∈ request.algorithms, signed request.key algorithm request.token claims
  issuer : ∀ {now request claims}, library.decode now request = .ok claims →
    readStep (.object claims) "iss" = .text request.issuer
  audience : ∀ {now request claims}, library.decode now request = .ok claims →
    readStep (.object claims) "aud" = .text request.audience ∨
      ∃ audiences, readStep (.object claims) "aud" = .array audiences ∧
        .text request.audience ∈ audiences
  expiry : ∀ {now request claims}, library.decode now request = .ok claims →
    ∃ expires, asInt (readStep (.object claims) "exp") = some expires ∧
      (now : Int) - request.leeway < expires

/-! ## Identities of tokens -/

section Identities

variable {Key : Type} (verifier : TokenVerifier) (library : TokenLibrary Key)
  (signed : Key → String → String → Claims → Prop) (asInt : Json → Option Int)

/-- The claims give the identity all that it has. -/
structure Grants (claims : Claims) (identity : RequestIdentity) : Prop where
  tenant : ∃ tenant, readPath claims verifier.mapping.tenantClaim = .text tenant ∧
    identity.tenantId = strip tenant ∧ strip tenant ≠ ""
  subject : identity.requesterId = TokenVerifier.subject library claims ∧
    identity.requesterId ≠ ""
  roles : ∀ role ∈ identity.roles, ∃ names,
    readPath claims verifier.mapping.rolesClaim = .array names ∧
      ∃ name ∈ names, lowerCase (strip (library.python.str name)) = role.value
  clearance : identity.clearance = .publicClass ∨
    lowerCase (strip (library.python.str
      (readPath claims verifier.mapping.clearanceClaim))) = identity.clearance.value

/-- A token of the request stands behind its identity: it is signed with a key of the realm
by an accepted algorithm, was issued here for this platform, has not expired, and grants
what the identity has. -/
structure Backs (now : Nat) (headers : IdentityHeaders) (identity : RequestIdentity)
    (token : String) (claims : Claims) : Prop where
  presented : bearerToken headers.authorization = .ok token
  signature : ∃ key, library.keyFor (strip token) = some key ∧
    ∃ algorithm ∈ acceptedAlgorithms, signed key algorithm (strip token) claims
  issuer : readStep (.object claims) "iss" = .text verifier.issuer
  audience : readStep (.object claims) "aud" = .text verifier.audience ∨
    ∃ audiences, readStep (.object claims) "aud" = .array audiences ∧
      .text verifier.audience ∈ audiences
  expiry : ∃ expires, asInt (readStep (.object claims) "exp") = some expires ∧
    (now : Int) - clockLeewaySeconds < expires
  grants : Grants verifier library claims identity

variable {verifier library signed asInt} {claims : Claims} {principal : Principal}
  {now : Nat} {token : String} {headers : IdentityHeaders} {identity : RequestIdentity}

theorem Role.value_of_ofValue {text : String} {role : Role}
    (named : Role.ofValue text = some role) : text = role.value := by
  have found := List.find?_some named
  exact (of_decide_eq_true found).symm

theorem AccessClass.value_of_ofValue {text : String} {level : AccessClass}
    (named : AccessClass.ofValue text = some level) : text = level.value := by
  have found := List.find?_some named
  exact (of_decide_eq_true found).symm

/-- A role that is read is the name of an item of the claim. -/
theorem ClaimMapping.exists_of_mem_readRoles {mapping : ClaimMapping} {python : PythonText}
    {role : Role} (member : role ∈ mapping.readRoles python claims) :
    ∃ names, readPath claims mapping.rolesClaim = .array names ∧
      ∃ name ∈ names, lowerCase (strip (python.str name)) = role.value := by
  unfold readRoles at member
  split at member
  · rename_i names isList
    obtain ⟨name, isName, named⟩ := List.mem_filterMap.mp (List.mem_toFinset.mp member)
    exact ⟨names, isList, name, isName, Role.value_of_ofValue named⟩
  · cases member

theorem ClaimMapping.readTenant_eq_ok {mapping : ClaimMapping}
    {tenant : { tenant : String // tenant ≠ "" }}
    (reads : mapping.readTenant claims = .ok tenant) :
    ∃ text, readPath claims mapping.tenantClaim = .text text ∧ tenant.val = strip text := by
  unfold readTenant at reads
  split at reads
  · rename_i text isText
    split at reads
    · obtain rfl := Except.ok.inj reads
      exact ⟨text, isText, rfl⟩
    · cases reads
  · cases reads

theorem ClaimMapping.readClearance_eq_ok {mapping : ClaimMapping} {python : PythonText}
    {repr : Json → String} {clearance : AccessClass}
    (reads : mapping.readClearance python claims repr = .ok clearance) :
    clearance = .publicClass ∨
      lowerCase (strip (python.str (readPath claims mapping.clearanceClaim))) =
        clearance.value := by
  unfold readClearance at reads
  split at reads
  · exact Or.inl (Except.ok.inj reads).symm
  · split at reads
    · rename_i level named
      obtain rfl := Except.ok.inj reads
      exact Or.inr (AccessClass.value_of_ofValue named)
    · cases reads

/-- A principal has what the claims grant. -/
theorem TokenVerifier.grants_of_principalOf
    (named : verifier.principalOf library claims = .ok principal) :
    Grants verifier library claims (.of principal) := by
  unfold TokenVerifier.principalOf at named
  split at named
  · rename_i given
    obtain ⟨tenant, readsTenant, named⟩ := bind_eq_ok.mp named
    obtain ⟨clearance, readsClearance, named⟩ := bind_eq_ok.mp named
    obtain rfl := Except.ok.inj named
    obtain ⟨text, isText, same⟩ := ClaimMapping.readTenant_eq_ok readsTenant
    exact {
      tenant := ⟨text, isText, same, same ▸ tenant.property⟩
      subject := ⟨rfl, given⟩
      roles := fun role member => ClaimMapping.exists_of_mem_readRoles member
      clearance := ClaimMapping.readClearance_eq_ok readsClearance }
  · cases named

theorem TokenVerifier.verify_eq_ok (verified : verifier.verify library now token = .ok principal) :
    ∃ key claims, library.keyFor (strip token) = some key ∧
      library.decode now (verifier.decoding (strip token) key) = .ok claims ∧
      verifier.principalOf library claims = .ok principal := by
  unfold TokenVerifier.verify at verified
  dsimp only at verified
  split at verified
  · cases verified
  · split at verified
    · cases verified
    · rename_i key isKey
      split at verified
      · cases verified
      · rename_i claims decoded
        exact ⟨key, claims, isKey, decoded, verified⟩

/-- Where a verifier is configured, a token backs every identity. -/
theorem exists_backs_of_requestIdentity (decodes : library.Decodes signed asInt)
    (identified : requestIdentity (some verifier) library now headers = .ok identity) :
    ∃ token claims, Backs verifier library signed asInt now headers identity token claims := by
  change (if headers.Admitted then tokenIdentity verifier library now headers else _) = _
    at identified
  split at identified
  · unfold tokenIdentity at identified
    split at identified
    · rename_i principal verified
      obtain rfl := Except.ok.inj identified
      obtain ⟨token, presented, verified⟩ := bind_eq_ok.mp verified
      obtain ⟨key, claims, isKey, decoded, named⟩ := TokenVerifier.verify_eq_ok verified
      exact ⟨token, claims, presented, ⟨key, isKey, decodes.signature decoded⟩,
        decodes.issuer decoded, decodes.audience decoded, decodes.expiry decoded,
        TokenVerifier.grants_of_principalOf named⟩
    · cases identified
  · cases identified

end Identities

/-! ## Traffic -/

/-- The requests that reach the deployment: what is posted with which headers, and when. -/
structure Traffic where
  jobs : Nat → IdentityHeaders → ResearchJobCreate → Prop
  reviews : Nat → IdentityHeaders → UUID → ReviewerDecision → Prop

namespace Traffic

variable {Key : Type} (traffic : Traffic) (verifier : TokenVerifier)
  (library : TokenLibrary Key) (signed : Key → String → String → Claims → Prop)
  (asInt : Json → Option Int)

/-- The requests of the traffic, with the identities they are given. -/
def identified : RouteRequests where
  jobs identity command := ∃ now headers, traffic.jobs now headers command ∧
    requestIdentity (some verifier) library now headers = .ok identity
  reviews identity jobId decision := ∃ now headers, traffic.reviews now headers jobId decision ∧
    requestIdentity (some verifier) library now headers = .ok identity

/-- The job was asked for with a token of its tenant, its requester and its clearance. -/
def AskedFor (job : ResearchJob) : Prop :=
  ∃ now headers command identity token claims, traffic.jobs now headers command ∧
    Backs verifier library signed asInt now headers identity token claims ∧
    job.tenantId = identity.tenantId ∧ job.requesterId = identity.requesterId ∧
    job.clearance = identity.clearance

/-- The decision was submitted with a token of the job's tenant that names a role which may
review, and another subject than the requester unless it is an administrator's. -/
def Decided (job : ResearchJob) (decision : ReviewerDecision) : Prop :=
  ∃ now headers identity token claims, traffic.reviews now headers job.id decision ∧
    Backs verifier library signed asInt now headers identity token claims ∧
    identity.tenantId = job.tenantId ∧
    ∃ names, readPath claims verifier.mapping.rolesClaim = .array names ∧
      (∃ name ∈ names,
        lowerCase (strip (library.python.str name)) ∈ ["reviewer", "administrator"]) ∧
      (TokenVerifier.subject library claims = job.requesterId →
        ∃ name ∈ names, lowerCase (strip (library.python.str name)) = "administrator")

variable {traffic verifier library signed asInt}

theorem askedFor_of_requested (decodes : library.Decodes signed asInt) {job : ResearchJob}
    (requested : (traffic.identified verifier library).Requested job) :
    traffic.AskedFor verifier library signed asInt job := by
  obtain ⟨identity, command, ⟨now, headers, posted, given⟩, tenant, requester, clearance⟩ :=
    requested
  obtain ⟨token, claims, backs⟩ := exists_backs_of_requestIdentity decodes given
  exact ⟨now, headers, command, identity, token, claims, posted, backs, tenant, requester,
    clearance⟩

theorem decided_of_authorised (decodes : library.Decodes signed asInt) {job : ResearchJob}
    {decision : ReviewerDecision} {log : List (Entry RouteCall RouteCall.Answer RouteFault)}
    (authorised : (traffic.identified verifier library).Authorised log job decision) :
    traffic.Decided verifier library signed asInt job decision := by
  obtain ⟨place, identity, read, ⟨now, headers, posted, given⟩, tenant, may, -, -⟩ := authorised
  obtain ⟨token, claims, backs⟩ := exists_backs_of_requestIdentity decodes given
  obtain ⟨role, member⟩ := Finset.nonempty_iff_ne_empty.mpr may.reviews
  obtain ⟨isHeld, isReviewer⟩ := Finset.mem_inter.mp member
  obtain ⟨names, isList, name, isName, named⟩ := backs.grants.roles role isHeld
  refine ⟨now, headers, identity, token, claims, posted, backs, tenant, names, isList,
    ⟨name, isName, ?_⟩, ?_⟩
  · rw [named]
    rcases Finset.mem_insert.mp isReviewer with rfl | isLast
    · decide
    · rw [Finset.mem_singleton.mp isLast]
      decide
  · intro same
    have administers : Role.administrator ∈ identity.roles := by
      apply may.another
      rw [← same, backs.grants.subject.1]
    obtain ⟨others, isSame, other, isOther, administrator⟩ :=
      backs.grants.roles _ administers
    obtain rfl : names = others := Json.array.inj (isList.symm.trans isSame)
    exact ⟨other, isOther, administrator⟩

/-- Where an issuer is configured, and whatever requests arrive with whatever headers: in
every state the routes, the workers and the workflow service reach together, each execution
is of a job that was asked for with a token of the job's own tenant, requester and
clearance, and each decision it was signalled came with a token of that tenant whose claims
name a role that may review and, unless they name an administrator, another subject than
the requester.  All of these tokens were signed by an accepted algorithm with a key of the
realm, for this platform, and had not expired. -/
theorem decisions_authenticated {backend : Backend}
    {log : List (Entry RouteCall RouteCall.Answer RouteFault)}
    {pool : Pool RouteCall RouteCall.Answer RouteFault PlatformState ResearchJob}
    (decodes : library.Decodes signed asInt)
    (reaches : ((traffic.identified verifier library).routes backend).Reaches {} log pool) :
    ∀ workflowId execution, pool.world.executions.get? workflowId = some execution →
      traffic.AskedFor verifier library signed asInt execution.job ∧
        ∀ decision ∈ execution.signals,
          traffic.Decided verifier library signed asInt execution.job decision := by
  intro workflowId execution found
  have legitimate :=
    (RouteRequests.Consistent.of_reaches reaches).legitimate workflowId execution found
  constructor
  · exact askedFor_of_requested decodes legitimate.requested
  · intro decision signalled
    exact decided_of_authorised decodes (legitimate.authorised decision signalled)

/-! ## One realm -/

namespace OneRealm

open RouteRequests.OneReview

def realm : TokenVerifier where
  issuer := "realm"
  audience := "platform"
  issuerGiven := by decide
  audienceGiven := by decide

/-- The claims of a token. -/
def claimsOf (subject role : String) : Claims :=
  [("iss", .text "realm"), ("aud", .text "platform"), ("exp", .int 100), ("sub", .text subject),
    ("tenant_id", .text "acme"), ("realm_access", .object [("roles", .array [.text role])])]

/-- Whether the claims are what the request asks for. -/
def Fits (now : Nat) (request : DecodeRequest Unit) : Prop :=
  request.issuer = "realm" ∧ request.audience = "platform" ∧
    "RS256" ∈ request.algorithms ∧ (now : Int) - request.leeway < 100

instance (now : Nat) (request : DecodeRequest Unit) : Decidable (Fits now request) :=
  inferInstanceAs (Decidable (_ ∧ _))

def identities : TokenLibrary Unit where
  keyFor _ := some ()
  decode now request :=
    if Fits now request then
      if request.token = "ada.1" then .ok (claimsOf "ada" "requester")
      else if request.token = "grace.1" then .ok (claimsOf "grace" "Reviewer")
      else .error (.invalidToken "unknown")
    else .error .invalidIssuer
  python := { nfc := id, strOf := fun _ => "" }
  repr _ := ""

def wholeNumber : Json → Option Int
  | .int value => some value
  | _ => none

def posted (token : String) : IdentityHeaders where
  authorization := some ("Bearer " ++ token)

def approvals : Traffic where
  jobs now headers command := now = 0 ∧ headers = posted "ada.1" ∧ command = question
  reviews now headers jobId decision :=
    now = 0 ∧ headers = posted "grace.1" ∧ jobId = 1 ∧ decision = .approve

theorem exists_claims {now : Nat} {request : DecodeRequest Unit} {claims : Claims}
    (decoded : identities.decode now request = .ok claims) :
    Fits now request ∧ ∃ subject role, claims = claimsOf subject role := by
  change (if Fits now request then _ else _) = _ at decoded
  split at decoded
  · rename_i fits
    split at decoded
    · exact ⟨fits, _, _, (Except.ok.inj decoded).symm⟩
    · split at decoded
      · exact ⟨fits, _, _, (Except.ok.inj decoded).symm⟩
      · cases decoded
  · cases decoded

theorem decodes_identities : identities.Decodes (fun _ _ _ _ => True) wholeNumber where
  signature := by
    intro now request claims decoded
    obtain ⟨⟨-, -, listed, -⟩, -⟩ := exists_claims decoded
    exact ⟨"RS256", listed, trivial⟩
  issuer := by
    intro now request claims decoded
    obtain ⟨⟨isIssuer, -⟩, subject, role, rfl⟩ := exists_claims decoded
    rw [isIssuer]
    rfl
  audience := by
    intro now request claims decoded
    obtain ⟨⟨-, isAudience, -⟩, subject, role, rfl⟩ := exists_claims decoded
    rw [isAudience]
    exact Or.inl rfl
  expiry := by
    intro now request claims decoded
    obtain ⟨⟨-, -, -, early⟩, subject, role, rfl⟩ := exists_claims decoded
    exact ⟨100, rfl, early⟩

theorem identity_asker :
    requestIdentity (some realm) identities 0 (posted "ada.1") = .ok asker := by
  decide +kernel

theorem identity_second :
    requestIdentity (some realm) identities 0 (posted "grace.1") = .ok second := by
  decide +kernel

end OneRealm

open OneRealm in
theorem decisions_authenticated_when_approved : ∃ job,
    approvals.AskedFor realm identities (fun _ _ _ _ => True) wholeNumber job ∧
      approvals.Decided realm identities (fun _ _ _ _ => True) wholeNumber job .approve := by
  have starts := @RouteRequests.OneReview.starts_steps (approvals.identified realm identities)
    ⟨0, _, ⟨rfl, rfl, rfl⟩, identity_asker⟩ ⟨0, _, ⟨rfl, rfl, rfl, rfl⟩, identity_second⟩
  obtain ⟨log, ended, reaches⟩ :=
    RouteRequests.OneReview.reaches_runAll starts Setting.Reaches.nothing
  obtain ⟨execution, found, signalled⟩ :=
    Option.map_eq_some_iff.mp RouteRequests.OneReview.signals_runAll
  obtain ⟨asked, decided⟩ := decisions_authenticated decodes_identities reaches _ _ found
  exact ⟨execution.job, asked, decided .approve (signalled ▸ List.mem_singleton.mpr rfl)⟩

end Traffic

end ResearchPlatform
