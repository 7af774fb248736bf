import ResearchPlatform.Domain.Invocations

/-!
# Approvals

`ApprovalRequest` is a reviewer's decision on one tool, resource and argument
digest.  `isValidFor` compares it with a call.
-/

namespace ResearchPlatform

inductive ApprovalStatus where
  | pending
  | granted
  | rejected
  | expired
  deriving DecidableEq, Repr

/-- A status that a reviewer decided. -/
def ApprovalStatus.IsDecided (status : ApprovalStatus) : Prop :=
  status = .granted ∨ status = .rejected

/-- Why a call is not authorized: the approval does not describe it, or a time
without a zone was compared with the clock. -/
inductive ApprovalError where
  | mismatch (message : String)
  | typeError (message : String)
  deriving DecidableEq

/-- The last three fields are `decided_requests_need_a_reviewer`; two times can
only be compared when both carry a zone or neither does. -/
structure ApprovalRequest where
  id : UUID
  jobId : UUID
  tenantId : String
  mcpServer : NonEmptyText
  capability : NonEmptyText
  resourceId : NonEmptyText
  argumentDigest : DigestText
  status : ApprovalStatus := .pending
  requestedAt : DateTime
  expiresAt : DateTime
  reviewerId : Option String := none
  decidedAt : Option DateTime := none
  zonesAgree : requestedAt.hasZone = expiresAt.hasZone
  expiresLater : requestedAt.micros < expiresAt.micros
  decidedByReviewer :
    status.IsDecided → reviewerId.isSome = true ∧ decidedAt.isSome = true

namespace ApprovalRequest

/-- `at < self.expires_at`, where `at` has a time zone. -/
def unexpiredAt (approval : ApprovalRequest) (moment : Timestamp) :
    Except ApprovalError Bool :=
  if approval.expiresAt.hasZone then
    .ok (moment < approval.expiresAt.micros)
  else
    .error (.typeError "can't compare offset-naive and offset-aware datetimes")

/-- `ApprovalRequest.is_valid_for`. -/
def isValidFor (approval : ApprovalRequest) (mcpServer capability resourceId : String)
    (arguments : Arguments) (moment : Timestamp) : Except ApprovalError Bool :=
  if approval.status = .granted then do
    let unexpired ← approval.unexpiredAt moment
    return unexpired && approval.mcpServer.val == mcpServer &&
      approval.capability.val == capability &&
      approval.resourceId.val == resourceId &&
      approval.argumentDigest.val == (ResearchPlatform.argumentDigest arguments).val
  else
    return false

/-- `ApprovalRequest.authorize`. -/
def authorize (approval : ApprovalRequest) (mcpServer capability resourceId : String)
    (arguments : Arguments) (moment : Timestamp) : Except ApprovalError Unit := do
  let valid ← approval.isValidFor mcpServer capability resourceId arguments moment
  if valid then
    return ()
  else
    throw (.mismatch
      ("approval " ++ approval.id.str ++ " does not authorize " ++ mcpServer ++ "." ++
        capability ++ " on " ++ resourceId))

/-- What an approval that authorizes a call satisfies. -/
structure Authorizes (approval : ApprovalRequest)
    (mcpServer capability resourceId : String) (arguments : Arguments)
    (moment : Timestamp) : Prop where
  granted : approval.status = .granted
  zoned : approval.expiresAt.hasZone = true
  unexpired : moment < approval.expiresAt.micros
  sameServer : approval.mcpServer.val = mcpServer
  sameCapability : approval.capability.val = capability
  sameResource : approval.resourceId.val = resourceId
  sameArguments :
    approval.argumentDigest = ResearchPlatform.argumentDigest arguments

theorem isValidFor_eq_ok_true_iff {approval : ApprovalRequest}
    {mcpServer capability resourceId : String} {arguments : Arguments}
    {moment : Timestamp} :
    approval.isValidFor mcpServer capability resourceId arguments moment = .ok true ↔
      approval.Authorizes mcpServer capability resourceId arguments moment := by
  constructor
  · intro valid
    by_cases granted : approval.status = .granted
    · by_cases zoned : approval.expiresAt.hasZone = true
      · have compared := valid
        simp only [isValidFor, unexpiredAt, if_pos granted, if_pos zoned] at compared
        have agree := Except.ok.inj compared
        simp only [Bool.and_eq_true, decide_eq_true_eq, beq_iff_eq] at agree
        obtain ⟨⟨⟨⟨unexpired, server⟩, name⟩, resource⟩, digest⟩ := agree
        exact ⟨granted, zoned, unexpired, server, name, resource, Subtype.ext digest⟩
      · simp [isValidFor, unexpiredAt, granted, zoned, bind, Except.bind] at valid
    · simp [isValidFor, granted, pure, Except.pure] at valid
  · intro authorizes
    simp [isValidFor, unexpiredAt, authorizes.granted, authorizes.zoned,
      authorizes.unexpired, authorizes.sameServer, authorizes.sameCapability,
      authorizes.sameResource, authorizes.sameArguments, bind, Except.bind, pure,
      Except.pure]

/-- `authorize` returns exactly where every compared field agrees. -/
theorem authorize_eq_ok_iff {approval : ApprovalRequest}
    {mcpServer capability resourceId : String} {arguments : Arguments}
    {moment : Timestamp} :
    approval.authorize mcpServer capability resourceId arguments moment = .ok () ↔
      approval.Authorizes mcpServer capability resourceId arguments moment := by
  rw [← isValidFor_eq_ok_true_iff, authorize]
  cases approval.isValidFor mcpServer capability resourceId arguments moment with
  | error error => simp [bind, Except.bind]
  | ok valid => cases valid <;> simp [bind, Except.bind, pure, Except.pure, throw,
      throwThe, MonadExceptOf.throw]

/-- An approval whose expiry carries a zone is compared without a type error. -/
theorem authorize_of_zoned {approval : ApprovalRequest}
    {mcpServer capability resourceId : String} {arguments : Arguments}
    {moment : Timestamp} {error : ApprovalError}
    (zoned : approval.expiresAt.hasZone = true)
    (refused :
      approval.authorize mcpServer capability resourceId arguments moment =
        .error error) :
    ∃ message, error = .mismatch message := by
  have compared : ∃ valid,
      approval.isValidFor mcpServer capability resourceId arguments moment =
        .ok valid := by
    by_cases granted : approval.status = .granted
    · simp [isValidFor, unexpiredAt, granted, zoned, bind, Except.bind, pure,
        Except.pure]
    · exact ⟨false, if_neg granted⟩
  obtain ⟨valid, equal⟩ := compared
  rw [authorize, equal] at refused
  cases valid with
  | true => cases refused
  | false => exact ⟨_, (Except.error.inj refused).symm⟩

end ApprovalRequest

end ResearchPlatform
