import ResearchPlatform.Properties.GatewayRecords

/-!
# Credentials in audit records

The arguments of an audit record are redacted by the names at the top.  So two calls that differ
in credentials only leave the same record exactly where no credential-shaped name stands
further inside.
-/

namespace ResearchPlatform

open Foundation Program

/-! ## The specification -/

namespace Json

mutual

/-- The value with the mask in place of all that is stored under credential-shaped names. -/
def maskWith (mask : Json) : Json → Json
  | array items => array (maskItems mask items)
  | object members => object (maskMembers mask members)
  | value => value

def maskItems (mask : Json) : List Json → List Json
  | [] => []
  | item :: rest => maskWith mask item :: maskItems mask rest

def maskMembers (mask : Json) : List (String × Json) → List (String × Json)
  | [] => []
  | (name, value) :: rest =>
      (name, if isSensitiveArgument name then mask else maskWith mask value) ::
        maskMembers mask rest

end

mutual

/-- Some name in the value, at any depth, is credential-shaped. -/
def namesCredential : Json → Bool
  | array items => itemsNameCredential items
  | object members => membersNameCredential members
  | _ => false

def itemsNameCredential : List Json → Bool
  | [] => false
  | item :: rest => namesCredential item || itemsNameCredential rest

def membersNameCredential : List (String × Json) → Bool
  | [] => false
  | (name, value) :: rest =>
      isSensitiveArgument name || namesCredential value || membersNameCredential rest

end

end Json

/-- The arguments differ only in values that are stored under credential-shaped names, at any
depth. -/
def DifferInCredentials (first second : Arguments) : Prop :=
  Json.maskWith redacted (.object first.entries) =
    Json.maskWith redacted (.object second.entries)

instance (first second : Arguments) : Decidable (DifferInCredentials first second) :=
  inferInstanceAs (Decidable (_ = _))

/-- A credential-shaped name stands inside a value that is stored under another name. -/
def BuriesCredential (arguments : Arguments) : Prop :=
  ∃ entry ∈ arguments.entries,
    isSensitiveArgument entry.1 = false ∧ entry.2.namesCredential = true

instance (arguments : Arguments) : Decidable (BuriesCredential arguments) :=
  inferInstanceAs (Decidable (∃ entry ∈ arguments.entries, _))

/-- Whatever gateways they are made through, calls with these arguments leave audit records
with the same sanitized arguments. -/
def RecordsAgree (first second : Arguments) : Prop :=
  ∀ (World : Type) (gateway : CapabilityGateway)
    (handler : Handler GatewayCall GatewayCall.Answer GatewayFault World)
    (world otherWorld : World) (request : InvokeRequest) (record counterpart : ToolInvocation),
    let run := interpret handler (gateway.invoke { request with arguments := first }) world
    let otherRun :=
      interpret handler (gateway.invoke { request with arguments := second }) otherWorld
    UnrecordedFaults run.trace → UnrecordedFaults otherRun.trace → RecordedIn record run →
      RecordedIn counterpart otherRun →
        record.sanitizedArguments = counterpart.sanitizedArguments

/-! ## The arguments of a record -/

/-- Collaborators that raise no audit records. -/
def faultMonitor : Monitor GatewayCall GatewayCall.Answer GatewayFault Unit where
  observe _ _ := ()
  admits _ event := ∀ fault, event.2 = .error fault → fault.invocation? = none

/-- A record that is handed to the sink has these arguments. -/
def AuditsArguments (sanitized : Arguments) (_ : Unit) : GatewayCall → Prop
  | .audit invocation => invocation.sanitizedArguments = sanitized
  | _ => True

section Gateway

variable {World : Type} {request : InvokeRequest} {gateway : CapabilityGateway}

theorem allowsPlain_faultMonitor {sanitized : Arguments} :
    AllowsPlain faultMonitor (AuditsArguments sanitized) () where
  permitted call plain := by
    cases call with
    | audit invocation => cases plain
    | _ => trivial
  still _ _ _ := rfl
  unrecorded _ fault admitted := admitted fault rfl

theorem guarded_sanitized :
    Guarded faultMonitor (AuditsArguments (sanitizeArguments request.arguments))
      (gateway.invoke request) ()
      (KeepsRecord fun _ invocation =>
        invocation.sanitizedArguments = sanitizeArguments request.arguments) := by
  apply guarded_invoke_of
  · exact fun _ invocation same => same
  · exact fun _ invocation answer => rfl
  have unrecorded {fault : GatewayFault} (plain : fault.invocation? = none) :
      KeepsRecord (fun (_ : Unit) invocation =>
        invocation.sanitizedArguments = sanitizeArguments request.arguments)
        (.error fault) () := by
    intro invocation recorded
    have carried : fault.invocation? = some invocation := recorded
    rw [plain] at carried
    cases carried
  unfold CapabilityGateway.invokeUnobserved
  cases gateway.registry.resolveFor request.principal request.server request.capabilityName with
  | error missing => exact unrecorded rfl
  | ok capability =>
      refine ⟨trivial, ?_⟩
      intro looked admitted
      cases looked with
      | error fault => exact unrecorded (admitted fault rfl)
      | ok version =>
          refine ⟨trivial, ?_⟩
          intro answer admitted
          cases answer with
          | error fault => exact unrecorded (admitted fault rfl)
          | ok decision =>
              have made : ∀ invocation, MadeFrom
                  ((CapabilityGateway.auditContext request capability version).withPolicyVersion
                    decision.policyVersion) invocation →
                  invocation.sanitizedArguments = sanitizeArguments request.arguments := by
                intro invocation isMade
                obtain ⟨_, _, _, _, _, _, same⟩ := isMade
                exact congrArg InvocationFields.sanitizedArguments same
              apply Guarded.mono (recording_decided allowsPlain_faultMonitor made)
              exact fun outcome last records => keepsRecord_of_records records

/-- Every record of a call has the sanitized arguments of the call. -/
theorem sanitized_of_recordedIn
    {handler : Handler GatewayCall GatewayCall.Answer GatewayFault World} {world : World}
    {invocation : ToolInvocation}
    (plain : UnrecordedFaults (interpret handler (gateway.invoke request) world).trace)
    (recorded : RecordedIn invocation (interpret handler (gateway.invoke request) world)) :
    invocation.sanitizedArguments = sanitizeArguments request.arguments := by
  have admits {trace : List GatewayEvent} (plain : UnrecordedFaults trace) :
      faultMonitor.Admits () trace := by
    induction trace with
    | nil => trivial
    | cons event rest inductionHypothesis =>
        obtain ⟨first, others⟩ := List.forall_mem_cons.mp plain
        exact ⟨first, inductionHypothesis others⟩
  obtain ⟨each, ended⟩ := guarded_sanitized.sound (admits plain)
  rcases recorded with audited | returned
  · obtain ⟨event, member, same⟩ := List.mem_filterMap.mp audited
    obtain ⟨before, after, split⟩ := List.append_of_mem member
    obtain ⟨call, answer⟩ := event
    cases call with
    | audit handed =>
        cases same
        exact each before (.audit invocation) answer after split
    | _ => cases same
  · exact ended invocation returned

end Gateway

/-- Some gateway records a call, whatever its arguments are. -/
theorem exists_recordedIn {request : InvokeRequest} {arguments : Arguments}
    (isCall : request = { SalesQuery.call true with arguments }) :
    UnrecordedFaults
        (interpret (SalesQuery.handler .allow) (SalesQuery.gateway.invoke request) ()).trace ∧
      ∃ invocation, RecordedIn invocation
        (interpret (SalesQuery.handler .allow) (SalesQuery.gateway.invoke request) ()) := by
  have tenant : (SalesQuery.call true).principal.tenantId.length ≤ 100 := by decide
  have wellFormed : request.WellFormed := by
    subst isCall
    constructor
    · exact tenant
    · intro approval given
      rw [← Option.some.inj given]
      rfl
  have answers := @SalesQuery.handler_answers .allow (by decide)
    (SalesQuery.gateway.invoke request)
  have ended := (@ensures_invoke request SalesQuery.gateway wellFormed).sound_recorder answers
  have resolves : SalesQuery.gateway.registry.resolveFor request.principal request.server
      request.capabilityName = .ok SalesQuery.capability := by
    subst isCall
    exact SalesQuery.resolved true
  rw [resolves] at ended
  obtain ⟨invocation, recorded, -⟩ := ended
  refine ⟨?_, invocation, Or.inr recorded⟩
  intro event member fault raised
  obtain ⟨before, same⟩ := answer_of_mem_trace (SalesQuery.handler .allow) member
  obtain ⟨call, answer⟩ := event
  change answer = .error fault at raised
  subst raised
  cases call <;> cases same

/-- Records agree exactly where the sanitized arguments do. -/
theorem recordsAgree_iff_sanitized {first second : Arguments} :
    RecordsAgree first second ↔ sanitizeArguments first = sanitizeArguments second := by
  constructor
  · intro agree
    obtain ⟨plain, record, recorded⟩ := @exists_recordedIn _ first rfl
    obtain ⟨otherPlain, counterpart, otherRecorded⟩ := @exists_recordedIn _ second rfl
    have same := agree Unit SalesQuery.gateway (SalesQuery.handler .allow) () ()
      (SalesQuery.call true) record counterpart plain otherPlain recorded otherRecorded
    rw [sanitized_of_recordedIn plain recorded,
      sanitized_of_recordedIn otherPlain otherRecorded] at same
    exact same
  · intro same World gateway handler world otherWorld request record counterpart run otherRun
      plain otherPlain recorded otherRecorded
    rw [sanitized_of_recordedIn plain recorded,
      sanitized_of_recordedIn otherPlain otherRecorded]
    exact same

/-! ## Masks -/

namespace Json

variable {mask other : Json}

theorem maskItems_eq (items : List Json) : maskItems mask items = items.map (maskWith mask) := by
  induction items with
  | nil => rfl
  | cons item rest inductionHypothesis => rw [maskItems, inductionHypothesis, List.map_cons]

/-- One member behind the mask. -/
def maskMember (mask : Json) (member : String × Json) : String × Json :=
  (member.1, if isSensitiveArgument member.1 then mask else maskWith mask member.2)

theorem maskMembers_eq (members : List (String × Json)) :
    maskMembers mask members = members.map (maskMember mask) := by
  induction members with
  | nil => rfl
  | cons member rest inductionHypothesis =>
      rw [maskMembers, inductionHypothesis, List.map_cons]
      rfl

theorem itemsNameCredential_iff {items : List Json} :
    itemsNameCredential items = true ↔ ∃ item ∈ items, item.namesCredential = true := by
  induction items with
  | nil => simp [itemsNameCredential]
  | cons item rest inductionHypothesis => simp [itemsNameCredential, inductionHypothesis]

theorem membersNameCredential_iff {members : List (String × Json)} :
    membersNameCredential members = true ↔ ∃ member ∈ members,
      isSensitiveArgument member.1 = true ∨ member.2.namesCredential = true := by
  induction members with
  | nil => simp [membersNameCredential]
  | cons member rest inductionHypothesis =>
      rw [membersNameCredential, Bool.or_eq_true, inductionHypothesis, Bool.or_eq_true,
        List.exists_mem_cons_iff]

/-- A value that names no credential is not masked.  The induction is on the value. -/
theorem maskWith_eq_self {value : Json} (clean : value.namesCredential = false) :
    maskWith mask value = value := by
  induction value using Json.induction with
  | step value inductionHypothesis =>
      cases value with
      | array items =>
          have each : ∀ item ∈ items, maskWith mask item = item := by
            intro item member
            apply inductionHypothesis item member
            rw [Bool.eq_false_iff] at clean ⊢
            exact fun names => clean (itemsNameCredential_iff.mpr ⟨item, member, names⟩)
          rw [maskWith, maskItems_eq, List.map_congr_left each, List.map_id']
      | object members =>
          have each : ∀ member ∈ members, maskMember mask member = member := by
            intro member isMember
            rw [Bool.eq_false_iff] at clean
            have plain : isSensitiveArgument member.1 = false := Bool.eq_false_iff.mpr fun names =>
              clean (membersNameCredential_iff.mpr ⟨member, isMember, Or.inl names⟩)
            have inner : member.2.namesCredential = false := Bool.eq_false_iff.mpr fun names =>
              clean (membersNameCredential_iff.mpr ⟨member, isMember, Or.inr names⟩)
            rw [maskMember, plain,
              inductionHypothesis member.2 (mem_parts_of_member isMember) inner]
            rfl
          rw [maskWith, maskMembers_eq, List.map_congr_left each, List.map_id']
      | _ => rfl

/-- What is masked shows the last mask only.  The induction is on the value. -/
theorem maskWith_maskWith (value : Json) :
    maskWith mask (maskWith other value) = maskWith mask value := by
  induction value using Json.induction with
  | step value inductionHypothesis =>
      cases value with
      | array items =>
          rw [maskWith, maskWith, maskWith, maskItems_eq, maskItems_eq, maskItems_eq,
            List.map_map]
          exact congrArg array (List.map_congr_left inductionHypothesis)
      | object members =>
          have each : ∀ member ∈ members,
              maskMember mask (maskMember other member) = maskMember mask member := by
            intro member isMember
            have inner := inductionHypothesis member.2 (mem_parts_of_member isMember)
            by_cases names : isSensitiveArgument member.1 = true
            · simp [maskMember, names]
            · simp [maskMember, names, inner]
          rw [maskWith, maskWith, maskWith, maskMembers_eq, maskMembers_eq, maskMembers_eq,
            List.map_map]
          exact congrArg object (List.map_congr_left each)
      | _ => rfl

/-- A mask changes no name.  The induction is on the value. -/
theorem namesCredential_maskWith (value : Json) :
    (maskWith mask value).namesCredential = value.namesCredential := by
  induction value using Json.induction with
  | step value inductionHypothesis =>
      cases value with
      | array items =>
          rw [maskWith, namesCredential, namesCredential, Bool.eq_iff_iff,
            itemsNameCredential_iff, itemsNameCredential_iff, maskItems_eq]
          simp only [List.mem_map, exists_exists_and_eq_and]
          apply exists_congr
          intro item
          apply and_congr_right
          intro member
          rw [inductionHypothesis item member]
      | object members =>
          rw [maskWith, namesCredential, namesCredential, Bool.eq_iff_iff,
            membersNameCredential_iff, membersNameCredential_iff, maskMembers_eq]
          simp only [List.mem_map, exists_exists_and_eq_and]
          apply exists_congr
          intro member
          apply and_congr_right
          intro isMember
          have inner := inductionHypothesis member.2 (mem_parts_of_member isMember)
          by_cases names : isSensitiveArgument member.1 = true
          · simp [maskMember, names]
          · simp [maskMember, names, inner]
      | _ => rfl

/-- A value that looks the same behind two masks names no credential.  The induction is on the
value. -/
theorem clean_of_maskWith_eq {value : Json} (different : mask ≠ other)
    (same : maskWith mask value = maskWith other value) : value.namesCredential = false := by
  induction value using Json.induction with
  | step value inductionHypothesis =>
      rw [Bool.eq_false_iff]
      intro names
      cases value with
      | array items =>
          rw [maskWith, maskWith, maskItems_eq, maskItems_eq] at same
          have each := List.map_inj_left.mp (Json.array.inj same)
          obtain ⟨item, member, namesItem⟩ := itemsNameCredential_iff.mp names
          rw [inductionHypothesis item member (each item member)] at namesItem
          cases namesItem
      | object members =>
          rw [maskWith, maskWith, maskMembers_eq, maskMembers_eq] at same
          have each := List.map_inj_left.mp (Json.object.inj same)
          obtain ⟨member, isMember, named⟩ := membersNameCredential_iff.mp names
          have second := (Prod.mk.inj (each member isMember)).2
          by_cases sensitive : isSensitiveArgument member.1 = true
          · rw [if_pos sensitive, if_pos sensitive] at second
            exact different second
          · rw [if_neg sensitive, if_neg sensitive] at second
            rw [inductionHypothesis member.2 (mem_parts_of_member isMember) second] at named
            rcases named with isSensitive | inner
            · exact sensitive isSensitive
            · cases inner
      | _ => cases names

end Json

/-! ## The result -/

/-- The arguments with the mask in place of every credential. -/
def maskArguments (mask : Json) (arguments : Arguments) : Arguments :=
  arguments.mapValues fun name value =>
    if isSensitiveArgument name then mask else Json.maskWith mask value

theorem differInCredentials_maskArguments (mask : Json) (arguments : Arguments) :
    DifferInCredentials arguments (maskArguments mask arguments) := by
  have masked : Json.maskWith mask (.object arguments.entries) =
      .object (maskArguments mask arguments).entries := by
    rw [Json.maskWith, Json.maskMembers_eq]
    rfl
  rw [DifferInCredentials, ← masked, Json.maskWith_maskWith]

/-- What `sanitize_arguments` writes for one entry. -/
def sanitizedEntry (entry : String × Json) : String × Json :=
  (entry.1, if isSensitiveArgument entry.1 then redacted else entry.2)

theorem sanitizeArguments_eq_iff {first second : Arguments} :
    sanitizeArguments first = sanitizeArguments second ↔
      first.entries.map sanitizedEntry = second.entries.map sanitizedEntry := by
  have entries (arguments : Arguments) :
      (sanitizeArguments arguments).entries = arguments.entries.map sanitizedEntry := rfl
  rw [← entries, ← entries]
  exact ⟨congrArg Dict.entries, Dict.eq_of_entries⟩

/-- Two entries that look the same behind a mask are sanitized alike, if none is buried. -/
theorem sanitizedEntry_eq_of_masked {first second : String × Json}
    (clean : isSensitiveArgument first.1 = false → first.2.namesCredential = false)
    (same : Json.maskMember redacted first = Json.maskMember redacted second) :
    sanitizedEntry first = sanitizedEntry second := by
  obtain ⟨name, value⟩ := first
  obtain ⟨otherName, other⟩ := second
  obtain ⟨sameName, sameValue⟩ := Prod.mk.inj same
  obtain rfl : name = otherName := sameName
  by_cases sensitive : isSensitiveArgument name = true
  · simp [sanitizedEntry, sensitive]
  · have plain : value.namesCredential = false := clean (Bool.eq_false_iff.mpr sensitive)
    rw [if_neg sensitive, if_neg sensitive] at sameValue
    have otherPlain : other.namesCredential = false := by
      rw [← Json.namesCredential_maskWith, ← sameValue, Json.namesCredential_maskWith, plain]
    rw [Json.maskWith_eq_self plain, Json.maskWith_eq_self otherPlain] at sameValue
    rw [show value = other from sameValue]

/-- Arguments that bury no credential are sanitized alike, whatever their credentials are. -/
theorem sanitized_eq_of_differ {first second : Arguments} (clean : ¬ BuriesCredential first)
    (differ : DifferInCredentials first second) :
    sanitizeArguments first = sanitizeArguments second := by
  rw [DifferInCredentials, Json.maskWith, Json.maskWith, Json.maskMembers_eq,
    Json.maskMembers_eq] at differ
  have masked := Json.object.inj differ
  have lengths : first.entries.length = second.entries.length := by
    simpa using congrArg List.length masked
  apply sanitizeArguments_eq_iff.mpr
  apply List.ext_getElem (by rw [List.length_map, List.length_map, lengths])
  intro index inside within
  rw [List.length_map] at inside within
  rw [List.getElem_map, List.getElem_map]
  apply sanitizedEntry_eq_of_masked
  · intro plain
    rw [Bool.eq_false_iff]
    exact fun names => clean ⟨_, List.getElem_mem inside, plain, names⟩
  · have same := congrArg (·[index]?) masked
    simpa [List.getElem?_eq_getElem inside, List.getElem?_eq_getElem within] using same

/-- The records of calls that differ in credentials only agree exactly where no credential is
buried under another name. -/
theorem recordsAgree_iff_notBuried (arguments : Arguments) :
    (∀ other, DifferInCredentials arguments other → RecordsAgree arguments other) ↔
      ¬ BuriesCredential arguments := by
  constructor
  · intro agree buries
    obtain ⟨entry, isEntry, plain, names⟩ := buries
    have each (mask : Json) :
        sanitizeArguments arguments = sanitizeArguments (maskArguments mask arguments) :=
      recordsAgree_iff_sanitized.mp (agree _ (differInCredentials_maskArguments mask arguments))
    -- Two masks would have to look the same where the credential is buried.
    have same := sanitizeArguments_eq_iff.mp ((each .null).symm.trans (each (.bool true)))
    have entries (mask : Json) : (maskArguments mask arguments).entries =
        arguments.entries.map (Json.maskMember mask) := rfl
    rw [entries, entries, List.map_map, List.map_map] at same
    have shown (mask : Json) : (sanitizedEntry (Json.maskMember mask entry)).2 =
        Json.maskWith mask entry.2 := by
      simp [sanitizedEntry, Json.maskMember, plain]
    have here := congrArg Prod.snd (List.map_inj_left.mp same entry isEntry)
    rw [Function.comp, Function.comp, shown, shown] at here
    have clean := Json.clean_of_maskWith_eq (by decide) here
    rw [clean] at names
    cases names
  · intro clean other differ
    exact recordsAgree_iff_sanitized.mpr (sanitized_eq_of_differ clean differ)

section Example

/-- A call of a capability without a named schema, with a password among its arguments. -/
def nestedLogin (password : String) : Arguments where
  entries := [("arguments", .object [("password", .text password)])]
  keysDistinct := List.nodup_singleton _

/-- The records of the two calls show the two passwords. -/
theorem nested_credential_recorded :
    DifferInCredentials (nestedLogin "hunter2") (nestedLogin "swordfish") ∧
      ¬ RecordsAgree (nestedLogin "hunter2") (nestedLogin "swordfish") := by
  refine ⟨by decide, ?_⟩
  rw [recordsAgree_iff_sanitized]
  decide

end Example

end ResearchPlatform
