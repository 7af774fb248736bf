import Mathlib.Data.Bool.AllAny
import ResearchPlatform.Mcp.FilesystemBoundary
import ResearchPlatform.Mcp.WebBoundary
import ResearchPlatform.Properties.EvidenceHashes
import ResearchPlatform.Workflow.SourceCheck

/-!
# A source that is read again

A page is addressed by its own URL.  A workspace document is addressed by a URI that the
tenant and the path are written into as they are, and `urlsplit` reads it back.
-/

namespace ResearchPlatform

open Foundation Program

/-! ## The same text again -/

/-- What the tool of a server answers to a call. -/
abbrev ServerTool : Type := ExecutionRequest → Except UpstreamError String

/-- The executor returns nothing but what the tool answers to calls of the capability. -/
def ServerTool.Serves {World : Type} (tool : ServerTool) (key : String × String)
    (handler : Handler GatewayCall GatewayCall.Answer GatewayFault World) : Prop :=
  ∀ world execution raw, execution.capability.key = key →
    (handler world (.execute execution)).1 = .ok (.ok raw) → tool execution = .ok raw

/-- What was observed is what the tool answered to a call that the gateway let through. -/
structure ObservedContent.From (observed : ObservedContent) (tool : ServerTool)
    (registry : CapabilityRegistry) : Prop where
  registered : registry.get observed.invocation.mcpServer observed.invocation.capability =
    .ok observed.capability
  server : observed.invocation.mcpServer = observed.capability.server.val
  name : observed.invocation.capability = observed.capability.name.val
  answered : ∃ principal raw, principal.tenantId = observed.invocation.tenantId ∧
    tool ⟨observed.capability, principal, observed.arguments⟩ = .ok raw ∧
      observed.text = (sanitizeResult raw observed.capability.maxResultBytes).text

section Invocations

variable {World : Type} {handler : Handler GatewayCall GatewayCall.Answer GatewayFault World}
  {tool : ServerTool} {key : String × String} {gateway : CapabilityGateway}
  {request : InvokeRequest} {world : World} {result : InvocationResult}

/-- What an invocation returns is what the tool answered. -/
theorem ServerTool.Serves.returned (serves : tool.Serves key handler)
    (returned : (interpret handler (gateway.invoke request) world).outcome = .ok result) :
    ∃ capability, gateway.registry.resolveFor request.principal request.server
        request.capabilityName = .ok capability ∧
      result.Served (fun execution raw => execution.capability.key = key →
        tool execution = .ok raw) request capability := by
  let served (execution : ExecutionRequest) (raw : String) : Prop :=
    execution.capability.key = key → tool execution = .ok raw
  have admitted : (servedMonitor served).Admits []
      (interpret handler (gateway.invoke request) world).trace := by
    apply Monitor.admits_interpret fun _ _ => True
    · intro _ world call _
      cases call with
      | execute execution =>
          change AnsweredBy served ⟨_, (handler world (.execute execution)).1⟩
          cases answered : (handler world (.execute execution)).1 with
          | error fault => trivial
          | ok reply =>
              cases reply with
              | error error => trivial
              | ok raw => exact fun ofKey => serves world execution raw ofKey answered
      | _ => trivial
    · exact fun _ _ _ _ => trivial
    · trivial
  exact CapabilityGateway.promises_invoke.sound admitted result returned

/-- What a tool of an agent notes of a call comes from the server. -/
theorem ObservedContent.from_of_invoke {agentTool : CapabilityTool}
    {provider : Capability → Arguments → Option ApprovalRequest} {given : Arguments}
    (serves : tool.Serves agentTool.capability.key handler)
    (registered : gateway.registry.get agentTool.capability.server.val
      agentTool.capability.name.val = .ok agentTool.capability)
    (returned : (interpret handler (gateway.invoke (agentTool.request provider given))
      world).outcome = .ok result) :
    ObservedContent.From
      ⟨result.invocation, agentTool.capability, agentTool.arguments given,
        result.content.text⟩ tool gateway.registry := by
  obtain ⟨capability, resolved, served⟩ := serves.returned returned
  have found := (CapabilityRegistry.resolveFor_eq_ok_iff.mp resolved).1
  obtain rfl : agentTool.capability = capability :=
    Except.ok.inj (registered.symm.trans found)
  obtain ⟨raw, answered, content⟩ := served.content
  refine ⟨?_, served.server, served.name, agentTool.principal, raw, served.tenant.symm,
    answered rfl, by rw [content]⟩
  rw [served.server, served.name]
  exact registered

end Invocations

/-! ## The verdict on an unchanged source -/

/-- The record was verified by a call that was observed so, and is of the job's tenant. -/
structure Capture (checker : GatewaySourceChecker) (tool : ServerTool) (job : ResearchJob)
    (record : EvidenceRecord) (observed : ObservedContent) : Prop where
  verified : ∃ (claims : EvidenceClaims) (ledger : EvidenceLedger) (taskId : UUID)
      (now : Nat → Timestamp) (submission : EvidenceSubmission),
    verifyClaims checker.python claims ledger taskId now = .ok submission ∧
      record.toEvidenceRecordCreate ∈ submission.records ∧
      ledger.get? record.toolInvocationId = some observed
  fromTool : observed.From tool checker.gateway.registry
  ofTenant : job.tenantId = observed.invocation.tenantId

/-- The source can be read again: there are arguments that name the `same` document, and a
re-read that is let through and succeeds finds an unchanged source unchanged. -/
structure Readdressed (checker : GatewaySourceChecker) (tool : ServerTool)
    (same : Arguments → Arguments → Prop) (job : ResearchJob) (record : EvidenceRecord)
    (observed : ObservedContent) : Prop where
  addresses : ∃ again,
    refetchArguments checker.rules record (some observed.invocation) = some (some again) ∧
      same observed.arguments again
  unchanged : ∀ {World : Type}
    (handler : Handler GatewayCall GatewayCall.Answer GatewayFault World) world again principal
    result checked, tool.Serves observed.capability.key handler →
      refetchArguments checker.rules record (some observed.invocation) = some (some again) →
      principalFor job .researcher = .ok principal →
      (interpret handler (checker.gateway.invoke (GatewaySourceChecker.rereadRequest job record
        observed.invocation principal again)) world).outcome = .ok result →
      (interpret handler (checker.check job record (some observed.invocation))
        world).outcome = .ok checked →
      checked.status = .unchanged

section Verdicts

variable {checker : GatewaySourceChecker} {tool : ServerTool} {job : ResearchJob}
  {record : EvidenceRecord} {observed : ObservedContent}

theorem Capture.restsOn (capture : Capture checker tool job record observed) :
    ∃ taskId claim, RestsOn checker.python taskId claim observed
      record.toEvidenceRecordCreate := by
  obtain ⟨claims, ledger, taskId, now, submission, verified, member, found⟩ := capture.verified
  obtain ⟨claim, -, other, named, rests⟩ := restsOn_of_verifyClaims verified _ member
  rw [← rests.sameInvocation, found] at named
  obtain rfl := Option.some.inj named
  exact ⟨taskId, claim, rests⟩

/-- The captured excerpt occurs in what was observed. -/
theorem Capture.occurs (composes : checker.python.Composes)
    (capture : Capture checker tool job record observed) :
    checker.python.Occurs record.excerpt.val observed.text := by
  obtain ⟨taskId, claim, rests⟩ := capture.restsOn
  have occurs := rests.occurs
  unfold PythonText.Occurs at occurs ⊢
  rwa [rests.normalized, composes.normalizeText_normalizeText]

/-- An invocation that returns is taken as it is. -/
theorem GatewaySourceChecker.outcome_attempt {World : Type}
    {handler : Handler GatewayCall GatewayCall.Answer GatewayFault World} {world : World}
    {invocation : Governed InvocationResult} {result : InvocationResult}
    (returned : (interpret handler invocation world).outcome = .ok result) :
    (interpret handler (attempt invocation) world).outcome = .ok (.ok result) := by
  have first : (interpret handler
      (invocation.bind fun result => (return .ok result : Governed (Except String _)))
      world).outcome = .ok (.ok result) := by
    rw [interpret_bind]
    simp only [returned]
    rfl
  rw [attempt, interpret_rescue]
  simp only [first]

/-- A check whose re-read returned says whether the excerpt occurs in what it returned. -/
theorem GatewaySourceChecker.verdict_of_check {World : Type}
    {handler : Handler GatewayCall GatewayCall.Answer GatewayFault World} {world : World}
    {again : Arguments} {principal : Principal} {result : InvocationResult}
    {checked : SourceCheck}
    (refetched : refetchArguments checker.rules record (some observed.invocation) =
      some (some again))
    (made : principalFor job .researcher = .ok principal)
    (returned : (interpret handler (checker.gateway.invoke (rereadRequest job record
      observed.invocation principal again)) world).outcome = .ok result)
    (ended : (interpret handler (checker.check job record (some observed.invocation))
      world).outcome = .ok checked) :
    ∃ now, checked = checker.verdict record now (.ok result) := by
  have runs : RunsTo handler (checker.check job record (some observed.invocation)) world
      checked _ := ⟨ended, rfl⟩
  unfold check at runs
  simp only [refetched] at runs
  obtain ⟨agent, isPrincipal, runs⟩ := runsTo_lift_bind.mp runs
  obtain rfl : principal = agent :=
    Except.ok.inj (made.symm.trans (mapError_eq_ok.mp isPrincipal))
  obtain ⟨reread, between, ⟨attempted, -⟩, runs⟩ := runsTo_bind.mp runs
  obtain rfl := Except.ok.inj ((outcome_attempt returned).symm.trans attempted)
  obtain ⟨now, later, -, finished⟩ := runsTo_perform_bind.mp runs
  exact ⟨now, (Except.ok.inj finished.1).symm⟩

/-- When the arguments read the same text, the source is found unchanged. -/
theorem Readdressed.of_same {same : Arguments → Arguments → Prop}
    (composes : checker.python.Composes)
    (capture : Capture checker tool job record observed) {again : Arguments}
    (refetched : refetchArguments checker.rules record (some observed.invocation) =
      some (some again))
    (isSame : same observed.arguments again)
    (rereads : ∀ first second raw other, first.tenantId = observed.invocation.tenantId →
      second.tenantId = observed.invocation.tenantId →
      tool ⟨observed.capability, first, observed.arguments⟩ = .ok raw →
      tool ⟨observed.capability, second, again⟩ = .ok other → other = raw) :
    Readdressed checker tool same job record observed where
  addresses := ⟨again, refetched, isSame⟩
  unchanged := by
    intro World handler world arguments principal result checked serves addressed made
      returned ended
    obtain rfl : again = arguments :=
      Option.some.inj (Option.some.inj (refetched.symm.trans addressed))
    obtain ⟨capability, resolved, served⟩ := serves.returned returned
    have found := (CapabilityRegistry.resolveFor_eq_ok_iff.mp resolved).1
    obtain rfl : observed.capability = capability :=
      Except.ok.inj (capture.fromTool.registered.symm.trans found)
    obtain ⟨other, answered, content⟩ := served.content
    obtain ⟨first, raw, ofTenant, observedRaw, text⟩ := capture.fromTool.answered
    have sameText : other = raw := by
      have tenant : principal.tenantId = observed.invocation.tenantId :=
        (principalFor_eq_ok made).1.trans capture.ofTenant
      exact rereads first principal raw other ofTenant tenant observedRaw (answered rfl)
    have occurs : checker.python.Occurs record.excerpt.val result.content.text := by
      rw [content, sameText, ← text]
      exact capture.occurs composes
    obtain ⟨now, rfl⟩ := checker.verdict_of_check refetched made returned ended
    rw [GatewaySourceChecker.verdict, if_pos occurs]

end Verdicts

/-! ## Workspace documents -/

/-- Both calls name the same document of a workspace. -/
def SameDocument (first second : Arguments) : Prop :=
  ∃ path other parts, first.get? "path" = some (.text path) ∧
    second.get? "path" = some (.text other) ∧
    rejectTraversal path = .ok parts ∧ rejectTraversal other = .ok parts

/-- The tenant and the path come out of a URI as they went in: the tenant is a netloc, and
nothing in the path ends it or is removed. -/
structure Addressable (rules : Url.Rules) (tenantId path : String) : Prop where
  tenant : ∀ char ∈ tenantId.toList, Url.endsNetloc char = false
  netloc : rules.acceptsNetloc (Url.clean tenantId.toList) = true
  path : ∀ char ∈ trim path.toList,
    char ≠ '?' ∧ char ≠ '#' ∧ Url.isRemoved char = false

/-- A text up to its first `?` or `#`. -/
def upToQuery (text : List Char) : List Char := (Url.cut '?' (Url.cut '#' text).1).1

/-- The tenant has a slash, and what it says from there on comes before the path; together
they happen to name the document that the path names. -/
def Detours (rules : Url.Rules) (tenantId path : String) : Prop :=
  ∃ netloc detour parts, Url.clean tenantId.toList = netloc ++ '/' :: detour ∧
    (∀ char ∈ netloc, Url.endsNetloc char = false) ∧ rules.acceptsNetloc netloc = true ∧
    rejectTraversal path = .ok parts ∧
    rejectTraversal (String.ofList
      ((upToQuery (detour ++ '/' :: Url.clean path.toList)).dropWhile (· = '/'))) = .ok parts

/-- The scheme of a document's URI. -/
def workspaceScheme : List Char := "workspace".toList

/-- The URI that evidence from a document carries. -/
def documentUri (tenantId path : String) : List Char :=
  workspaceScheme ++ ':' :: '/' :: '/' ::
    (tenantId.toList ++ '/' :: path.toList.dropWhile (· = '/'))

section Documents

variable {rules : Url.Rules} {tenantId path : String} {parts : List (List Char)}

theorem toList_documentUri :
    ("workspace://" ++ tenantId ++ "/" ++
      String.ofList (path.toList.dropWhile (· = '/'))).toList = documentUri tenantId path := by
  have scheme : "workspace://".toList = workspaceScheme ++ [':', '/', '/'] := by decide
  have slash : "/".toList = ['/'] := by decide
  unfold documentUri
  generalize path.toList.dropWhile (· = '/') = rest
  have last : (String.ofList rest).toList = rest := String.toList_ofList
  generalize String.ofList rest = written at last ⊢
  generalize "workspace://" = opening at scheme ⊢
  generalize "/" = bar at slash ⊢
  simp only [String.toList_append, scheme, slash, last, List.append_assoc, List.cons_append,
    List.nil_append]

theorem urlsplit_documentUri :
    rules.urlsplit (documentUri tenantId path) =
      rules.splitHierarchy workspaceScheme ('/' :: '/' ::
        (Url.clean tenantId.toList ++ '/' :: Url.clean (path.toList.dropWhile (· = '/')))) := by
  have named : Url.isScheme workspaceScheme = true := by decide
  have lower : workspaceScheme.map Char.toLower = workspaceScheme := by decide
  have slash : Url.isRemoved '/' = false := by decide
  rw [documentUri, Url.Rules.urlsplit_scheme named, lower, Url.clean_cons slash,
    Url.clean_cons slash, Url.clean_append, Url.clean_cons slash]

/-- An accepted path does not begin with a slash. -/
theorem head?_ne_slash (accepted : rejectTraversal path = .ok parts) :
    path.toList.head? ≠ some '/' := by
  obtain ⟨notEmpty, relative, -⟩ := rejectTraversal_eq_ok.mp accepted
  obtain ⟨before, after, whole, beforeBlank, afterBlank⟩ := exists_trim path.toList
  intro leading
  have solid : isWhitespace '/' = false := by decide
  have named : trim path.toList ≠ [] := by
    intro isEmpty
    rw [candidatePath, isEmpty] at notEmpty
    exact notEmpty rfl
  cases before with
  | nil =>
      rw [whole, List.nil_append, List.head?_append_of_ne_nil _ named] at leading
      rw [candidatePath, forwardSlashes, List.head?_map, leading] at relative
      exact relative rfl
  | cons first rest =>
      rw [whole, List.cons_append, List.cons_append, List.head?_cons] at leading
      obtain rfl := Option.some.inj leading
      have blank := beforeBlank '/' List.mem_cons_self
      rw [solid] at blank
      cases blank

theorem dropWhile_slash_of_head? {text : List Char} (relative : text.head? ≠ some '/') :
    text.dropWhile (· = '/') = text := by
  cases text with
  | nil => rfl
  | cons first rest =>
      have other : ¬ decide (first = '/') = true := by
        intro same
        exact relative (by rw [List.head?_cons, of_decide_eq_true same])
      exact List.dropWhile_cons_of_neg other

/-- What is left of a path, without the characters that are removed, is the same path. -/
theorem rejectTraversal_clean (accepted : rejectTraversal path = .ok parts)
    (safe : ∀ char ∈ trim path.toList, Url.isRemoved char = false) :
    rejectTraversal (String.ofList (Url.clean path.toList)) = .ok parts := by
  apply rejectTraversal_of_trim ?_ accepted
  obtain ⟨before, after, whole, beforeBlank, afterBlank⟩ := exists_trim path.toList
  have blank {text : List Char} (each : ∀ char ∈ text, isWhitespace char = true) :
      ∀ char ∈ Url.clean text, isWhitespace char = true := fun char member =>
    each char (Url.mem_clean.mp member).1
  have cleaned : Url.clean path.toList =
      Url.clean before ++ trim path.toList ++ Url.clean after := by
    conv_lhs => rw [whole]
    rw [Url.clean_append, Url.clean_append, Url.clean_eq_self safe]
  rw [String.toList_ofList, cleaned,
    trim_around (blank beforeBlank) (trimmed_trim _) (blank afterBlank)]

/-- An addressable document comes back, but for characters that are removed. -/
theorem urlsplit_of_addressable (addressable : Addressable rules tenantId path)
    (accepted : rejectTraversal path = .ok parts) :
    ∃ split, rules.urlsplit (documentUri tenantId path) = some split ∧
      split.path.dropWhile (· = '/') = Url.clean path.toList := by
  have inside : ∀ char ∈ Url.clean tenantId.toList, Url.endsNetloc char = false :=
    fun char member => addressable.tenant char (Url.mem_clean.mp member).1
  have stops (rest : List Char) :
      ∀ char ∈ ('/' :: rest).head?, Url.endsNetloc char = true := by
    intro char isFirst
    obtain rfl := Option.some.inj isFirst
    decide
  have absent (mark : Char) (isMark : mark = '?' ∨ mark = '#') :
      mark ∉ '/' :: Url.clean path.toList := by
    intro member
    have solid : isWhitespace mark = false := by
      rcases isMark with rfl | rfl <;> decide
    have other : mark ≠ '/' := by
      rcases isMark with rfl | rfl <;> decide
    have later := (List.mem_cons.mp member).resolve_left other
    obtain ⟨noQuery, noFragment, -⟩ :=
      addressable.path mark (mem_trim_of_mem solid (Url.mem_clean.mp later).1)
    rcases isMark with same | same
    · exact noQuery same
    · exact noFragment same
  have relative : (Url.clean path.toList).head? ≠ some '/' := by
    have cleaned := rejectTraversal_clean accepted fun char member =>
      (addressable.path char member).2.2
    simpa only [String.toList_ofList] using head?_ne_slash cleaned
  refine ⟨⟨workspaceScheme, Url.clean tenantId.toList, '/' :: Url.clean path.toList, [], []⟩,
    ?_, ?_⟩
  · rw [urlsplit_documentUri, dropWhile_slash_of_head? (head?_ne_slash accepted),
      Url.Rules.splitHierarchy_netloc inside (stops _), if_pos addressable.netloc,
      Url.cut_of_notMem (absent '#' (Or.inr rfl)), Url.cut_of_notMem (absent '?' (Or.inl rfl))]
  · rw [List.dropWhile_cons_of_pos (by simp), dropWhile_slash_of_head? relative]

theorem isRemoved_of_endsNetloc {char : Char} (ends : Url.endsNetloc char = true) :
    Url.isRemoved char = false := by
  unfold Url.endsNetloc at ends
  rw [Bool.or_eq_true, Bool.or_eq_true] at ends
  simp only [decide_eq_true_eq] at ends
  rcases ends with (rfl | rfl) | rfl <;> decide

theorem upToQuery_slash (text : List Char) :
    upToQuery ('/' :: text) = '/' :: upToQuery text := by
  rw [upToQuery, Url.cut_cons_of_ne (by decide), Url.cut_cons_of_ne (by decide)]
  rfl

/-- A URI whose tenant ends its own netloc, when its netloc is accepted. -/
theorem urlsplit_of_ends (rules : Url.Rules) {netloc rest : List Char} {first : Char}
    (accepted : rejectTraversal path = .ok parts)
    (whole : Url.clean tenantId.toList = netloc ++ first :: rest)
    (inside : ∀ char ∈ netloc, Url.endsNetloc char = false)
    (ends : Url.endsNetloc first = true) :
    ∃ query fragment, rules.urlsplit (documentUri tenantId path) =
      if rules.acceptsNetloc netloc then
        some ⟨workspaceScheme, netloc,
          upToQuery (first :: (rest ++ '/' :: Url.clean path.toList)), query, fragment⟩
      else none := by
  have stops (more : List Char) :
      ∀ char ∈ (first :: more).head?, Url.endsNetloc char = true := by
    intro char isFirst
    rwa [← Option.some.inj isFirst]
  have text : rules.urlsplit (documentUri tenantId path) =
      rules.splitHierarchy workspaceScheme ('/' :: '/' ::
        (netloc ++ first :: (rest ++ '/' :: Url.clean path.toList))) := by
    rw [urlsplit_documentUri, dropWhile_slash_of_head? (head?_ne_slash accepted), whole,
      List.append_assoc, List.cons_append]
  exact ⟨_, _, text.trans (Url.Rules.splitHierarchy_netloc inside (stops _))⟩

/-- A tenant that is a netloc has an addressable document when the document comes back. -/
theorem addressable_of_urlsplit {split : Url.SplitResult}
    (accepted : rejectTraversal path = .ok parts)
    (inside : ∀ char ∈ Url.clean tenantId.toList, Url.endsNetloc char = false)
    (found : rules.urlsplit (documentUri tenantId path) = some split)
    (again : rejectTraversal (String.ofList (split.path.dropWhile (· = '/'))) = .ok parts) :
    Addressable rules tenantId path := by
  obtain ⟨rest, hierarchy⟩ := Url.Rules.hierarchy_of_urlsplit found
  have chars := hierarchy.path_chars
  have slash : ∀ char ∈ ('/' :: Url.clean (path.toList.dropWhile (· = '/'))).head?,
      Url.endsNetloc char = true := by
    intro char isFirst
    obtain rfl := Option.some.inj isFirst
    decide
  rw [urlsplit_documentUri, Url.Rules.splitHierarchy_netloc inside slash] at found
  refine ⟨?_, ?_, ?_⟩
  · intro char member
    by_contra ends
    have kept : Url.isRemoved char = false :=
      isRemoved_of_endsNetloc (Bool.of_not_eq_false ends)
    exact ends (inside char (Url.mem_clean.mpr ⟨member, kept⟩))
  · by_contra refused
    rw [if_neg refused] at found
    cases found
  · intro char member
    by_contra special
    have stays : ∀ other, other = '/' ∨ other = '.' ∨ other = '\\' → char ≠ other := by
      rintro other (rfl | rfl | rfl) rfl <;> exact special (by decide)
    have inParts := (mem_trim_of_rejectTraversal (stays '/' (by simp)) (stays '.' (by simp))
      (stays '\\' (by simp)) accepted).mp member
    have inAgain := (mem_trim_of_rejectTraversal (stays '/' (by simp)) (stays '.' (by simp))
      (stays '\\' (by simp)) again).mpr inParts
    have inPath := mem_of_mem_trim inAgain
    rw [String.toList_ofList] at inPath
    exact special (chars char ((List.dropWhile_suffix _).subset inPath))

/-- The documents that come back. -/
theorem comesBack_iff (accepted : rejectTraversal path = .ok parts) :
    (∃ split, rules.urlsplit (documentUri tenantId path) = some split ∧
        rejectTraversal (String.ofList (split.path.dropWhile (· = '/'))) = .ok parts) ↔
      Addressable rules tenantId path ∨ Detours rules tenantId path := by
  constructor
  · rintro ⟨split, found, again⟩
    obtain ⟨netloc, tail, whole, inside, stops⟩ :=
      Url.exists_netloc (Url.clean tenantId.toList)
    cases tail with
    | nil =>
        rw [List.append_nil] at whole
        rw [← whole] at inside
        exact Or.inl (addressable_of_urlsplit accepted inside found again)
    | cons first rest =>
        have ends : Url.endsNetloc first = true := stops first rfl
        obtain ⟨query, fragment, splits⟩ :=
          urlsplit_of_ends rules accepted whole inside ends
        rw [found] at splits
        split at splits
        · rename_i isNetloc
          obtain rfl := Option.some.inj splits
          by_cases slash : first = '/'
          · subst slash
            refine Or.inr ⟨netloc, rest, parts, whole, inside, isNetloc, accepted, ?_⟩
            rw [upToQuery_slash, List.dropWhile_cons_of_pos (by simp)] at again
            exact again
          · -- What the tenant says after a `?` or a `#` is no path.
            rw [upToQuery, Url.path_of_ends ends slash] at again
            exact absurd rfl (rejectTraversal_eq_ok.mp again).1
        · cases splits
  · rintro (addressable | ⟨netloc, detour, others, whole, inside, isNetloc, isPath, again⟩)
    · obtain ⟨split, found, cleaned⟩ := urlsplit_of_addressable addressable accepted
      refine ⟨split, found, ?_⟩
      rw [cleaned]
      exact rejectTraversal_clean accepted fun char member => (addressable.path char member).2.2
    · obtain rfl := Except.ok.inj (isPath.symm.trans accepted)
      obtain ⟨query, fragment, splits⟩ :=
        urlsplit_of_ends rules accepted whole inside (by decide)
      rw [if_pos isNetloc] at splits
      refine ⟨_, splits, ?_⟩
      rw [upToQuery_slash, List.dropWhile_cons_of_pos (by simp)]
      exact again

end Documents

/-! ## Both kinds of source -/

/-- Both calls name the same page. -/
def SameUrl (library : WebLibrary) (policy : DomainPolicy) (first second : Arguments) : Prop :=
  ∃ url other normalized, first.get? "url" = some (.text url) ∧
    second.get? "url" = some (.text other) ∧
    library.normalizeSourceUrl policy url = .ok normalized ∧
    library.normalizeSourceUrl policy other = .ok normalized

/-- The `fetch` tool of web research, while the pages stay as they are. -/
def WebLibrary.fetchCall (library : WebLibrary) (policy : DomainPolicy)
    (pages : String → Except UpstreamError String) : ServerTool := fun execution =>
  match textArgument execution.sent "tenant_id", textArgument execution.sent "url" with
  | some tenantId, some url =>
      if strip tenantId = "" then
        .error ⟨"a web research call must identify its tenant", .invalidArguments⟩
      else
        match library.normalizeSourceUrl policy url with
        | .ok normalized => pages normalized
        | .error (.sourceNotAllowed message) =>
            .error ⟨"source refused: " ++ message, .invalidArguments⟩
        | .error .valueError => .error ⟨"the URL cannot be read", .upstreamUnavailable⟩
  | _, _ => .error ⟨"validation error for fetch", .invalidArguments⟩

section Sources

theorem textArgument_eq_some {arguments : Arguments} {name text : String} :
    textArgument arguments name = some text ↔ arguments.get? name = some (.text text) := by
  unfold textArgument
  split
  · rename_i found
    simp [found]
  · rename_i other
    constructor
    · intro impossible
      cases impossible
    · intro found
      exact absurd found (other text)

variable {execution : ExecutionRequest}

theorem textArgument_sent_tenant :
    textArgument execution.sent "tenant_id" = some execution.principal.tenantId :=
  textArgument_eq_some.mpr (Dict.get?_set_self ..)

theorem textArgument_sent_of_ne {name : String} (other : name ≠ "tenant_id") :
    textArgument execution.sent name = textArgument execution.arguments name := by
  rw [textArgument, ExecutionRequest.sent, Dict.get?_set_of_ne _ _ other]
  rfl

/-- A page that was fetched was named by a URL that is accepted. -/
theorem WebLibrary.fetchCall_eq_ok {library : WebLibrary} {policy : DomainPolicy}
    {pages : String → Except UpstreamError String} {raw : String}
    (answered : library.fetchCall policy pages execution = .ok raw) :
    ∃ url normalized, execution.arguments.get? "url" = some (.text url) ∧
      library.normalizeSourceUrl policy url = .ok normalized ∧ pages normalized = .ok raw := by
  unfold fetchCall at answered
  rw [textArgument_sent_tenant, textArgument_sent_of_ne (by decide)] at answered
  cases named : textArgument execution.arguments "url" with
  | none => simp [named] at answered
  | some url =>
      simp only [named] at answered
      split at answered
      · cases answered
      · cases normal : library.normalizeSourceUrl policy url with
        | ok normalized =>
            rw [normal] at answered
            exact ⟨url, normalized, textArgument_eq_some.mp named, normal, answered⟩
        | error error =>
            rw [normal] at answered
            cases error <;> cases answered

/-- The documents that are read are those that a path names. -/
theorem FilesystemService.readDocumentCall_eq_ok {service : FilesystemService} {raw : String} :
    service.readDocumentCall execution = .ok raw ↔
      ∃ path, execution.arguments.get? "path" = some (.text path) ∧
        service.readDocument execution.principal.tenantId path = .ok raw := by
  unfold readDocumentCall
  rw [textArgument_sent_tenant, textArgument_sent_of_ne (by decide)]
  simp only [← textArgument_eq_some]
  cases named : textArgument execution.arguments "path" with
  | none => simp
  | some path =>
      simp only [mapError_eq_ok]
      constructor
      · exact fun read => ⟨path, rfl, read⟩
      · rintro ⟨other, same, read⟩
        rwa [Option.some.inj same]

variable {checker : GatewaySourceChecker} {job : ResearchJob} {record : EvidenceRecord}
  {observed : ObservedContent}

theorem Capture.readdressed_of_fetch {library : WebLibrary} {policy : DomainPolicy}
    {pages : String → Except UpstreamError String} (composes : checker.python.Composes)
    (capture : Capture checker (library.fetchCall policy pages) job record observed)
    (fetched : observed.capability.key = ("web-research", "fetch")) :
    Readdressed checker (library.fetchCall policy pages) (SameUrl library policy) job record
      observed := by
  obtain ⟨taskId, claim, rests⟩ := capture.restsOn
  obtain ⟨principal, raw, -, answered, -⟩ := capture.fromTool.answered
  obtain ⟨url, normalized, named, normal, -⟩ := WebLibrary.fetchCall_eq_ok answered
  have source : record.sourceUri.val = strip url := by
    rw [rests.sameSource, ObservedContent.sourceUri, sourceOf, if_pos fetched]
    simp [named, PythonText.str]
  have sameKey : (observed.invocation.mcpServer, observed.invocation.capability) =
      ("web-research", "fetch") := by
    rw [capture.fromTool.server, capture.fromTool.name]
    exact fetched
  have refetched : refetchArguments checker.rules record (some observed.invocation) =
      some (some ((∅ : Arguments).set "url" (.text (strip url)))) := by
    rw [refetchArguments, if_pos sameKey, source]
  have addressed : ((∅ : Arguments).set "url" (.text (strip url))).get? "url" =
      some (.text (strip url)) := Dict.get?_set_self ..
  have normalAgain : library.normalizeSourceUrl policy (strip url) = .ok normalized :=
    (library.normalizeSourceUrl_strip policy url).trans normal
  apply Readdressed.of_same composes capture refetched
    ⟨url, strip url, normalized, named, addressed, normal, normalAgain⟩
  intro first second text other _ _ answeredFirst answeredSecond
  obtain ⟨urlFirst, pageFirst, namedFirst, normalFirst, readFirst⟩ :=
    WebLibrary.fetchCall_eq_ok answeredFirst
  obtain ⟨urlSecond, pageSecond, namedSecond, normalSecond, readSecond⟩ :=
    WebLibrary.fetchCall_eq_ok answeredSecond
  obtain rfl : url = urlFirst := by simpa using named.symm.trans namedFirst
  obtain rfl : strip url = urlSecond := by simpa using addressed.symm.trans namedSecond
  obtain rfl := Except.ok.inj (normal.symm.trans normalFirst)
  obtain rfl := Except.ok.inj (normalAgain.symm.trans normalSecond)
  exact Except.ok.inj (readSecond.symm.trans readFirst)

/-- The URI of a document, and how it is read back. -/
theorem Capture.refetch_document {service : FilesystemService} {path : String}
    (capture : Capture checker service.readDocumentCall job record observed)
    (read : observed.capability.key = ("filesystem", "read_document"))
    (named : observed.arguments.get? "path" = some (.text path)) :
    refetchArguments checker.rules record (some observed.invocation) =
      (checker.rules.urlsplit (documentUri observed.invocation.tenantId path)).map fun split =>
        some ((∅ : Arguments).set "path"
          (.text (String.ofList (split.path.dropWhile (· = '/'))))) := by
  obtain ⟨taskId, claim, rests⟩ := capture.restsOn
  have notFetched : ("filesystem", "read_document") ≠ ("web-research", "fetch") := by decide
  have source : record.sourceUri.val.toList =
      documentUri observed.invocation.tenantId path := by
    rw [rests.sameSource, ObservedContent.sourceUri, sourceOf, read, if_neg notFetched,
      if_pos rfl]
    simp only [named]
    exact toList_documentUri
  have sameKey : (observed.invocation.mcpServer, observed.invocation.capability) =
      ("filesystem", "read_document") := by
    rw [capture.fromTool.server, capture.fromTool.name]
    exact read
  rw [refetchArguments, sameKey, if_neg notFetched, if_pos rfl, source]

/-- A document is addressed again when its path comes back. -/
theorem Capture.readdressed_iff {service : FilesystemService} {path : String}
    (composes : checker.python.Composes)
    (capture : Capture checker service.readDocumentCall job record observed)
    (read : observed.capability.key = ("filesystem", "read_document"))
    (named : observed.arguments.get? "path" = some (.text path)) :
    Readdressed checker service.readDocumentCall SameDocument job record observed ↔
      Addressable checker.rules observed.invocation.tenantId path ∨
        Detours checker.rules observed.invocation.tenantId path := by
  obtain ⟨principal, raw, ofTenant, answered, -⟩ := capture.fromTool.answered
  obtain ⟨_, namedHere, document⟩ := FilesystemService.readDocumentCall_eq_ok.mp answered
  obtain rfl : path = _ := by simpa using named.symm.trans namedHere
  obtain ⟨parts, -, accepted, -⟩ := FilesystemService.exists_resolved_of_readDocument document
  have refetched := capture.refetch_document read named
  rw [← comesBack_iff accepted]
  constructor
  · intro readdressed
    obtain ⟨again, addresses, _, other, parts, namedHere, addressed, isPath, acceptedAgain⟩ :=
      readdressed.addresses
    obtain rfl : path = _ := by simpa using named.symm.trans namedHere
    obtain rfl := Except.ok.inj (isPath.symm.trans accepted)
    rw [refetched] at addresses
    obtain ⟨split, found, same⟩ := Option.map_eq_some_iff.mp addresses
    obtain rfl := Option.some.inj same
    refine ⟨split, found, ?_⟩
    have isOther : String.ofList (split.path.dropWhile (· = '/')) = other := by
      simpa using (Dict.get?_set_self ..).symm.trans addressed
    rwa [isOther]
  · rintro ⟨split, found, acceptedAgain⟩
    rw [found, Option.map_some] at refetched
    generalize String.ofList (split.path.dropWhile (· = '/')) = other at acceptedAgain refetched
    have addressed : ((∅ : Arguments).set "path" (.text other)).get? "path" =
        some (.text other) := Dict.get?_set_self ..
    apply Readdressed.of_same composes capture refetched
      ⟨path, other, parts, named, addressed, accepted, acceptedAgain⟩
    intro first second text again firstTenant secondTenant answeredFirst answeredSecond
    obtain ⟨_, namedFirst, readFirst⟩ :=
      FilesystemService.readDocumentCall_eq_ok.mp answeredFirst
    obtain ⟨_, namedSecond, readSecond⟩ :=
      FilesystemService.readDocumentCall_eq_ok.mp answeredSecond
    obtain rfl : path = _ := by simpa using named.symm.trans namedFirst
    obtain rfl : other = _ := by simpa using addressed.symm.trans namedSecond
    have readAgain :=
      FilesystemService.readDocument_of_parts accepted acceptedAgain readFirst
    have sameTenant : first.tenantId = second.tenantId := firstTenant.trans secondTenant.symm
    rw [sameTenant] at readAgain
    exact Except.ok.inj (readSecond.symm.trans readAgain)

/-- No detour without a slash. -/
theorem not_detours {rules : Url.Rules} {tenantId path : String}
    (noSlash : '/' ∉ tenantId.toList) : ¬ Detours rules tenantId path := by
  rintro ⟨netloc, detour, parts, whole, -⟩
  have member : '/' ∈ Url.clean tenantId.toList := by
    rw [whole]
    exact List.mem_append_right netloc List.mem_cons_self
  exact noSlash (Url.mem_clean.mp member).1

end Sources

/-- A page is always addressed again by the URL it was fetched from.  A workspace document
is exactly when the tenant and the path are addressable, or the tenant has a slash and makes
a detour; so for a tenant without a slash they must be addressable. -/
theorem sources_readdressed {checker : GatewaySourceChecker} {library : WebLibrary}
    {policy : DomainPolicy} {pages : String → Except UpstreamError String}
    {service : FilesystemService} (composes : checker.python.Composes) :
    (∀ job record observed,
      Capture checker (library.fetchCall policy pages) job record observed →
      observed.capability.key = ("web-research", "fetch") →
      Readdressed checker (library.fetchCall policy pages) (SameUrl library policy) job record
        observed) ∧
    ∀ job record observed path, Capture checker service.readDocumentCall job record observed →
      observed.capability.key = ("filesystem", "read_document") →
      observed.arguments.get? "path" = some (.text path) →
      (Readdressed checker service.readDocumentCall SameDocument job record observed ↔
        Addressable checker.rules observed.invocation.tenantId path ∨
          Detours checker.rules observed.invocation.tenantId path) ∧
      ('/' ∉ observed.invocation.tenantId.toList →
        ¬ Detours checker.rules observed.invocation.tenantId path) := by
  refine ⟨fun _ _ _ capture fetched => capture.readdressed_of_fetch composes fetched, ?_⟩
  intro job record observed path capture read named
  exact ⟨capture.readdressed_iff composes read named, not_detours⟩

namespace PriceNotes

/-- Two notes, the older one with a `#` in its name. -/
def service : FilesystemService where
  roots := (∅ : Dict String Workspace).set "acme" fun parts =>
    { name := String.ofList (parts.getLast?.getD [])
      suffix := ".md"
      content := utf8 (if parts = ["notes.md".toList] then "it costs 43" else "it costs 42") }

def capability : Capability where
  server := ⟨"filesystem", by decide⟩
  name := ⟨"read_document", by decide⟩
  allowedAgents := {.researcher}
  maxAccessClass := .internal

def checker : GatewaySourceChecker where
  gateway := ⟨(CapabilityRegistry.ofList [capability]).toOption.getD {}, true⟩
  python := SumResearch.activities.python
  rules := ⟨id, List.map Char.toLower, fun _ => false⟩

def invocation : ToolInvocation where
  id := 7
  jobId := 1
  taskId := 2
  tenantId := "acme"
  mcpServer := "filesystem"
  capability := "read_document"
  sanitizedArguments := ∅
  argumentDigest := argumentDigest ∅
  policyVersion := "v1"
  authorizationDecision := .allow
  outcome := .succeeded
  errorClass := .none
  startedAt := 0
  durationMs := none
  valid := by decide +kernel

def observed (path text : String) : ObservedContent where
  invocation := invocation
  capability := capability
  arguments := (∅ : Arguments).set "path" (.text path)
  text := text

def claims (text : NonEmptyText) : EvidenceClaims where
  claims := [{ excerpt := text, toolInvocationId := 7 }]
  claimsInRange := by simp
  unmetBounded := noTexts_bounded

/-- What the claims verify against the call. -/
def verified (path : String) (text : NonEmptyText) :
    Except ProvenanceError EvidenceSubmission :=
  verifyClaims checker.python (claims text)
    ((∅ : EvidenceLedger).set 7 (observed path text.val)) 2 fun _ => 0

def record (command : EvidenceRecordCreate) : EvidenceRecord :=
  { toEvidenceRecordCreate := command, id := 9, jobId := 1, tenantId := "acme", retrievedAt := 0 }

/-- A call whose document reads so is captured. -/
theorem captures {path : String} {text : NonEmptyText} {submission : EvidenceSubmission}
    (verifies : verified path text = .ok submission)
    (reads : service.readDocument "acme" path = .ok text.val)
    (kept : (sanitizeResult text.val capability.maxResultBytes).text = text.val) :
    ∃ command, Capture checker service.readDocumentCall SumResearch.job (record command)
      (observed path text.val) := by
  obtain ⟨command, member⟩ := List.exists_mem_of_length_pos
    (Nat.lt_of_lt_of_le Nat.zero_lt_one submission.recordsInRange.1)
  obtain ⟨claim, isClaim, _, -, rests⟩ := restsOn_of_verifyClaims verifies command member
  have named : command.toolInvocationId = 7 := by
    rw [rests.sameInvocation, List.mem_singleton.mp isClaim]
  refine ⟨command, ⟨_, _, _, _, submission, verifies, member, ?_⟩, ⟨?_, rfl, rfl, ?_⟩, rfl⟩
  · change Dict.get? _ command.toolInvocationId = _
    rw [named]
    exact Dict.get?_set_self ..
  · rfl
  · obtain ⟨principal, made⟩ : ∃ principal,
        principalFor SumResearch.job .researcher = .ok principal := ⟨_, rfl⟩
    have ofTenant : principal.tenantId = "acme" := (principalFor_eq_ok made).1
    refine ⟨principal, text.val, ofTenant, ?_, kept.symm⟩
    refine FilesystemService.readDocumentCall_eq_ok.mpr ⟨path, Dict.get?_set_self .., ?_⟩
    rw [ofTenant]
    exact reads

def oldText : NonEmptyText := ⟨"it costs 42", by decide⟩

def newText : NonEmptyText := ⟨"it costs 43", by decide⟩

theorem captures_old : ∃ command, Capture checker service.readDocumentCall SumResearch.job
    (record command) (observed "notes.md#old.md" oldText.val) := by
  have verifies : (verified "notes.md#old.md" oldText).toOption.isSome := by decide +kernel
  cases outcome : verified "notes.md#old.md" oldText with
  | ok submission => exact captures outcome (by decide +kernel) (by decide +kernel)
  | error error => simp [outcome, Except.toOption] at verifies

theorem captures_new : ∃ command, Capture checker service.readDocumentCall SumResearch.job
    (record command) (observed "notes.md" newText.val) := by
  have verifies : (verified "notes.md" newText).toOption.isSome := by decide +kernel
  cases outcome : verified "notes.md" newText with
  | ok submission => exact captures outcome (by decide +kernel) (by decide +kernel)
  | error error => simp [outcome, Except.toOption] at verifies

end PriceNotes

open PriceNotes

theorem sources_readdressed_at_notes : ∃ command,
    Readdressed checker service.readDocumentCall SameDocument SumResearch.job (record command)
      (observed "notes.md" newText.val) := by
  obtain ⟨command, capture⟩ := captures_new
  have sources := @sources_readdressed checker ⟨checker.rules, fun _ => none⟩ ⟨∅, true⟩
    (fun _ => .ok "") service SumEvidence.composes
  have both := sources.2 _ _ _ _ capture rfl rfl
  refine ⟨command, both.1.mpr (Or.inl ⟨?_, by decide +kernel, ?_⟩)⟩
  · exact List.all_iff_forall_prop.mp (by decide +kernel)
  · exact List.all_iff_forall_prop.mp (by decide +kernel)

/-- The note with a `#` in its name is read again as the other one, which says otherwise. -/
theorem note_isAnother : ∃ command,
    Capture checker service.readDocumentCall SumResearch.job (record command)
        (observed "notes.md#old.md" oldText.val) ∧
      refetchArguments checker.rules (record command) (some invocation) =
        some (some ((∅ : Arguments).set "path" (.text "notes.md"))) ∧
      service.readDocument "acme" "notes.md" = .ok newText.val ∧
      ¬ Readdressed checker service.readDocumentCall SameDocument SumResearch.job
        (record command) (observed "notes.md#old.md" oldText.val) := by
  obtain ⟨command, capture⟩ := captures_old
  refine ⟨command, capture, ?_, by decide +kernel, ?_⟩
  · refine (capture.refetch_document rfl rfl).trans ?_
    decide +kernel
  · intro readdressed
    rcases (capture.readdressed_iff SumEvidence.composes rfl rfl).mp readdressed with
      addressable | detours
    · exact absurd (List.all_iff_forall_prop.mpr addressable.path) (by decide +kernel)
    · exact not_detours (by decide) detours

end ResearchPlatform
