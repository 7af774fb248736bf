import ResearchPlatform.Foundation.Outcome
import ResearchPlatform.Mcp.WebResearch

/-!
# Where a fetch goes

Every request of a fetch is for a URL that the domain policy accepts, right after its host
was resolved to public addresses, and there are at most six of them.
-/

namespace ResearchPlatform

open Foundation Program

/-! ## What the boundary accepts -/

/-- What `normalize_source_url` checks of a URL that has been split. -/
structure WebLibrary.Approves (library : WebLibrary) (policy : DomainPolicy)
    (parts : Url.SplitResult) : Prop where
  scheme : parts.scheme.map Char.toLower ∈ allowedSchemes
  username : parts.username.getD [] = []
  password : parts.password.getD [] = []
  host : library.hostRefusal policy (library.hostOf parts) = none
  port : parts.port = some none ∨ parts.port = some (some 443)

/-- The URL is one that `normalize_source_url` accepts. -/
def WebLibrary.Accepts (library : WebLibrary) (policy : DomainPolicy) (url : String) : Prop :=
  ∃ normalized, library.normalizeSourceUrl policy url = .ok normalized

/-- The marks that a host without brackets cannot have. -/
def hostMarks : List Char := ['/', '?', '#', '@', ':', '[', '\t', '\r', '\n']

/-- What is documented of `str.lower`: it changes nothing the second time, a `%` is a
boundary to it, and it makes none of the marks that `urlsplit` looks for. -/
structure Lowers (lower : List Char → List Char) : Prop where
  empty : lower [] = []
  again : ∀ text, lower (lower text) = lower text
  zone : ∀ host zone, lower (host ++ '%' :: zone) = lower host ++ '%' :: lower zone
  marks : ∀ text, ∀ char ∈ lower text, char ∈ hostMarks → char ∈ text

section Boundary

variable {library : WebLibrary} {policy : DomainPolicy} {parts : Url.SplitResult}
  {url : String} {normalized : List Char}

theorem WebLibrary.normalizeParts_eq_ok :
    library.normalizeParts policy parts = .ok normalized ↔
      library.Approves policy parts ∧ fetchable (library.hostOf parts) parts = normalized := by
  unfold normalizeParts
  by_cases scheme : parts.scheme.map Char.toLower ∈ allowedSchemes
  · by_cases credentials : parts.username.getD [] ≠ [] ∨ parts.password.getD [] ≠ []
    · rw [if_neg (not_not.mpr scheme), if_pos credentials]
      constructor
      · intro impossible
        cases impossible
      · rintro ⟨approves, -⟩
        rcases credentials with user | secret
        · exact absurd approves.username user
        · exact absurd approves.password secret
    · obtain ⟨noUser, noSecret⟩ := not_or.mp credentials
      rw [if_neg (not_not.mpr scheme), if_neg credentials]
      cases refusal : library.hostRefusal policy (library.hostOf parts) with
      | some message =>
          constructor
          · intro impossible
            cases impossible
          · rintro ⟨approves, -⟩
            simp [approves.host] at refusal
      | none =>
          have approves (port : parts.port = some none ∨ parts.port = some (some 443)) :
              library.Approves policy parts :=
            ⟨scheme, not_not.mp noUser, not_not.mp noSecret, refusal, port⟩
          cases port : parts.port with
          | none =>
              constructor
              · intro impossible
                cases impossible
              · rintro ⟨other, -⟩
                rcases other.port with known | known
                · cases port.symm.trans known
                · cases port.symm.trans known
          | some number =>
              dsimp only
              by_cases other : ∃ value ∈ number, value ≠ 443
              · rw [if_pos other]
                obtain ⟨value, isPort, different⟩ := other
                constructor
                · intro impossible
                  cases impossible
                · rintro ⟨approved, -⟩
                  obtain rfl := Option.mem_def.mp isPort
                  rcases approved.port with known | known
                  · cases port.symm.trans known
                  · cases port.symm.trans known
                    exact absurd rfl different
              · rw [if_neg other]
                have standard : parts.port = some none ∨ parts.port = some (some 443) := by
                  cases number with
                  | none => exact Or.inl port
                  | some value =>
                      have same : value = 443 := by simpa using other
                      exact Or.inr (same ▸ port)
                constructor
                · intro same
                  exact ⟨approves standard, Except.ok.inj same⟩
                · rintro ⟨-, rfl⟩
                  rfl
  · rw [if_pos scheme]
    constructor
    · intro impossible
      cases impossible
    · rintro ⟨approves, -⟩
      exact absurd approves.scheme scheme

/-- A URL is accepted exactly when it can be split into parts that are approved. -/
theorem WebLibrary.accepts_iff :
    library.Accepts policy url ↔ ∃ parts,
      library.rules.urlsplit (trim url.toList) = some parts ∧ library.Approves policy parts := by
  unfold Accepts normalizeSourceUrl
  cases found : library.rules.urlsplit (trim url.toList) with
  | none => simp
  | some parts =>
      constructor
      · rintro ⟨normalized, accepted⟩
        obtain ⟨text, normal, -⟩ := map_eq_ok.mp accepted
        exact ⟨parts, rfl, (normalizeParts_eq_ok.mp normal).1⟩
      · rintro ⟨other, same, approves⟩
        obtain rfl := Option.some.inj same
        exact ⟨_, map_eq_ok.mpr ⟨_, normalizeParts_eq_ok.mpr ⟨approves, rfl⟩, rfl⟩⟩

end Boundary

/-! ## A normalized URL is accepted again -/

/-- The host of a URL is not written in brackets. -/
def Unbracketed (parts : Url.SplitResult) : Prop := '[' ∉ Url.afterLast '@' parts.netloc

section Normal

variable {library : WebLibrary} {policy : DomainPolicy} {parts : Url.SplitResult}
  {text : List Char}

theorem hostinfo_of_unbracketed (unbracketed : Unbracketed parts) :
    parts.hostinfo = Url.cut ':' (Url.afterLast '@' parts.netloc) := by
  unfold Url.SplitResult.hostinfo
  exact if_neg unbracketed

/-- A host has none of the marks. -/
theorem notMem_hostinfo (hierarchy : Url.Hierarchy library.rules text parts)
    (unbracketed : Unbracketed parts) :
    ∀ char ∈ parts.hostinfo.1, char ∉ hostMarks := by
  intro char member isMark
  rw [hostinfo_of_unbracketed unbracketed] at member
  have noColon := Url.ne_of_mem_cut_fst member
  have inHost := Url.mem_of_mem_cut_fst member
  have noAt : char ≠ '@' := by simpa using List.mem_rtakeWhile_imp inHost
  have noBracket : char ≠ '[' := fun same => unbracketed (same ▸ inHost)
  have inNetloc : char ∈ parts.netloc := (List.rtakeWhile_suffix _ _).subset inHost
  obtain ⟨inside, kept⟩ := hierarchy.netloc_chars char inNetloc
  simp only [hostMarks, List.mem_cons, List.not_mem_nil, or_false] at isMark
  rcases isMark with rfl | rfl | rfl | rfl | rfl | rfl | rfl | rfl | rfl
  · exact absurd inside (by decide)
  · exact absurd inside (by decide)
  · exact absurd inside (by decide)
  · exact noAt rfl
  · exact noColon rfl
  · exact noBracket rfl
  · exact absurd kept (by decide)
  · exact absurd kept (by decide)
  · exact absurd kept (by decide)

theorem notMem_hostOf (lowers : Lowers library.rules.lower)
    (hierarchy : Url.Hierarchy library.rules text parts) (unbracketed : Unbracketed parts) :
    ∀ char ∈ library.hostOf parts, char ∉ hostMarks := by
  intro char member isMark
  have inHostname := lowers.marks _ char member isMark
  have unmarked := notMem_hostinfo hierarchy unbracketed
  unfold Url.SplitResult.hostname at inHostname
  simp only at inHostname
  split at inHostname
  · simp at inHostname
  · split at inHostname
    · rw [Option.getD_some] at inHostname
      rcases List.mem_append.mp inHostname with host | zone
      · exact unmarked char (Url.mem_of_mem_cut_fst (lowers.marks _ char host isMark)) isMark
      · rcases List.mem_cons.mp zone with rfl | zone
        · exact absurd isMark (by decide)
        · exact unmarked char (Url.mem_of_mem_cut_snd zone) isMark
    · exact unmarked char (lowers.marks _ char inHostname isMark) isMark

/-- A host that was read, when it is the whole netloc, is read as itself. -/
theorem hostOf_of_netloc (lowers : Lowers library.rules.lower) {host : List Char}
    (isNetloc : parts.netloc = host) (notEmpty : host ≠ [])
    (unmarked : ∀ char ∈ host, char ∉ hostMarks)
    (isLower : library.rules.lower host = host) :
    parts.hostinfo = (host, []) ∧ library.hostOf parts = host := by
  have absent (mark : Char) (isMark : mark ∈ hostMarks) : mark ∉ host :=
    fun member => unmarked mark member isMark
  have afterUser : Url.afterLast '@' parts.netloc = host := by
    rw [isNetloc]
    apply List.rtakeWhile_eq_self_iff.mpr
    intro char member
    exact decide_eq_true fun same => absent '@' (by decide) (same ▸ member)
  have isHost : parts.hostinfo = (host, []) := by
    have unbracketed : Unbracketed parts := by
      rw [Unbracketed, afterUser]
      exact absent '[' (by decide)
    rw [hostinfo_of_unbracketed unbracketed, afterUser,
      Url.cut_of_notMem (absent ':' (by decide))]
  refine ⟨isHost, ?_⟩
  unfold WebLibrary.hostOf Url.SplitResult.hostname
  rw [isHost]
  simp only [if_neg notEmpty]
  by_cases zoned : '%' ∈ host
  · obtain ⟨address, zone, whole, noZone⟩ := List.eq_append_cons_of_mem zoned
    rw [if_pos zoned, Option.getD_some, whole, Url.cut_append noZone, lowers.zone,
      lowers.again, ← lowers.zone, ← whole, isLower]
  · rw [if_neg zoned, Option.getD_some, lowers.again, isLower]

theorem mem_hostMarks {char : Char}
    (marked : Url.endsNetloc char = true ∨ Url.isRemoved char = true) : char ∈ hostMarks := by
  unfold Url.endsNetloc Url.isRemoved at marked
  simp only [Bool.or_eq_true, decide_eq_true_eq] at marked
  rcases marked with ((rfl | rfl) | rfl) | ((rfl | rfl) | rfl) <;> decide

/-- The path of a fetchable URL begins with a slash, and so the host ends there. -/
theorem exists_rooted (lowers : Lowers library.rules.lower)
    (hierarchy : Url.Hierarchy library.rules text parts) {host : List Char}
    (isHost : library.hostOf parts = host) (notEmpty : host ≠ []) :
    ∃ rest, WebLibrary.fetchable host parts =
        httpsScheme ++ ':' :: '/' :: '/' :: (host ++ '/' :: rest) ∧
      ∀ char ∈ rest, Url.isRemoved char = false := by
  have named : parts.netloc ≠ [] := by
    intro isEmpty
    have noHost : parts.hostname library.rules = none := by
      unfold Url.SplitResult.hostname Url.SplitResult.hostinfo
      rw [isEmpty]
      rfl
    rw [WebLibrary.hostOf, noHost, Option.getD_none, lowers.empty] at isHost
    exact notEmpty isHost.symm
  let query := if parts.query = [] then [] else '?' :: parts.query
  have safeQuery : ∀ char ∈ query, Url.isRemoved char = false := by
    intro char member
    simp only [query] at member
    split at member
    · cases member
    · rcases List.mem_cons.mp member with rfl | inQuery
      · decide
      · exact (hierarchy.query_chars char inQuery).2
  rcases hierarchy.path_rooted named with isEmpty | rooted
  · refine ⟨query, ?_, safeQuery⟩
    rw [WebLibrary.fetchable, if_pos isEmpty, List.append_assoc]
    rfl
  · cases path : parts.path with
    | nil => simp [path] at rooted
    | cons first later =>
        rw [path] at rooted
        obtain rfl := Option.some.inj rooted
        refine ⟨later ++ query, ?_, ?_⟩
        · rw [WebLibrary.fetchable, path, if_neg (by simp), List.append_assoc]
          rfl
        · intro char member
          rcases List.mem_append.mp member with inPath | inQuery
          · have whole : char ∈ parts.path := by
              rw [path]
              exact List.mem_cons_of_mem _ inPath
            exact (hierarchy.path_chars char whole).2.2
          · exact safeQuery char inQuery

/-- A URL of nothing but an approved host and what follows it is approved. -/
theorem approves_of_netloc (lowers : Lowers library.rules.lower) {host : List Char}
    (scheme : parts.scheme = httpsScheme.map Char.toLower) (isNetloc : parts.netloc = host)
    (approved : library.hostRefusal policy host = none)
    (unmarked : ∀ char ∈ host, char ∉ hostMarks)
    (isLower : library.rules.lower host = host) : library.Approves policy parts := by
  have notEmpty : host ≠ [] := by
    rintro rfl
    simp [WebLibrary.hostRefusal] at approved
  obtain ⟨isHostinfo, isHost⟩ :=
    hostOf_of_netloc lowers isNetloc notEmpty unmarked isLower
  have noUser : Url.beforeLast '@' parts.netloc = none := by
    rw [isNetloc]
    exact if_neg fun member => unmarked '@' member (by decide)
  refine ⟨?_, ?_, ?_, by rwa [isHost], Or.inl ?_⟩
  · rw [scheme]
    decide
  · rw [Url.SplitResult.username, noUser]
    rfl
  · rw [Url.SplitResult.password, noUser]
    rfl
  · rw [Url.SplitResult.port, isHostinfo]
    rfl

/-- The URL that `normalize_source_url` returns is one that it accepts, if it can be split
at all. -/
theorem accepts_fetchable (lowers : Lowers library.rules.lower)
    (hierarchy : Url.Hierarchy library.rules text parts)
    (approves : library.Approves policy parts) (unbracketed : Unbracketed parts)
    {url : String} (isUrl : url.toList = WebLibrary.fetchable (library.hostOf parts) parts)
    (readable : library.hostname url ≠ none) : library.Accepts policy url := by
  have isLower : library.rules.lower (library.hostOf parts) = library.hostOf parts :=
    lowers.again _
  have unmarked := notMem_hostOf lowers hierarchy unbracketed
  have approved := approves.host
  generalize known : library.hostOf parts = host at isUrl isLower unmarked approved
  have notEmpty : host ≠ [] := by
    rintro rfl
    simp [WebLibrary.hostRefusal] at approved
  have inside : ∀ char ∈ host, Url.endsNetloc char = false ∧ Url.isRemoved char = false := by
    intro char member
    constructor
    · exact Bool.eq_false_iff.mpr fun ends =>
        unmarked char member (mem_hostMarks (Or.inl ends))
    · exact Bool.eq_false_iff.mpr fun removed =>
        unmarked char member (mem_hostMarks (Or.inr removed))
  obtain ⟨rest, rooted, safe⟩ := exists_rooted lowers hierarchy known notEmpty
  rw [rooted] at isUrl
  have named : Url.isScheme httpsScheme = true := by decide
  have slash (tail : List Char) : ∀ char ∈ ('/' :: tail).head?, Url.endsNetloc char = true := by
    intro char isFirst
    obtain rfl := Option.some.inj isFirst
    decide
  have safeSlash {tail : List Char} (safe : ∀ char ∈ tail, Url.isRemoved char = false) :
      ∀ char ∈ '/' :: tail, Url.isRemoved char = false := by
    intro char member
    rcases List.mem_cons.mp member with rfl | later
    · decide
    · exact safe char later
  have isNetloc : library.rules.acceptsNetloc host = true := by
    by_contra refused
    apply readable
    rw [WebLibrary.hostname, isUrl, Url.Rules.urlsplit_netloc named inside (slash rest)
      (safeSlash safe), if_neg refused]
    rfl
  -- Only what follows the first slash of the path can be trimmed.
  have trimmed : trim url.toList = httpsScheme ++ ':' :: '/' :: '/' ::
      (host ++ '/' :: rest.rdropWhile isWhitespace) := by
    have begins : ∀ char ∈ ((httpsScheme ++ ':' :: '/' :: '/' :: host) ++ ['/']).head?,
        isWhitespace char = false := by
      intro char isFirst
      obtain rfl : 'h' = char := Option.some.inj isFirst
      decide
    have solid : isWhitespace '/' = false := by decide
    have onlyAfter : trim ((httpsScheme ++ ':' :: '/' :: '/' :: host) ++ '/' :: rest) = _ :=
      trim_solid begins solid
    rw [isUrl]
    simpa using onlyAfter
  have safeTrimmed : ∀ char ∈ rest.rdropWhile isWhitespace, Url.isRemoved char = false :=
    fun char member => safe char ((List.rdropWhile_prefix _ _).subset member)
  apply WebLibrary.accepts_iff.mpr
  rw [trimmed, Url.Rules.urlsplit_netloc named inside (slash _) (safeSlash safeTrimmed),
    if_pos isNetloc]
  exact ⟨_, rfl, approves_of_netloc lowers rfl rfl approved unmarked isLower⟩

end Normal

/-! ## Hops -/

/-- The call asks the network for a page. -/
def FetchCall.isRequest : FetchCall → Bool
  | stream _ => true
  | _ => false

/-- How many requests are made. -/
def requests (trace : List FetchEvent) : Nat := trace.countP (·.1.isRequest)

/-- The last event resolved the host of the URL, to public addresses only. -/
def ResolvedJustBefore (library : WebLibrary) (url : String) (before : List FetchEvent) : Prop :=
  ∃ earlier host addresses, before = earlier ++ [⟨.resolve host, .ok addresses⟩] ∧
    library.hostname url = some host ∧ addresses ≠ [] ∧
    ∀ address ∈ addresses, library.IsPublic address

/-- Every request is for an accepted URL whose host was resolved right before it. -/
def Confined (library : WebLibrary) (policy : DomainPolicy) (trace : List FetchEvent) : Prop :=
  ∀ before url answer after, trace = before ++ ⟨.stream url, answer⟩ :: after →
    library.Accepts policy url ∧ ResolvedJustBefore library url before

section Hops

variable {library : WebLibrary} {policy : DomainPolicy} {first second trace : List FetchEvent}

/-- Without a request there is nothing to confine. -/
theorem confined_of_requests (none : requests trace = 0) : Confined library policy trace := by
  rintro before url answer after rfl
  simp [requests, FetchCall.isRequest] at none

theorem Confined.append (confined : Confined library policy first)
    (next : Confined library policy second) : Confined library policy (first ++ second) := by
  intro before url answer after whole
  rcases List.append_eq_append_iff.mp whole with
    ⟨between, rfl, later⟩ | ⟨between, earlier, later⟩
  · obtain ⟨accepts, hops, host, addresses, rfl, resolved⟩ := next between url answer after later
    exact ⟨accepts, first ++ hops, host, addresses, by simp, resolved⟩
  · cases between with
    | nil =>
        obtain ⟨accepts, hops, host, addresses, isLast, resolved⟩ :=
          next [] url answer after later.symm
        simp at isLast
    | cons event rest =>
        obtain ⟨rfl, -⟩ := List.cons.inj later
        exact confined before url answer rest earlier

/-- One hop: a host is resolved, and then it is asked for the page. -/
theorem confined_hop {url host : String} {addresses : List String}
    {answer : Except FetchFault WebResponse} (accepts : library.Accepts policy url)
    (named : library.hostname url = some host) (some : addresses ≠ [])
    (each : ∀ address ∈ addresses, library.IsPublic address) :
    Confined library policy
      [⟨.resolve host, .ok addresses⟩, ⟨.stream url, answer⟩] := by
  intro before other reply after whole
  cases before with
  | nil => cases (List.cons.inj whole).1
  | cons event rest =>
      obtain ⟨rfl, later⟩ := List.cons.inj whole
      cases rest with
      | nil =>
          cases (List.cons.inj later).1
          exact ⟨accepts, [], host, addresses, rfl, named, some, each⟩
      | cons next others => simp at later

end Hops

section Fetches

variable {backend : HttpWebBackend} {policy : DomainPolicy} {log : List FetchEvent}

/-- A redirect leads to a URL that is accepted. -/
theorem accepts_of_answered {current target : String} {response : WebResponse}
    (permits : backend.isPermitted = backend.library.isPermitted policy)
    (redirects : backend.answered current response = .ok (.inl target)) :
    backend.library.Accepts policy target := by
  unfold HttpWebBackend.answered at redirects
  split at redirects
  · obtain ⟨next, found, same⟩ := bind_eq_ok.mp redirects
    obtain rfl := Sum.inl.inj (Except.ok.inj same)
    unfold HttpWebBackend.redirectTarget at found
    split at found
    · cases found
    · rename_i joined _
      obtain ⟨permitted, asked, found⟩ := bind_eq_ok.mp found
      split at found
      · rename_i isPermitted
        obtain rfl := Except.ok.inj found
        rw [permits, WebLibrary.isPermitted] at asked
        split at asked
        · rename_i normalized accepted
          exact ⟨normalized, accepted⟩
        · rw [← Except.ok.inj asked] at isPermitted
          cases isPermitted
        · cases asked
      · cases found
  · split at redirects
    · cases redirects
    · split at redirects
      · cases redirects
      · obtain ⟨body, -, same⟩ := bind_eq_ok.mp redirects
        cases Except.ok.inj same

/-- A host is resolved, and it is refused or its addresses are public. -/
theorem ensures_requirePublic {url : String}
    {post : Except FetchFault Unit → List FetchEvent → Prop}
    (refused : ∀ fault added, requests added = 0 → post (.error fault) (log ++ added))
    (passed : ∀ host addresses, backend.library.hostname url = some host → addresses ≠ [] →
      (∀ address ∈ addresses, backend.library.IsPublic address) →
      post (.ok ()) (log ++ [⟨.resolve host, .ok addresses⟩])) :
    Ensures (Monitor.recorder fun _ _ => True) (backend.requirePublic url) log post := by
  unfold HttpWebBackend.requirePublic
  cases named : backend.library.hostname url with
  | none =>
      have raised := refused .unreadable [] rfl
      rwa [List.append_nil] at raised
  | some host =>
      apply ensures_perform_bind.mpr
      intro answer _
      cases answer with
      | error fault => exact refused fault [⟨.resolve host, .error fault⟩] rfl
      | ok addresses =>
          dsimp only
          cases all : backend.library.allPublic addresses with
          | error fault => exact refused fault [⟨.resolve host, .ok addresses⟩] rfl
          | ok allPublic =>
              change Ensures _ (if addresses = [] ∨ !allPublic then _ else _) _ post
              split
              · exact refused _ [⟨.resolve host, .ok addresses⟩] rfl
              · rename_i sound
                obtain ⟨some, isPublic⟩ := not_or.mp sound
                have isTrue : allPublic = true := by simpa using isPublic
                rw [isTrue] at all
                exact passed host addresses named some
                  (backend.library.isPublic_of_allPublic all)

/-- One request is made, and a redirect that it leads to is accepted. -/
theorem ensures_exchange (permits : backend.isPermitted = backend.library.isPermitted policy)
    {current : String}
    {post : Except FetchFault (String ⊕ String × String × String) → List FetchEvent → Prop}
    (ended : ∀ outcome answer,
      (∀ target, outcome = .ok (.inl target) → backend.library.Accepts policy target) →
      post outcome (log ++ [⟨.stream current, answer⟩])) :
    Ensures (Monitor.recorder fun _ _ => True) (backend.exchange current) log post := by
  apply ensures_rescue.mpr
  apply ensures_perform_bind.mpr
  intro answer _
  cases answer with
  | error fault => exact ended (.error _) (.error fault) (by simp)
  | ok response =>
      dsimp only
      cases outcome : backend.answered current response with
      | error fault => exact ended (.error _) (.ok response) (by simp)
      | ok next =>
          apply ended (.ok next) (.ok response)
          intro target same
          obtain rfl := Except.ok.inj same
          exact accepts_of_answered permits outcome

/-- What a part of a fetch adds to the log is confined, and makes at most so many
requests. -/
def Adds (library : WebLibrary) (policy : DomainPolicy) (limit : Nat)
    (log after : List FetchEvent) : Prop :=
  ∃ added, after = log ++ added ∧ Confined library policy added ∧ requests added ≤ limit

theorem Adds.mono {library : WebLibrary} {limit wider : Nat} {after : List FetchEvent}
    (adds : Adds library policy limit log after) (within : limit ≤ wider) :
    Adds library policy wider log after := by
  obtain ⟨added, whole, confined, few⟩ := adds
  exact ⟨added, whole, confined, few.trans within⟩

theorem Adds.trans {library : WebLibrary} {limit more : Nat} {between after : List FetchEvent}
    (adds : Adds library policy limit log between)
    (next : Adds library policy more between after) :
    Adds library policy (limit + more) log after := by
  obtain ⟨first, rfl, confinedFirst, fewFirst⟩ := adds
  obtain ⟨second, rfl, confinedSecond, fewSecond⟩ := next
  refine ⟨first ++ second, List.append_assoc .., confinedFirst.append confinedSecond, ?_⟩
  rw [requests, List.countP_append]
  exact Nat.add_le_add fewFirst fewSecond

/-- The loop of the redirects: the induction is on the hops that are left. -/
theorem ensures_get (permits : backend.isPermitted = backend.library.isPermitted policy)
    {url current : String} {left : Nat}
    (accepts : backend.library.hostname current ≠ none →
      backend.library.Accepts policy current) :
    Ensures (Monitor.recorder fun _ _ => True) (backend.get url left current) log
      fun _ after => Adds backend.library policy left log after := by
  induction left generalizing current log with
  | zero => exact ⟨[], by simp, confined_of_requests rfl, Nat.le_refl 0⟩
  | succ left inductionHypothesis =>
      apply ensures_bind.mpr
      apply ensures_requirePublic
      · intro fault added quiet
        exact ⟨added, rfl, confined_of_requests quiet, by omega⟩
      · intro host addresses named some each
        have accepted : backend.library.Accepts policy current :=
          accepts (by simp [named])
        apply ensures_bind.mpr
        apply ensures_exchange permits
        intro outcome answer redirects
        have hop : Adds backend.library policy 1 log
            (log ++ [⟨.resolve host, .ok addresses⟩] ++ [⟨.stream current, answer⟩]) :=
          ⟨_, List.append_assoc .., confined_hop accepted named some each, Nat.le_refl 1⟩
        have within : 1 ≤ left + 1 := Nat.le_add_left 1 left
        cases outcome with
        | error fault => exact hop.mono within
        | ok next =>
            cases next with
            | inr document => exact hop.mono within
            | inl target =>
                apply (inductionHypothesis fun _ => redirects target rfl).mono
                intro _ after adds
                exact (hop.trans adds).mono (by omega)

/-- What is fetched after it was normalized. -/
theorem ensures_fetch {url : String}
    (permits : backend.isPermitted = backend.library.isPermitted policy)
    (accepts : backend.library.hostname url ≠ none → backend.library.Accepts policy url) :
    Ensures (Monitor.recorder fun _ _ => True) (backend.fetch url) log
      fun _ after => Adds backend.library policy (maxRedirects + 1) log after := by
  apply ensures_bind.mpr
  apply (ensures_get permits accepts).mono
  intro outcome after adds
  cases outcome with
  | error fault => exact adds
  | ok document =>
      obtain ⟨finalUrl, contentType, body⟩ := document
      dsimp only
      split <;> split <;> exact adds

/-- A normalized URL that can be split is accepted again. -/
theorem accepts_normalized {library : WebLibrary} {url normalized : String}
    (lowers : Lowers library.rules.lower)
    (unbracketed : ∀ parts, library.rules.urlsplit (trim url.toList) = some parts →
      Unbracketed parts)
    (normal : library.normalizeSourceUrl policy url = .ok normalized)
    (readable : library.hostname normalized ≠ none) : library.Accepts policy normalized := by
  unfold WebLibrary.normalizeSourceUrl at normal
  split at normal
  · cases normal
  · rename_i parts found
    obtain ⟨text, isNormal, rfl⟩ := map_eq_ok.mp normal
    obtain ⟨approves, rfl⟩ := WebLibrary.normalizeParts_eq_ok.mp isNormal
    obtain ⟨rest, hierarchy⟩ := Url.Rules.hierarchy_of_urlsplit found
    exact accepts_fetchable lowers hierarchy approves (unbracketed parts found)
      String.toList_ofList readable

/-- The whole fetch: the URL is normalized, counted against its limit and requested. -/
theorem ensures_fetch_service (service : WebResearchService) {tenantId url : String}
    (permits : service.backend.isPermitted = service.backend.library.isPermitted service.policy)
    (lowers : Lowers service.backend.library.rules.lower)
    (unbracketed : ∀ parts,
      service.backend.library.rules.urlsplit (trim url.toList) = some parts →
        Unbracketed parts) :
    Ensures (Monitor.recorder fun _ _ => True) (service.fetch tenantId url) log
      fun _ after =>
        Adds service.backend.library service.policy (maxRedirects + 1) log after := by
  have nothing : Adds service.backend.library service.policy (maxRedirects + 1) log log :=
    ⟨[], (List.append_nil log).symm, confined_of_requests rfl, Nat.zero_le _⟩
  unfold WebResearchService.fetch
  split
  · exact nothing
  · cases normal : service.backend.library.normalizeSourceUrl service.policy url with
    | error error => exact nothing
    | ok normalized =>
        cases counter : service.rateLimitKey tenantId normalized with
        | none =>
            rw [bind_eq]
            simp only [Except.mapError, lift, Program.bind, counter]
            exact nothing
        | some key =>
            have counted (answer : Except FetchFault Unit) :
                Adds service.backend.library service.policy 0 log
                  (log ++ [⟨.acquire key, answer⟩]) :=
              ⟨_, rfl, confined_of_requests rfl, Nat.le_refl 0⟩
            rw [bind_eq]
            simp only [Except.mapError, lift, Program.bind, counter]
            have fetched (acquired : List FetchEvent) :
                Ensures (Monitor.recorder fun _ _ => True) (service.backend.fetch normalized)
                  acquired fun _ after => Adds service.backend.library service.policy
                    (maxRedirects + 1) acquired after :=
              ensures_fetch permits (accepts_normalized lowers unbracketed normal)
            generalize service.backend.fetch normalized = program at fetched ⊢
            apply ensures_perform_bind.mpr
            intro answer _
            cases answer with
            | error fault => exact (counted (.error fault)).mono (Nat.zero_le _)
            | ok acquired =>
                apply ensures_bind.mpr
                apply (fetched _).mono
                intro outcome after adds
                have whole := (counted (.ok acquired)).trans adds
                rw [Nat.zero_add] at whole
                cases outcome with
                | error fault => exact whole
                | ok document => exact whole

end Fetches

/-- Every request of a fetch is for a URL that is accepted under the policy, right after the
host of that URL was resolved to addresses that are all public.  There are at most
`MAX_REDIRECTS + 1` of them, and the fetch ends with a document or an exception. -/
theorem fetches_areConfined {World : Type} {backend : HttpWebBackend} {policy : DomainPolicy}
    {handler : Handler FetchCall FetchCall.Answer FetchFault World} {world : World}
    {tenantId url : String} (lowers : Lowers backend.library.rules.lower)
    (unbracketed : ∀ parts, backend.library.rules.urlsplit (trim url.toList) = some parts →
      Unbracketed parts) :
    let run := interpret handler
      ((WebResearchService.configured backend policy).fetch tenantId url) world
    (∀ before requested answer after,
      run.trace = before ++ ⟨.stream requested, answer⟩ :: after →
        backend.library.Accepts policy requested ∧
          ResolvedJustBefore backend.library requested before) ∧
      requests run.trace ≤ maxRedirects + 1 ∧
      ((∃ document, run.outcome = .ok document) ∨ ∃ fault, run.outcome = .error fault) := by
  intro run
  let service := WebResearchService.configured backend policy
  have ensured : Ensures (Monitor.recorder fun _ _ => True) (service.fetch tenantId url) []
      fun _ after => Adds backend.library policy (maxRedirects + 1) [] after :=
    ensures_fetch_service service rfl lowers unbracketed
  have fetched : Adds backend.library policy (maxRedirects + 1) [] run.trace := by
    simp only [run]
    generalize service.fetch tenantId url = program at ensured ⊢
    exact ensured.sound_always
  obtain ⟨added, whole, confined, few⟩ := fetched
  rw [List.nil_append] at whole
  rw [whole]
  refine ⟨confined, few, ?_⟩
  cases run.outcome with
  | ok document => exact Or.inl ⟨document, rfl⟩
  | error fault => exact Or.inr ⟨fault, rfl⟩

namespace ReportPages

def publicAddress : String := "93.184.216.34"

/-- Every letter of the site is a small one. -/
def backend : HttpWebBackend where
  library.rules := ⟨id, id, fun _ => false⟩
  library.ipAddress text := if text = publicAddress.toList then some {} else none
  isPermitted _ := .ok false
  urljoin _ location := some ("https://example.org" ++ location)
  decode _ bytes := .ok (String.ofList (bytes.map fun byte => Char.ofNat byte.toNat))
  extractReadable body := ("", body)

def policy : DomainPolicy := ⟨{"example.org"}, true⟩

/-- A site that moved its report. -/
def site : Handler FetchCall FetchCall.Answer FetchFault Unit
  | (), .acquire _ => (.ok (), ())
  | (), .resolve _ => (.ok [publicAddress], ())
  | (), .stream url =>
      if url = "https://example.org/report" then
        (.ok { isRedirect := true, location := "/new" }, ())
      else
        (.ok { contentType := "text/plain", chunks := [[52], [50]] }, ())

def run : Run FetchCall FetchCall.Answer FetchFault Unit SourceDocument :=
  interpret site
    ((WebResearchService.configured backend policy).fetch "acme" "https://example.org/report") ()

end ReportPages

open ReportPages in
theorem fetches_areConfined_at_report :
    run.outcome = .ok ⟨"https://example.org/report", "https://example.org/new", "42"⟩ ∧
      requests run.trace = 2 ∧ requests run.trace ≤ maxRedirects + 1 := by
  have lowers : Lowers backend.library.rules.lower :=
    ⟨rfl, fun _ => rfl, fun _ _ => rfl, fun _ _ member _ => member⟩
  have parsed : backend.library.rules.urlsplit (trim "https://example.org/report".toList) =
      some ⟨"https".toList, "example.org".toList, "/report".toList, [], []⟩ := by
    decide +kernel
  have unbracketed : ∀ parts,
      backend.library.rules.urlsplit (trim "https://example.org/report".toList) = some parts →
        Unbracketed parts := by
    intro parts found
    rw [parsed] at found
    obtain rfl := Option.some.inj found
    rw [Unbracketed]
    decide
  have confined :=
    @fetches_areConfined Unit backend policy site () "acme" _ lowers unbracketed
  exact ⟨by decide +kernel, by decide +kernel, confined.2.1⟩

end ResearchPlatform
