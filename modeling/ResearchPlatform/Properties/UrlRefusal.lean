import ResearchPlatform.Properties.OutboundFetches

/-!
# How a URL is refused

`urlsplit` and `port` raise a `ValueError` of their own, which is no `SourceNotAllowed`.  A
URL is accepted or refused as a source exactly when Python can read as much of it as is
looked at; a search keeps what can be fetched exactly when all its results can be read.
-/

namespace ResearchPlatform

open Foundation Program

namespace WebLibrary

variable (library : WebLibrary) (policy : DomainPolicy)

/-- All checks before that of the port are passed. -/
structure ReachesPort (parts : Url.SplitResult) : Prop where
  scheme : parts.scheme.map Char.toLower ∈ allowedSchemes
  username : parts.username.getD [] = []
  password : parts.password.getD [] = []
  host : library.hostRefusal policy (library.hostOf parts) = none

/-- The URL can be split; and if the check of the port is reached, the port can be read. -/
def Readable (url : String) : Prop :=
  ∃ parts, library.rules.urlsplit (trim url.toList) = some parts ∧
    (library.ReachesPort policy parts → parts.port ≠ none)

/-- The URL is normalized, or refused as a source. -/
def Settles (url : String) : Prop :=
  (∃ normalized, library.normalizeSourceUrl policy url = .ok normalized ∧
    "https://".toList <+: normalized.toList) ∨
  ∃ message, library.normalizeSourceUrl policy url = .error (.sourceNotAllowed message)

variable {library policy} {parts : Url.SplitResult} {url : String}

theorem normalizeParts_eq_valueError :
    library.normalizeParts policy parts = .error .valueError ↔
      library.ReachesPort policy parts ∧ parts.port = none := by
  unfold normalizeParts
  by_cases scheme : parts.scheme.map Char.toLower ∈ allowedSchemes
  · rw [if_neg (not_not.mpr scheme)]
    by_cases credentials : parts.username.getD [] ≠ [] ∨ parts.password.getD [] ≠ []
    · rw [if_pos credentials]
      refine iff_of_false nofun ?_
      rintro ⟨reaches, -⟩
      rcases credentials with user | secret
      · exact user reaches.username
      · exact secret reaches.password
    · rw [if_neg credentials]
      obtain ⟨noUser, noSecret⟩ := not_or.mp credentials
      cases refusal : library.hostRefusal policy (library.hostOf parts) with
      | some message =>
          refine iff_of_false nofun ?_
          rintro ⟨reaches, -⟩
          rw [reaches.host] at refusal
          cases refusal
      | none =>
          have reaches : library.ReachesPort policy parts :=
            ⟨scheme, not_not.mp noUser, not_not.mp noSecret, refusal⟩
          cases port : parts.port with
          | none => exact iff_of_true rfl ⟨reaches, rfl⟩
          | some number =>
              refine iff_of_false ?_ nofun
              dsimp only
              split <;> exact nofun
  · rw [if_pos scheme]
    refine iff_of_false nofun ?_
    rintro ⟨reaches, -⟩
    exact scheme reaches.scheme

theorem normalizeSourceUrl_eq_valueError :
    library.normalizeSourceUrl policy url = .error .valueError ↔
      ¬ library.Readable policy url := by
  unfold normalizeSourceUrl Readable
  cases found : library.rules.urlsplit (trim url.toList) with
  | none => simp
  | some parts =>
      dsimp only
      rw [map_eq_error, normalizeParts_eq_valueError]
      simp

/-- What is returned is an HTTPS URL. -/
theorem https_of_normalized {normalized : String}
    (accepted : library.normalizeSourceUrl policy url = .ok normalized) :
    "https://".toList <+: normalized.toList := by
  unfold normalizeSourceUrl at accepted
  split at accepted
  · cases accepted
  · obtain ⟨text, normal, rfl⟩ := map_eq_ok.mp accepted
    obtain ⟨-, rfl⟩ := normalizeParts_eq_ok.mp normal
    rename_i parts _
    have whole : (String.ofList (fetchable (library.hostOf parts) parts)).toList =
        fetchable (library.hostOf parts) parts := String.toList_ofList
    rw [whole]
    exact List.prefix_append ..

theorem settles_iff : library.Settles policy url ↔ library.Readable policy url := by
  have unreadable := @normalizeSourceUrl_eq_valueError library policy url
  unfold Settles
  cases normal : library.normalizeSourceUrl policy url with
  | ok normalized =>
      rw [normal] at unreadable
      refine iff_of_true (Or.inl ⟨normalized, rfl, https_of_normalized normal⟩) ?_
      exact not_not.mp (mt unreadable.mpr nofun)
  | error error =>
      rw [normal] at unreadable
      cases error with
      | sourceNotAllowed message =>
          refine iff_of_true (Or.inr ⟨message, rfl⟩) ?_
          exact not_not.mp (mt unreadable.mpr nofun)
      | valueError => exact iff_of_false (by simp) (unreadable.mp rfl)

/-- `is_permitted` tells what a readable URL is, and raises for another. -/
theorem isPermitted_eq_ok_iff {permitted : Bool} :
    library.isPermitted policy url = .ok permitted ↔
      library.Readable policy url ∧
        (library.normalizeSourceUrl policy url).isOk = permitted := by
  rw [← settles_iff]
  unfold isPermitted Settles
  cases normal : library.normalizeSourceUrl policy url with
  | ok normalized =>
      have https := https_of_normalized normal
      constructor
      · intro same
        exact ⟨Or.inl ⟨normalized, rfl, https⟩, Except.ok.inj same⟩
      · rintro ⟨-, rfl⟩
        rfl
  | error error =>
      cases error with
      | sourceNotAllowed message => simp [Except.isOk, Except.toBool]
      | valueError => simp

end WebLibrary

/-! ## Searches and redirects -/

section Searches

variable {service : WebResearchService} {documents kept : List SourceDocument}

/-- The policy does not refuse to fetch the document. -/
def WebResearchService.keeps (service : WebResearchService) (document : SourceDocument) : Bool :=
  (service.backend.library.normalizeSourceUrl service.policy document.url).isOk

/-- The comprehension keeps what can be fetched, if every result can be read.  The
induction is on the results. -/
theorem fetchableOf_eq_ok_iff :
    service.fetchableOf documents = .ok kept ↔
      (∀ document ∈ documents,
        service.backend.library.Readable service.policy document.url) ∧
      documents.filter service.keeps = kept := by
  induction documents generalizing kept with
  | nil => simp [WebResearchService.fetchableOf]
  | cons document rest inductionHypothesis =>
      have read := @WebLibrary.isPermitted_eq_ok_iff service.backend.library service.policy
        document.url
      constructor
      · intro returned
        obtain ⟨fetchable, asked, returned⟩ := bind_eq_ok.mp returned
        obtain ⟨others, found, same⟩ := bind_eq_ok.mp returned
        obtain ⟨readable, isOk⟩ := read.mp asked
        obtain ⟨later, rfl⟩ := inductionHypothesis.mp found
        refine ⟨List.forall_mem_cons.mpr ⟨readable, later⟩, ?_⟩
        have isKept : service.keeps document = fetchable := isOk
        rw [List.filter_cons, isKept]
        exact Except.ok.inj same
      · rintro ⟨readable, rfl⟩
        obtain ⟨first, later⟩ := List.forall_mem_cons.mp readable
        have asked := read.mpr ⟨first, rfl⟩
        have found := inductionHypothesis.mpr ⟨later, rfl⟩
        refine bind_eq_ok.mpr ⟨_, asked, bind_eq_ok.mpr ⟨_, found, ?_⟩⟩
        rw [List.filter_cons]
        rfl

/-- A search that was answered ends as the comprehension does. -/
theorem search_answered {World : Type}
    {handler : Handler SearchCall SearchCall.Answer FetchFault World} {world : World}
    {tenantId query asked : String} {limit bounded : Int}
    (answered : ⟨.search asked bounded, .ok documents⟩ ∈
      (interpret handler (service.search tenantId query limit) world).trace) :
    (interpret handler (service.search tenantId query limit) world).outcome =
      service.fetchableOf documents := by
  unfold WebResearchService.search at answered ⊢
  by_cases noTenant : strip tenantId = ""
  · rw [if_pos noTenant] at answered
    cases answered
  rw [if_neg noTenant] at answered ⊢
  by_cases noQuery : strip query = ""
  · rw [if_pos noQuery] at answered
    cases answered
  rw [if_neg noQuery] at answered ⊢
  simp only [bind_eq, perform, Program.bind, interpret] at answered ⊢
  cases counted : (handler world (.acquire (tenantId ++ "|search"))).1 with
  | error fault =>
      rw [counted] at answered
      simp [Program.bind] at answered
  | ok acquired =>
      rw [counted] at answered
      simp only [Program.bind, interpret] at answered ⊢
      generalize handler (handler world _).2 (SearchCall.search query _) = reply at answered ⊢
      obtain ⟨reply, last⟩ := reply
      cases reply with
      | error fault => simp [Program.bind] at answered
      | ok results =>
          simp only [Program.bind, lift, interpret_finish] at answered ⊢
          have same : results = documents := by
            rcases List.mem_cons.mp answered with impossible | answered
            · cases impossible
            · cases List.mem_singleton.mp answered
              rfl
          rw [same]

/-- The location of a redirect is followed or refused, if it can be joined and read. -/
theorem redirectTarget_settles_iff {backend : HttpWebBackend} {policy : DomainPolicy}
    {current location : String} :
    let redirected := (WebResearchService.configured backend policy).backend.redirectTarget
      current location
    ((∃ target, redirected = .ok target) ∨
      ∃ message, redirected = .error (.sourceNotAllowed message)) ↔
    ∃ target, backend.urljoin current location = some target ∧
      backend.library.Readable policy target := by
  intro redirected
  simp only [redirected, HttpWebBackend.redirectTarget, WebResearchService.configured]
  cases joined : backend.urljoin current location with
  | none => simp
  | some target =>
      have read := @WebLibrary.isPermitted_eq_ok_iff backend.library policy target
      simp only [Option.some.injEq, exists_eq_left']
      cases asked : backend.library.isPermitted policy target with
      | ok permitted =>
          refine iff_of_true ?_ (read.mp asked).1
          cases permitted with
          | true => exact Or.inl ⟨target, rfl⟩
          | false => exact Or.inr ⟨_, rfl⟩
      | error fault =>
          have unreadable : ¬ backend.library.Readable policy target := by
            intro readable
            cases asked.symm.trans (read.mpr ⟨readable, rfl⟩)
          refine iff_of_false ?_ unreadable
          unfold WebLibrary.isPermitted at asked
          split at asked
          · cases asked
          · cases asked
          · obtain rfl := Except.error.inj asked
            rintro (⟨other, impossible⟩ | ⟨message, impossible⟩)
            · cases impossible
            · cases impossible

end Searches

/-- A URL is normalized or refused exactly when it can be read.  A search returns what the
policy does not refuse exactly when each result can be read, and a redirect is followed or
refused exactly when its target can be. -/
theorem urlRefusal_isTotal_iff {backend : HttpWebBackend} {policy : DomainPolicy} :
    let service := WebResearchService.configured backend policy
    let library := backend.library
    (∀ url, library.Settles policy url ↔ library.Readable policy url) ∧
    (∀ {World : Type} (handler : Handler SearchCall SearchCall.Answer FetchFault World) world
        tenantId query limit asked bounded documents,
      let run := interpret handler (service.search tenantId query limit) world
      ⟨.search asked bounded, .ok documents⟩ ∈ run.trace →
        (run.outcome = .ok (documents.filter service.keeps) ↔
          ∀ document ∈ documents, library.Readable policy document.url)) ∧
    ∀ current location,
      (∃ target, service.backend.redirectTarget current location = .ok target) ∨
        (∃ message, service.backend.redirectTarget current location =
          .error (.sourceNotAllowed message)) ↔
      ∃ target, backend.urljoin current location = some target ∧
        library.Readable policy target := by
  intro service library
  refine ⟨fun _ => WebLibrary.settles_iff, ?_, fun _ _ => redirectTarget_settles_iff⟩
  intro World handler world tenantId query limit asked bounded documents run answered
  have ended : run.outcome = service.fetchableOf documents := search_answered answered
  rw [ended, fetchableOf_eq_ok_iff]
  simp [library, service, WebResearchService.configured]

namespace PortPages

/-- A redirect names its target in full. -/
def backend : HttpWebBackend :=
  { ReportPages.backend with urljoin := fun _ location => some location }

def service : WebResearchService := .configured backend ReportPages.policy

/-- An engine that found one report, and one page whose port is no port. -/
def engine (second : String) : Handler SearchCall SearchCall.Answer FetchFault Unit
  | (), .acquire _ => (.ok (), ())
  | (), .search _ _ =>
      (.ok [⟨"https://example.org/report", "Report", "42"⟩, ⟨second, "Page", "1"⟩], ())

def run (second : String) : Run SearchCall SearchCall.Answer FetchFault Unit
    (List SourceDocument) :=
  interpret (engine second) (service.search "acme" "sums" 5) ()

end PortPages

open PortPages in
theorem urlRefusal_isTotal_iff_at_http :
    (run "http://example.org:99999/").outcome =
      .ok [⟨"https://example.org/report", "Report", "42"⟩] := by
  have total := @urlRefusal_isTotal_iff backend ReportPages.policy
  have search := total.2.1 (engine "http://example.org:99999/") () "acme" "sums" 5 "sums" 5 _
    (List.mem_cons_of_mem _ List.mem_cons_self)
  rw [run]
  refine (search.mpr ?_).trans (by decide +kernel)
  intro document member
  apply (total.1 document.url).mp
  rcases List.mem_cons.mp member with rfl | later
  · exact Or.inl ⟨"https://example.org/report", by decide +kernel, by decide⟩
  · obtain rfl := List.mem_singleton.mp later
    exact Or.inr ⟨"scheme http is not permitted for research", by decide +kernel⟩

open PortPages in
/-- A port out of range is not refused: the `ValueError` takes the other result of a search
with it, and a redirect to the page is not refused as a source. -/
theorem urlRefusal_isPartial :
    backend.library.normalizeSourceUrl ReportPages.policy "https://example.org:99999/" =
        .error .valueError ∧
      (run "https://example.org:99999/").outcome = .error .unreadable ∧
      service.keeps ⟨"https://example.org/report", "Report", "42"⟩ = true ∧
      service.backend.redirectTarget "https://example.org/report"
        "https://example.org:99999/" = .error .unreadable := by
  decide +kernel

end ResearchPlatform
