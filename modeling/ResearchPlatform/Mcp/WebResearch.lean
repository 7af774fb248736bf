import ResearchPlatform.Foundation.Program
import ResearchPlatform.Mcp.WebBoundary

/-!
# Web research

`WebResearchService.fetch` over `HttpWebBackend`, as a program over the rate limiter, the
resolver and the HTTP client.
-/

namespace ResearchPlatform

open Foundation Program

/-- What a fetch raises.  `unreadable` is the `ValueError` of a URL or an address that
cannot be read, and `raised` any other exception of a collaborator. -/
inductive FetchFault where
  | valueError (message : String)
  | unreadable
  | sourceNotAllowed (message : String)
  | lookupError (message : String)
  | runtimeError (message : String)
  | httpError (message : String)
  | raised (message : String)
  deriving DecidableEq

/-- What the client answers: the chunks of the body, and what reading it raises after
them, if anything. -/
structure WebResponse where
  isRedirect : Bool := false
  location : String := ""
  statusCode : Nat := 200
  contentType : String := ""
  chunks : List (List UInt8) := []
  broken : Option FetchFault := none
  encoding : Option String := none
  deriving DecidableEq

/-- A retrieved public document. -/
structure SourceDocument where
  url : String
  title : String
  text : String
  deriving DecidableEq

/-- The calls one fetch makes. -/
inductive FetchCall where
  | acquire (key : String)
  | resolve (host : String)
  | stream (url : String)
  deriving DecidableEq

abbrev FetchCall.Answer : FetchCall → Type
  | acquire _ => Unit
  | resolve _ => List String
  | stream _ => WebResponse

abbrev Fetching (α : Type) : Type := Program FetchCall FetchCall.Answer FetchFault α

abbrev FetchEvent : Type := Event FetchCall FetchCall.Answer FetchFault

/-! ## The backend -/

/-- `MAX_REDIRECTS`. -/
def maxRedirects : Nat := 5

/-- `READABLE_CONTENT_TYPES`. -/
def readableContentTypes : List String :=
  ["text/html", "application/xhtml+xml", "text/plain", "application/json"]

/-- `HttpWebBackend`, with what it uses of Python: `urljoin`, which is `none` where it
raises `ValueError`, `bytes.decode` and the HTML parser. -/
structure HttpWebBackend where
  library : WebLibrary
  isPermitted : String → Except FetchFault Bool
  urljoin : String → String → Option String
  decode : String → List UInt8 → Except FetchFault String
  extractReadable : String → String × String
  maxBytes : Nat := 2000000

namespace WebLibrary

variable (library : WebLibrary)

/-- `is_permitted`, as `_web` configures it. -/
def isPermitted (policy : DomainPolicy) (url : String) : Except FetchFault Bool :=
  match library.normalizeSourceUrl policy url with
  | .ok _ => .ok true
  | .error (.sourceNotAllowed _) => .ok false
  | .error .valueError => .error .unreadable

/-- `_is_public`. -/
def IsPublic (address : String) : Prop :=
  ∃ parsed, library.ipAddress address.toList = some parsed ∧ parsed.isRoutable = true

/-- `all(_is_public(address) for address in addresses)`. -/
def allPublic : List String → Except FetchFault Bool
  | [] => .ok true
  | address :: rest =>
      match library.ipAddress address.toList with
      | none => .error .unreadable
      | some parsed => if parsed.isRoutable then allPublic rest else .ok false

theorem isPublic_of_allPublic {addresses : List String}
    (all : library.allPublic addresses = .ok true) :
    ∀ address ∈ addresses, library.IsPublic address := by
  induction addresses with
  | nil => simp
  | cons address rest inductionHypothesis =>
      unfold allPublic at all
      split at all
      · cases all
      · rename_i parsed found
        split at all
        · rename_i routable
          intro other member
          rcases List.mem_cons.mp member with rfl | later
          · exact ⟨parsed, found, routable⟩
          · exact inductionHypothesis all other later
        · cases all

/-- `urlsplit(url).hostname or ""`, or `none` where `urlsplit` raises. -/
def hostname (url : String) : Option String :=
  (library.rules.urlsplit url.toList).map fun parts =>
    String.ofList ((parts.hostname library.rules).getD [])

end WebLibrary

namespace HttpWebBackend

variable (backend : HttpWebBackend)

/-- `_redirect_target`. -/
def redirectTarget (current location : String) : Except FetchFault String :=
  match backend.urljoin current location with
  | none => .error .unreadable
  | some target => do
      let permitted ← backend.isPermitted target
      if permitted then
        return target
      else
        throw (.sourceNotAllowed
          (current ++ " redirected to an unapproved source: " ++ target))

/-- `_require_public`. -/
def requirePublic (url : String) : Fetching Unit :=
  match backend.library.hostname url with
  | none => raise .unreadable
  | some host => do
      let addresses ← perform (.resolve host)
      let allPublic ← lift (backend.library.allPublic addresses)
      if addresses = [] ∨ !allPublic then
        raise (.sourceNotAllowed
          ("host " ++ host ++ " does not resolve to a public address"))
      else
        return ()

/-- The chunks of a body within the limit. -/
def readChunks (url : String) :
    List (List UInt8) → List UInt8 → Except FetchFault (List UInt8)
  | [], received => .ok received
  | chunk :: rest, received =>
      if backend.maxBytes < (received ++ chunk).length then
        .error (.lookupError
          (url ++ " exceeded the " ++ toString backend.maxBytes ++ "-byte response limit"))
      else
        readChunks url rest (received ++ chunk)

/-- `_read_bounded`. -/
def readBounded (url : String) (response : WebResponse) : Except FetchFault String := do
  let received ← backend.readChunks url response.chunks []
  match response.broken with
  | some fault => throw fault
  | none => backend.decode (response.encoding.getD "utf-8") received

/-- `content_type`. -/
def mediaType (response : WebResponse) : String :=
  let first := strip (String.ofList (response.contentType.toList.takeWhile (· ≠ ';')))
  String.ofList (backend.library.rules.lower first.toList)

/-- What is made of a response: the next URL, or the one that was reached with the type
and the text of its document. -/
def answered (current : String) (response : WebResponse) :
    Except FetchFault (String ⊕ String × String × String) := do
  if response.isRedirect then
    let target ← backend.redirectTarget current response.location
    return .inl target
  else if 400 ≤ response.statusCode then
    throw (.lookupError (current ++ " answered " ++ toString response.statusCode))
  else if backend.mediaType response ∉ readableContentTypes then
    throw (.lookupError (current ++ " returned " ++
      (if backend.mediaType response = "" then "an undeclared type"
        else backend.mediaType response) ++ ", which is not readable text"))
  else
    let body ← backend.readBounded current response
    return .inr (current, backend.mediaType response, body)

/-- `except httpx.HTTPError`. -/
def translate (current : String) : FetchFault → FetchFault
  | .httpError message => .runtimeError (current ++ " could not be fetched: " ++ message)
  | fault => fault

/-- One request. -/
def exchange (current : String) : Fetching (String ⊕ String × String × String) :=
  ((perform (.stream current)).bind fun response =>
    lift (backend.answered current response)).rescue fun fault =>
      raise (translate current fault)

/-- The loop of `_get`, with the hops that are left. -/
def get (url : String) : Nat → String → Fetching (String × String × String)
  | 0, _ =>
      raise (.sourceNotAllowed
        (url ++ " redirected more than " ++ toString maxRedirects ++ " times"))
  | left + 1, current => do
      backend.requirePublic current
      let next ← backend.exchange current
      match next with
      | .inl target => get url left target
      | .inr document => return document

/-- `HttpWebBackend.fetch`. -/
def fetch (url : String) : Fetching SourceDocument := do
  let (finalUrl, contentType, body) ← backend.get url (maxRedirects + 1) url
  let (title, text) :=
    if contentType ∈ ["text/html", "application/xhtml+xml"] then
      backend.extractReadable body
    else
      ("", strip body)
  if text = "" then
    raise (.lookupError (finalUrl ++ " returned no readable content"))
  else
    return { url := finalUrl, title := if title = "" then finalUrl else title, text := text }

end HttpWebBackend

/-! ## The service -/

structure WebResearchService where
  backend : HttpWebBackend
  policy : DomainPolicy

namespace WebResearchService

variable (service : WebResearchService)

/-- The service as `_web` configures it: the backend applies the same policy to each
redirect. -/
def configured (backend : HttpWebBackend) (policy : DomainPolicy) : WebResearchService where
  backend := { backend with isPermitted := backend.library.isPermitted policy }
  policy := policy

/-- `rate_limit_key`, or `none` where `urlsplit` raises. -/
def rateLimitKey (tenantId url : String) : Option String :=
  (service.backend.library.hostname url).map fun host =>
    tenantId ++ "|" ++ String.ofList (service.backend.library.rules.lower
      (if host = "" then "unknown" else host).toList)

/-- What a fetch raises for a URL that is refused. -/
def sourceFault : SourceError → FetchFault
  | .sourceNotAllowed message => .sourceNotAllowed message
  | .valueError => .unreadable

/-- `WebResearchService.fetch`. -/
def fetch (tenantId url : String) : Fetching SourceDocument :=
  if strip tenantId = "" then
    raise (.valueError "a web research call must identify its tenant")
  else do
    let normalized ← lift ((service.backend.library.normalizeSourceUrl service.policy
      url).mapError sourceFault)
    match service.rateLimitKey tenantId normalized with
    | none => raise .unreadable
    | some key =>
        let _ ← perform (FetchCall.acquire key)
        let document ← service.backend.fetch normalized
        return { document with url := normalized }

/-- `MAX_SEARCH_RESULTS`. -/
def maxSearchResults : Int := 10

/-- `_is_fetchable`. -/
def isFetchable (url : String) : Except FetchFault Bool :=
  service.backend.library.isPermitted service.policy url

/-- The comprehension of `search`. -/
def fetchableOf : List SourceDocument → Except FetchFault (List SourceDocument)
  | [] => .ok []
  | document :: rest => do
      let fetchable ← service.isFetchable document.url
      let others ← fetchableOf rest
      return if fetchable then document :: others else others

end WebResearchService

/-- The calls of one search: the limiter and any backend. -/
inductive SearchCall where
  | acquire (key : String)
  | search (query : String) (limit : Int)
  deriving DecidableEq

abbrev SearchCall.Answer : SearchCall → Type
  | acquire _ => Unit
  | search .. => List SourceDocument

/-- `WebResearchService.search`. -/
def WebResearchService.search (service : WebResearchService) (tenantId query : String)
    (limit : Int) : Program SearchCall SearchCall.Answer FetchFault (List SourceDocument) :=
  if strip tenantId = "" then
    raise (.valueError "a web research call must identify its tenant")
  else if strip query = "" then
    raise (.valueError "a search query must not be empty")
  else do
    let _ ← perform (SearchCall.acquire (tenantId ++ "|search"))
    let documents ← perform (SearchCall.search query (max 1 (min limit maxSearchResults)))
    lift (service.fetchableOf documents)

end ResearchPlatform
