import Mathlib.Data.Finset.Basic
import ResearchPlatform.Domain.Models
import ResearchPlatform.Foundation.Dict
import ResearchPlatform.Foundation.Service
import ResearchPlatform.Foundation.Url
import ResearchPlatform.Foundation.Whitespace

/-!
# The boundary of web research

The domain policy and `SlidingWindowRateLimiter` of `mcp/servers/web_boundary.py`.
-/

namespace ResearchPlatform

open Foundation

/-! ## The domain policy -/

/-- What `ipaddress` tells of an address. -/
structure IpAddress where
  isPrivate : Bool := false
  isLoopback : Bool := false
  isLinkLocal : Bool := false
  isReserved : Bool := false
  isMulticast : Bool := false
  isUnspecified : Bool := false
  deriving DecidableEq

/-- The address can be reached from anywhere. -/
def IpAddress.isRoutable (address : IpAddress) : Bool :=
  !(address.isPrivate || address.isLoopback || address.isLinkLocal ||
    address.isReserved || address.isMulticast || address.isUnspecified)

/-- What is used of `urllib.parse`, `str.lower` and `ipaddress.ip_address`, which is
`none` where it raises `ValueError`. -/
structure WebLibrary where
  rules : Url.Rules
  ipAddress : List Char → Option IpAddress

/-- `SourceNotAllowed`, or the `ValueError` of a URL that cannot be split. -/
inductive SourceError where
  | sourceNotAllowed (message : String)
  | valueError
  deriving DecidableEq

/-- The scheme of every URL that is fetched. -/
def httpsScheme : List Char := "https".toList

/-- `ALLOWED_SCHEMES`. -/
def allowedSchemes : List (List Char) := [httpsScheme]

/-- `BLOCKED_HOST_SUFFIXES`. -/
def blockedHostSuffixes : List String :=
  [".local", ".localdomain", ".internal", ".intranet", ".corp", ".home.arpa"]

/-- `CLOUD_METADATA_HOSTS`. -/
def cloudMetadataHosts : List String :=
  ["169.254.169.254", "metadata.google.internal", "metadata.goog", "instance-data"]

/-- An explicit allowlist of the domains that research may reach. -/
structure DomainPolicy where
  domains : Finset String
  allowSubdomains : Bool := true

/-- `permits_host`. -/
def DomainPolicy.permitsHost (policy : DomainPolicy) (host : List Char) : Bool :=
  if String.ofList host ∈ policy.domains then true
  else if !policy.allowSubdomains then false
  else decide (∃ domain ∈ policy.domains, '.' :: domain.toList <:+ host)

namespace WebLibrary

variable (library : WebLibrary) (policy : DomainPolicy)

/-- `_is_unroutable_address`. -/
def isUnroutableAddress (host : List Char) : Bool :=
  (library.ipAddress host).any (!·.isRoutable)

/-- `(parts.hostname or "").lower()`. -/
def hostOf (parts : Url.SplitResult) : List Char :=
  library.rules.lower ((parts.hostname library.rules).getD [])

/-- What `normalize_source_url` raises for a host, if it does. -/
def hostRefusal (host : List Char) : Option String :=
  if host = [] then
    some "a research URL must name a host"
  else if String.ofList host ∈ cloudMetadataHosts ∨ library.isUnroutableAddress host then
    some ("host " ++ String.ofList host ++ " is not a public research source")
  else if ∃ suffix ∈ blockedHostSuffixes, suffix.toList <:+ host then
    some ("host " ++ String.ofList host ++ " resolves inside a private network")
  else if !policy.permitsHost host then
    some ("host " ++ String.ofList host ++ " is not an approved research source")
  else
    none

/-- The URL of a host with the path and the query of another. -/
def fetchable (host : List Char) (parts : Url.SplitResult) : List Char :=
  httpsScheme ++ ':' :: '/' :: '/' ::
    (host ++ (if parts.path = [] then ['/'] else parts.path) ++
      (if parts.query = [] then [] else '?' :: parts.query))

/-- What `normalize_source_url` makes of a URL that has been split. -/
def normalizeParts (parts : Url.SplitResult) : Except SourceError (List Char) :=
  if parts.scheme.map Char.toLower ∉ allowedSchemes then
    .error (.sourceNotAllowed ("scheme " ++
      (if parts.scheme = [] then "(none)" else String.ofList parts.scheme) ++
      " is not permitted for research"))
  else if parts.username.getD [] ≠ [] ∨ parts.password.getD [] ≠ [] then
    .error (.sourceNotAllowed "a research URL must not carry embedded credentials")
  else
    match library.hostRefusal policy (library.hostOf parts), parts.port with
    | some message, _ => .error (.sourceNotAllowed message)
    | none, none => .error .valueError
    | none, some port =>
        if ∃ number ∈ port, number ≠ 443 then
          .error (.sourceNotAllowed
            ("port " ++ toString (port.getD 0) ++ " is not permitted for research"))
        else
          .ok (fetchable (library.hostOf parts) parts)

/-- `normalize_source_url`. -/
def normalizeSourceUrl (url : String) : Except SourceError String :=
  match library.rules.urlsplit (trim url.toList) with
  | none => .error .valueError
  | some parts => (library.normalizeParts policy parts).map String.ofList

/-- White space around a URL does not count. -/
theorem normalizeSourceUrl_strip (url : String) :
    library.normalizeSourceUrl policy (strip url) = library.normalizeSourceUrl policy url := by
  rw [normalizeSourceUrl, toList_strip, trim_trim]
  rfl

end WebLibrary

/-! ## The rate limit -/

/-- `RateLimitExceeded`. -/
structure RateLimitExceeded where
  key : String
  limit : Nat
  window : Int
  deriving DecidableEq

inductive RateCall where
  | remaining (key : String)
  | acquire (key : String)
  deriving DecidableEq

/-- What a call reads: the clock as it prunes, the clock as it grants, and the random
token that a limiter over Redis names a grant by. -/
structure RateReadings where
  pruned : Timestamp
  granted : Timestamp
  token : String
  deriving DecidableEq

/-- What a call returns or raises. -/
inductive RateAnswer where
  | count (left : Nat)
  | exceeded (error : RateLimitExceeded)
  deriving DecidableEq

structure SlidingWindowRateLimiter where
  limit : Nat
  window : Int := 60000000
  limitInRange : 1 ≤ limit

namespace SlidingWindowRateLimiter

variable (limiter : SlidingWindowRateLimiter)

/-- `_prune`. -/
def prune (hits : Dict String (List Timestamp)) (key : String) (now : Timestamp) :
    List Timestamp × Dict String (List Timestamp) :=
  let (times, hits) := hits.setDefault key []
  let cutoff := now - limiter.window
  let times := times.dropWhile (· ≤ cutoff)
  (times, hits.set key times)

/-- `remaining`. -/
def remaining (hits : Dict String (List Timestamp)) (key : String)
    (readings : RateReadings) : Nat × Dict String (List Timestamp) :=
  let (times, hits) := limiter.prune hits key readings.pruned
  (limiter.limit - times.length, hits)

/-- `acquire`. -/
def acquire (hits : Dict String (List Timestamp)) (key : String)
    (readings : RateReadings) :
    Except RateLimitExceeded Nat × Dict String (List Timestamp) :=
  let (times, hits) := limiter.prune hits key readings.pruned
  if times.length ≥ limiter.limit then
    (.error ⟨key, limiter.limit, limiter.window⟩, hits)
  else
    let times := times ++ [readings.granted]
    (.ok (limiter.limit - times.length), hits.set key times)

/-- The limiter as a service. -/
def service :
    Service (Dict String (List Timestamp)) (RateCall × RateReadings) RateAnswer
  | hits, (.remaining key, readings) =>
      let (left, hits) := limiter.remaining hits key readings
      (.count left, hits)
  | hits, (.acquire key, readings) =>
      match limiter.acquire hits key readings with
      | (.ok left, hits) => (.count left, hits)
      | (.error error, hits) => (.exceeded error, hits)

end SlidingWindowRateLimiter

end ResearchPlatform
