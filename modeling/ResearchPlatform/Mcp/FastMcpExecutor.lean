import Mathlib.Data.List.Infix
import ResearchPlatform.Mcp.Gateway

/-!
# The executor over FastMCP

`FastMCPExecutor.execute`: what it makes of what a server, its token provider and the
clock answer to one call.
-/

namespace ResearchPlatform

open Foundation

/-- `REFUSAL_MARKERS`. -/
def refusalMarkers : List String :=
  ["source refused", "rate limited", "validation error", "must identify"]

/-- `Target`: an in-process server, or one at a URL. -/
inductive Target where
  | inProcess
  | remote (url : String)
  deriving DecidableEq

/-- What the coroutine `_call` comes to: it is not done in time, the client raises, or
the result has blocks, with their text where they have one. -/
inductive ClientReply where
  | timedOut
  | raised (message : String)
  | content (blocks : List (Option String))
  deriving DecidableEq

/-- What one call meets: the answer of the token provider, if it is asked, and that of
the server, if it is called. -/
structure ServerResponse where
  token : Except String Unit := .ok ()
  reply : ClientReply
  deriving DecidableEq

/-- `FastMCPExecutor`.  `lower` is `str.lower`. -/
structure FastMcpExecutor where
  servers : Dict String Target
  hasTokenProvider : Bool := false
  lower : String → String

namespace FastMcpExecutor

variable (executor : FastMcpExecutor)

/-- The message holds one of the markers that `_classify` looks for. -/
def IsRefusal (message : String) : Prop :=
  ∃ marker ∈ refusalMarkers, marker.toList <:+: (executor.lower message).toList

instance (message : String) : Decidable (executor.IsRefusal message) :=
  inferInstanceAs (Decidable (∃ marker ∈ refusalMarkers, _))

/-- `_classify`. -/
def classify (message : String) : UpstreamError :=
  if executor.IsRefusal message then ⟨message, .invalidArguments⟩
  else ⟨message, .upstreamUnavailable⟩

/-- `_call`, on the executor's loop. -/
def call (tool : String) : ClientReply → Except UpstreamError String
  | .timedOut => .error ⟨"the capability did not respond in time", .timeout⟩
  | .raised message => .error (executor.classify message)
  | .content blocks =>
      let text := "\n".intercalate ((blocks.filterMap id).filter (· ≠ ""))
      if text = "" then
        .error ⟨tool ++ " returned no readable content", .upstreamUnavailable⟩
      else .ok text

/-- `_token_for`, where a token is needed. -/
def tokenFor : Target → ServerResponse → Except UpstreamError Unit
  | .inProcess, _ => .ok ()
  | .remote _, response =>
      if !executor.hasTokenProvider then .ok ()
      else response.token.mapError fun error =>
        ⟨"a service token could not be obtained: " ++ error, .upstreamUnavailable⟩

/-- `execute`. -/
def execute (request : ExecutionRequest) (response : ServerResponse) :
    Except UpstreamError String :=
  match executor.servers.get? request.capability.server.val with
  | none =>
      .error ⟨"MCP server " ++ request.capability.server.val ++ " is not reachable",
        .upstreamUnavailable⟩
  | some target => do
      executor.tokenFor target response
      executor.call request.capability.name.val response.reply

/-- The server refuses the call, by a message that `_classify` takes for a refusal. -/
def Refuses (response : ServerResponse) : Prop :=
  ∃ message, response.reply = .raised message ∧ executor.IsRefusal message

variable {executor}

theorem errorClass_of_tokenFor {target : Target} {response : ServerResponse}
    {error : UpstreamError} (refused : executor.tokenFor target response = .error error) :
    error.errorClass = .upstreamUnavailable := by
  cases target with
  | inProcess => cases refused
  | remote url =>
      simp only [tokenFor] at refused
      split at refused
      · cases refused
      · cases given : response.token <;> rw [given] at refused <;> cases refused
        rfl

theorem errorClass_of_call {tool : String} {response : ServerResponse}
    {error : UpstreamError} (failed : executor.call tool response.reply = .error error)
    (accepted : ¬ executor.Refuses response) :
    error.errorClass = .upstreamUnavailable ∨ error.errorClass = .timeout := by
  cases reply : response.reply with
  | timedOut =>
      rw [reply] at failed
      cases failed
      exact Or.inr rfl
  | raised message =>
      have unmarked : ¬ executor.IsRefusal message :=
        fun marked => accepted ⟨message, reply, marked⟩
      rw [reply, call, classify, if_neg unmarked] at failed
      cases failed
      exact Or.inl rfl
  | content blocks =>
      simp only [reply, call] at failed
      split at failed
      · cases failed
        exact Or.inl rfl
      · cases failed

/-- A failure that is no refusal is an unavailable server or a timeout. -/
theorem errorClass_of_execute {request : ExecutionRequest} {response : ServerResponse}
    {error : UpstreamError} (failed : executor.execute request response = .error error)
    (accepted : ¬ executor.Refuses response) :
    error.errorClass = .upstreamUnavailable ∨ error.errorClass = .timeout := by
  unfold execute at failed
  split at failed
  · cases failed
    exact Or.inl rfl
  · rename_i target found
    cases token : executor.tokenFor target response with
    | error refused =>
        rw [token] at failed
        cases failed
        exact Or.inl (errorClass_of_tokenFor token)
    | ok =>
        rw [token] at failed
        exact errorClass_of_call failed accepted

end FastMcpExecutor

end ResearchPlatform
