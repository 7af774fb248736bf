import ResearchPlatform.Mcp.EvidenceServer

/-!
# Workspace documents

The boundary of the filesystem server and `FilesystemService.read_document`.  What a path
of a workspace resolves to is the file system's to say.
-/

namespace ResearchPlatform

open Foundation

/-- `PathNotAllowed`, `FileNotFoundError` or `ValueError`; the server reports all three
alike. -/
inductive DocumentError where
  | pathNotAllowed (message : String)
  | fileNotFound (message : String)
  | valueError (message : String)
  deriving DecidableEq

/-- `str(error)`. -/
def DocumentError.message : DocumentError → String
  | pathNotAllowed message => message
  | fileNotFound message => message
  | valueError message => message

/-! ## Paths -/

/-- `repr` of a text that holds no quote. -/
def reprText (text : String) : String := "'" ++ text ++ "'"

/-- `text.replace("\\", "/")`. -/
def forwardSlashes (text : List Char) : List Char :=
  text.map fun char => if char = '\\' then '/' else char

/-- `PurePosixPath(text).parts` of a relative path. -/
def pathParts (text : List Char) : List (List Char) :=
  (text.splitOn '/').filter fun part => part ≠ [] ∧ part ≠ ['.']

/-- `relative_path.strip().replace("\\", "/")`. -/
def candidatePath (relativePath : String) : List Char :=
  forwardSlashes (trim relativePath.toList)

/-- `_reject_traversal`: the parts of the path that the text names. -/
def rejectTraversal (relativePath : String) :
    Except DocumentError (List (List Char)) :=
  let candidate := candidatePath relativePath
  if candidate = [] then
    .error (.pathNotAllowed "a workspace path must not be empty")
  else if candidate.head? = some '/' ∨ ':' ∈ candidate then
    .error (.pathNotAllowed
      (reprText relativePath ++ " must be relative to the tenant workspace"))
  else if ['.', '.'] ∈ pathParts candidate then
    .error (.pathNotAllowed
      (reprText relativePath ++ " attempts to leave the tenant workspace"))
  else if ∃ part ∈ pathParts candidate, part.head? = some '.' then
    .error (.pathNotAllowed (reprText relativePath ++ " names a hidden entry"))
  else
    .ok (pathParts candidate)

section Paths

variable {first second : String} {parts : List (List Char)}

/-- What is accepted, check by check. -/
theorem rejectTraversal_eq_ok :
    rejectTraversal first = .ok parts ↔
      candidatePath first ≠ [] ∧ (candidatePath first).head? ≠ some '/' ∧
        ':' ∉ candidatePath first ∧
        (∀ part ∈ pathParts (candidatePath first), part.head? ≠ some '.') ∧
        pathParts (candidatePath first) = parts := by
  unfold rejectTraversal
  generalize candidatePath first = candidate
  by_cases isEmpty : candidate = []
  · simp [isEmpty]
  · by_cases absolute : candidate.head? = some '/' ∨ ':' ∈ candidate
    · rw [if_neg isEmpty, if_pos absolute]
      rcases absolute with leading | colon
      · simp [leading]
      · simp [colon]
    · obtain ⟨relative, noColon⟩ := not_or.mp absolute
      by_cases hidden : ∃ part ∈ pathParts candidate, part.head? = some '.'
      · have shown : ¬ ∀ part ∈ pathParts candidate, part.head? ≠ some '.' := by
          simpa using hidden
        rw [if_neg isEmpty, if_neg absolute, if_pos hidden]
        split <;> simp [shown]
      · have shown : ∀ part ∈ pathParts candidate, part.head? ≠ some '.' := by
          simpa using hidden
        have inside : ['.', '.'] ∉ pathParts candidate := by
          intro member
          exact shown _ member rfl
        rw [if_neg isEmpty, if_neg absolute, if_neg inside, if_neg hidden]
        constructor
        · intro same
          exact ⟨isEmpty, relative, noColon, shown, Except.ok.inj same⟩
        · intro all
          rw [all.2.2.2.2]

/-- White space around a path does not count. -/
theorem rejectTraversal_of_trim (same : trim second.toList = trim first.toList)
    (accepted : rejectTraversal first = .ok parts) : rejectTraversal second = .ok parts := by
  have sameCandidate : candidatePath second = candidatePath first :=
    congrArg forwardSlashes same
  rw [rejectTraversal_eq_ok] at accepted ⊢
  rwa [sameCandidate]

theorem exists_mem_intercalate {pieces : List (List Char)} {char separator : Char}
    (other : char ≠ separator) :
    char ∈ [separator].intercalate pieces ↔ ∃ piece ∈ pieces, char ∈ piece := by
  induction pieces with
  | nil => simp
  | cons piece rest inductionHypothesis =>
      cases rest with
      | nil => simp
      | cons second later =>
          rw [List.intercalate_cons_cons, List.append_assoc, List.mem_append,
            List.mem_append, inductionHypothesis, List.mem_singleton]
          simp [other]

/-- A character that is no slash and no dot stands in a part exactly when it stands in
the text. -/
theorem exists_mem_pathParts {text : List Char} {char : Char} (noSlash : char ≠ '/')
    (noDot : char ≠ '.') : (∃ part ∈ pathParts text, char ∈ part) ↔ char ∈ text := by
  have joined : ['/'].intercalate (text.splitOn '/') = text := List.intercalate_splitOn '/'
  have pieces : char ∈ text ↔ ∃ piece ∈ text.splitOn '/', char ∈ piece := by
    rw [← exists_mem_intercalate noSlash, joined]
  rw [pieces]
  constructor
  · rintro ⟨part, isPart, member⟩
    exact ⟨part, (List.mem_filter.mp isPart).1, member⟩
  · rintro ⟨piece, isPiece, member⟩
    have notEmpty : piece ≠ [] := List.ne_nil_of_mem member
    have notDot : piece ≠ ['.'] := by
      intro dot
      rw [dot] at member
      exact noDot (List.mem_singleton.mp member)
    exact ⟨piece, List.mem_filter.mpr ⟨isPiece, by simp [notEmpty, notDot]⟩, member⟩

/-- Texts that name one path have the same characters, slashes and dots apart. -/
theorem mem_trim_of_rejectTraversal {char : Char} (noSlash : char ≠ '/') (noDot : char ≠ '.')
    (noBackslash : char ≠ '\\') (accepted : rejectTraversal first = .ok parts) :
    char ∈ trim first.toList ↔ ∃ part ∈ parts, char ∈ part := by
  obtain ⟨-, -, -, -, rfl⟩ := rejectTraversal_eq_ok.mp accepted
  rw [exists_mem_pathParts noSlash noDot, candidatePath, forwardSlashes, List.mem_map]
  constructor
  · intro member
    exact ⟨char, member, if_neg noBackslash⟩
  · rintro ⟨other, member, same⟩
    split at same
    · exact absurd same.symm noSlash
    · rwa [← same]

end Paths

/-! ## Documents -/

/-- What a path of a workspace resolves to, and what is read there. -/
structure ResolvedPath where
  name : String
  suffix : String
  isInside : Bool := true
  isPresent : Bool := true
  isFile : Bool := true
  content : List UInt8
  deriving DecidableEq

/-- The file system below the root of one tenant. -/
abbrev Workspace : Type := List (List Char) → ResolvedPath

/-- `READABLE_SUFFIXES`. -/
def readableSuffixes : List String :=
  [".csv", ".json", ".jsonl", ".md", ".txt", ".yaml", ".yml"]

/-- `FilesystemService`, with the workspaces of the configured tenants. -/
structure FilesystemService where
  roots : Dict String Workspace
  maxDocumentBytes : Nat := 524288

namespace FilesystemService

variable (service : FilesystemService)

/-- `resolve_workspace_path`. -/
def resolveWorkspacePath (relativePath tenantId : String) :
    Except DocumentError ResolvedPath := do
  let pure ← rejectTraversal relativePath
  match service.roots.get? tenantId with
  | none =>
      throw (.pathNotAllowed ("tenant " ++ tenantId ++ " has no configured workspace"))
  | some root =>
      if (root pure).isInside then
        return root pure
      else
        throw (.pathNotAllowed
          (reprText relativePath ++ " resolves outside the tenant workspace"))

/-- `ensure_readable_document`. -/
def ensureReadableDocument (path : ResolvedPath) : Except DocumentError ResolvedPath :=
  if String.ofList (path.suffix.toList.map Char.toLower) ∉ readableSuffixes then
    .error (.pathNotAllowed
      ((if path.suffix = "" then "(no suffix)" else path.suffix) ++
        " is not a readable document type"))
  else if !path.isPresent then
    .error (.fileNotFound (path.name ++ " is not present in the tenant workspace"))
  else if !path.isFile then
    .error (.pathNotAllowed (path.name ++ " is not an ordinary file"))
  else
    .ok path

/-- `read_document`. -/
def readDocument (tenantId path : String) : Except DocumentError String := do
  if strip tenantId = "" then
    throw (.valueError "a filesystem call must identify its tenant")
  let resolved ← service.resolveWorkspacePath path tenantId
  let resolved ← ensureReadableDocument resolved
  if service.maxDocumentBytes < resolved.content.length then
    throw (.pathNotAllowed
      (resolved.name ++ " exceeds the " ++ toString service.maxDocumentBytes ++
        "-byte document limit"))
  match String.fromUTF8? ⟨resolved.content.toArray⟩ with
  | some text => return text
  | none => throw (.pathNotAllowed (resolved.name ++ " is not valid UTF-8 text"))

section Documents

variable {service} {tenantId first second text : String} {parts : List (List Char)}

theorem resolveWorkspacePath_of_parts {resolved : ResolvedPath}
    (accepted : rejectTraversal first = .ok parts)
    (again : rejectTraversal second = .ok parts)
    (found : service.resolveWorkspacePath first tenantId = .ok resolved) :
    service.resolveWorkspacePath second tenantId = .ok resolved := by
  unfold resolveWorkspacePath at found ⊢
  rw [accepted] at found
  rw [again]
  cases configured : service.roots.get? tenantId with
  | none =>
      rw [configured] at found
      cases found
  | some root =>
      rw [configured] at found
      by_cases inside : (root parts).isInside = true
      · simpa [bind, Except.bind, inside] using found
      · simp [bind, Except.bind, inside, throw, throwThe, MonadExceptOf.throw] at found

/-- What is read was resolved from an accepted path. -/
theorem exists_resolved_of_readDocument (read : service.readDocument tenantId first = .ok text) :
    ∃ parts resolved, rejectTraversal first = .ok parts ∧
      service.resolveWorkspacePath first tenantId = .ok resolved := by
  unfold readDocument at read
  split at read
  · cases read
  · obtain ⟨resolved, found, -⟩ := bind_eq_ok.mp read
    have resolves := found
    unfold resolveWorkspacePath at found
    obtain ⟨parts, accepted, -⟩ := bind_eq_ok.mp found
    exact ⟨parts, resolved, accepted, resolves⟩

/-- Texts that name one path read one document. -/
theorem readDocument_of_parts (accepted : rejectTraversal first = .ok parts)
    (again : rejectTraversal second = .ok parts)
    (read : service.readDocument tenantId first = .ok text) :
    service.readDocument tenantId second = .ok text := by
  obtain ⟨-, resolved, -, found⟩ := exists_resolved_of_readDocument read
  have foundAgain := resolveWorkspacePath_of_parts accepted again found
  unfold readDocument at read ⊢
  rw [found] at read
  rwa [foundAgain]

end Documents

/-- A call of the `read_document` tool, as the executor sees it. -/
def readDocumentCall (request : ExecutionRequest) : Except UpstreamError String :=
  match textArgument request.sent "tenant_id", textArgument request.sent "path" with
  | some tenantId, some path =>
      (service.readDocument tenantId path).mapError fun error =>
        ⟨"validation error: " ++ error.message, .invalidArguments⟩
  | _, _ => .error ⟨"validation error for read_document", .invalidArguments⟩

end FilesystemService

end ResearchPlatform
