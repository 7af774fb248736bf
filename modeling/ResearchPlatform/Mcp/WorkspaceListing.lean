import Mathlib.Data.Char
import Mathlib.Data.List.Lex
import Mathlib.Data.List.Sort
import ResearchPlatform.Foundation.FileTree
import ResearchPlatform.Mcp.FilesystemBoundary

/-!
# Workspace listings

`list_workspace` and the boundary of the filesystem server over a tree of files with links.
-/

namespace ResearchPlatform

open Foundation

/-- What is raised: what the server reports, or the `RuntimeError` of `Path.resolve` for a
path that leads round in links. -/
inductive WorkspaceFault where
  | refused (error : DocumentError)
  | loops
  deriving DecidableEq

/-- `MAX_LISTED_ENTRIES`. -/
def maxListedEntries : Nat := 500

/-- `path.name`. -/
def nameOf (path : FilePath) : FileName := path.getLast?.getD []

/-- `path.suffix`. -/
def suffixOf (path : FilePath) : List Char :=
  let extension := (nameOf path).rtakeWhile (· ≠ '.')
  let stem := (nameOf path).rdropWhile (· ≠ '.')
  if extension = [] ∨ stem.length ≤ 1 then [] else '.' :: extension

/-- `path.suffix.lower() in READABLE_SUFFIXES`. -/
def hasReadableSuffix (path : FilePath) : Bool :=
  String.ofList ((suffixOf path).map Char.toLower) ∈ readableSuffixes

/-- `relative.as_posix()`. -/
def asPosix (relative : FilePath) : String :=
  if relative = [] then "." else String.ofList (['/'].intercalate relative)

/-- `WorkspaceRoots`, and the files of the machine. -/
structure WorkspaceRoots where
  tree : FileTree
  roots : Dict String FilePath

namespace WorkspaceRoots

variable (workspaces : WorkspaceRoots)

/-- `path.resolve()`. -/
def resolve (path : FilePath) : Except WorkspaceFault FilePath :=
  match workspaces.tree.resolve path with
  | none => .error .loops
  | some real => .ok real

/-- `roots.root_for(tenant_id).resolve()`. -/
def rootFor (tenantId : String) : Except WorkspaceFault FilePath :=
  match workspaces.roots.get? tenantId with
  | none =>
      .error (.refused (.pathNotAllowed
        ("tenant " ++ tenantId ++ " has no configured workspace")))
  | some configured => workspaces.resolve configured

/-- `resolve_workspace_path`. -/
def resolveWorkspacePath (relativePath tenantId : String) : Except WorkspaceFault FilePath := do
  let pure ← (rejectTraversal relativePath).mapError .refused
  let root ← workspaces.rootFor tenantId
  let candidate ← workspaces.resolve (root ++ pure)
  if root <+: candidate then
    return candidate
  else
    throw (.refused (.pathNotAllowed
      (reprText relativePath ++ " resolves outside the tenant workspace")))

/-- `ensure_readable_document`. -/
def ensureReadableDocument (path : FilePath) : Except WorkspaceFault FilePath :=
  if !hasReadableSuffix path then
    .error (.refused (.pathNotAllowed
      ((if suffixOf path = [] then "(no suffix)" else String.ofList (suffixOf path)) ++
        " is not a readable document type")))
  else if (workspaces.tree.stat path).isNone then
    .error (.refused (.fileNotFound
      (String.ofList (nameOf path) ++ " is not present in the tenant workspace")))
  else if !workspaces.tree.isFile path then
    .error (.refused (.pathNotAllowed
      (String.ofList (nameOf path) ++ " is not an ordinary file")))
  else
    .ok path

/-- What is listed for a path that was found, relative to the root, if anything. -/
def listedAs (root path : FilePath) : Option FilePath :=
  if !workspaces.tree.isFile path || !hasReadableSuffix path then
    none
  else
    match workspaces.tree.resolve path with
    | none => none
    | some real =>
        if root <+: real then
          let relative := real.drop root.length
          if relative.any (·.head? = some '.') then none else some relative
        else
          none

/-- The loop of `list_workspace` over the paths that were found. -/
def listFrom (root : FilePath) : List FilePath → List String → List String
  | [], entries => entries
  | path :: rest, entries =>
      if maxListedEntries ≤ entries.length then
        entries
      else
        match workspaces.listedAs root path with
        | none => listFrom root rest entries
        | some relative => listFrom root rest (entries ++ [asPosix relative])

/-- `sorted(root.rglob("*"))`. -/
def found (root : FilePath) : List FilePath :=
  (workspaces.tree.descendants root).insertionSort (· ≤ ·)

/-- `list_workspace`. -/
def listWorkspace (tenantId : String) : Except WorkspaceFault (List String) := do
  let root ← workspaces.rootFor tenantId
  if workspaces.tree.stat root ≠ some .directory then
    throw (.refused (.pathNotAllowed
      ("workspace for " ++ tenantId ++ " is not a directory")))
  return workspaces.listFrom root (workspaces.found root) []

/-! ## The service over a tree of files -/

/-- What a resolved path of a workspace is. -/
def describe (root path : FilePath) : ResolvedPath where
  name := String.ofList (nameOf path)
  suffix := String.ofList (suffixOf path)
  isInside := root <+: path
  isPresent := (workspaces.tree.stat path).isSome
  isFile := workspaces.tree.isFile path
  content :=
    match workspaces.tree.stat path with
    | some (.file content) => content
    | _ => []

/-- A path that leads round in links is nowhere. -/
def nowhere : ResolvedPath :=
  { name := "", suffix := "", isInside := false, isPresent := false, isFile := false,
    content := [] }

/-- The workspace below a configured root. -/
def workspace (configured : FilePath) : Workspace := fun parts =>
  match workspaces.tree.resolve configured with
  | none => nowhere
  | some root =>
      match workspaces.tree.resolve (root ++ parts) with
      | none => nowhere
      | some path => workspaces.describe root path

/-- `FilesystemService`, over the workspaces. -/
def service : FilesystemService where
  roots := workspaces.roots.mapValues fun _ => workspaces.workspace

section Service

variable {workspaces} {relativePath tenantId : String} {path : FilePath}

/-- What is accepted over the tree is accepted by the service, as what it is. -/
theorem service_resolveWorkspacePath
    (accepted : workspaces.resolveWorkspacePath relativePath tenantId = .ok path) :
    ∃ root, workspaces.rootFor tenantId = .ok root ∧ root <+: path ∧
      workspaces.service.resolveWorkspacePath relativePath tenantId =
        .ok (workspaces.describe root path) := by
  obtain ⟨parts, passed, accepted⟩ := bind_eq_ok.mp accepted
  obtain ⟨root, isRoot, accepted⟩ := bind_eq_ok.mp accepted
  obtain ⟨candidate, resolved, accepted⟩ := bind_eq_ok.mp accepted
  have passedParts := mapError_eq_ok.mp passed
  split at accepted
  · rename_i isInside
    obtain rfl := Except.ok.inj accepted
    refine ⟨root, isRoot, isInside, ?_⟩
    unfold rootFor at isRoot
    cases configured : workspaces.roots.get? tenantId with
    | none =>
        rw [configured] at isRoot
        cases isRoot
    | some start =>
        rw [configured] at isRoot
        unfold resolve at isRoot resolved
        cases isReal : workspaces.tree.resolve start with
        | none =>
            simp only [isReal] at isRoot
            cases isRoot
        | some real =>
            simp only [isReal] at isRoot
            obtain rfl := Except.ok.inj isRoot
            cases isPath : workspaces.tree.resolve (real ++ parts) with
            | none =>
                rw [isPath] at resolved
                cases resolved
            | some leads =>
                rw [isPath] at resolved
                obtain rfl := Except.ok.inj resolved
                have known : workspaces.service.roots.get? tenantId =
                    some (workspaces.workspace start) := by
                  rw [service, Dict.get?_mapValues, configured]
                  rfl
                have there : workspaces.workspace start parts =
                    workspaces.describe real leads := by
                  unfold workspace
                  rw [isReal]
                  simp only [isPath]
                have inside : (workspaces.describe real leads).isInside = true :=
                  decide_eq_true isInside
                unfold FilesystemService.resolveWorkspacePath
                rw [passedParts, known]
                simp only [bind, Except.bind, there, if_pos inside]
                rfl
  · cases accepted

theorem ensureReadableDocument_eq_ok :
    workspaces.ensureReadableDocument path = .ok path ↔
      hasReadableSuffix path = true ∧ (workspaces.tree.stat path).isSome = true ∧
        workspaces.tree.isFile path = true := by
  unfold ensureReadableDocument
  by_cases readable : hasReadableSuffix path = true
  · rw [if_neg (by simp [readable])]
    cases stat : workspaces.tree.stat path with
    | none => simp
    | some node =>
        rw [if_neg (by simp)]
        cases isFile : workspaces.tree.isFile path with
        | true => simp [readable]
        | false => simp
  · rw [if_pos (by simp [readable])]
    simp [readable]

/-- The two checks of a document are one. -/
theorem service_ensureReadableDocument {root : FilePath} :
    FilesystemService.ensureReadableDocument (workspaces.describe root path) =
        .ok (workspaces.describe root path) ↔
      workspaces.ensureReadableDocument path = .ok path := by
  rw [ensureReadableDocument_eq_ok]
  have suffix : String.ofList
      ((workspaces.describe root path).suffix.toList.map Char.toLower) ∈ readableSuffixes ↔
        hasReadableSuffix path = true := by
    rw [describe, String.toList_ofList, hasReadableSuffix, decide_eq_true_iff]
  have present : (workspaces.describe root path).isPresent =
      (workspaces.tree.stat path).isSome := rfl
  have isFile : (workspaces.describe root path).isFile = workspaces.tree.isFile path := rfl
  rw [← suffix, ← present, ← isFile]
  generalize workspaces.describe root path = described
  unfold FilesystemService.ensureReadableDocument
  by_cases readable : String.ofList (described.suffix.toList.map Char.toLower) ∈ readableSuffixes
  · rw [if_neg (not_not.mpr readable)]
    cases described.isPresent with
    | false => simp
    | true => cases described.isFile <;> simp [readable]
  · rw [if_pos readable]
    simp [readable]

end Service

end WorkspaceRoots

end ResearchPlatform
