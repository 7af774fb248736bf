import ResearchPlatform.Mcp.WorkspaceListing

/-!
# Listed documents

A listing names the files that links lead to.  Such a name may come twice, and a name that is
read back may be refused or lead elsewhere; the exact condition for neither is given.
-/

namespace ResearchPlatform

open Foundation

/-! ## What is listed -/

namespace WorkspaceRoots

variable (workspaces : WorkspaceRoots)

/-- The files that are listed, relative to the root, as often as they are. -/
def offered (root : FilePath) : List FilePath :=
  ((workspaces.found root).filterMap (workspaces.listedAs root)).take maxListedEntries

variable {workspaces} {root path relative : FilePath} {tenantId : String}

/-- The loop adds what is listed, up to the limit.  The induction is on the paths. -/
theorem listFrom_eq {paths : List FilePath} {entries : List String} :
    workspaces.listFrom root paths entries = entries ++
      ((paths.filterMap (workspaces.listedAs root)).take
        (maxListedEntries - entries.length)).map asPosix := by
  induction paths generalizing entries with
  | nil => simp [listFrom]
  | cons path rest inductionHypothesis =>
      unfold listFrom
      by_cases full : maxListedEntries ≤ entries.length
      · rw [if_pos full, Nat.sub_eq_zero_of_le full]
        simp
      · rw [if_neg full]
        cases listed : workspaces.listedAs root path with
        | none => rw [List.filterMap_cons_none listed, inductionHypothesis]
        | some relative =>
            have left : maxListedEntries - entries.length =
                (maxListedEntries - (entries ++ [asPosix relative]).length) + 1 := by
              rw [List.length_append, List.length_singleton]
              omega
            dsimp only
            rw [List.filterMap_cons_some listed, inductionHypothesis, left, List.take_succ_cons,
              List.map_cons, List.append_assoc]
            rfl

/-- What is listed is a file in the workspace, by a path without links or hidden names. -/
structure Lists (workspaces : WorkspaceRoots) (root relative : FilePath) : Prop where
  isReal : workspaces.tree.IsReal (root ++ relative)
  isFile : ∃ content, workspaces.tree.node? (root ++ relative) = some (.file content)
  shown : ∀ part ∈ relative, part.head? ≠ some '.'

theorem lists_of_listedAs (listed : workspaces.listedAs root path = some relative) :
    workspaces.Lists root relative := by
  unfold listedAs at listed
  split at listed
  · cases listed
  · rename_i passes
    have isFile : workspaces.tree.isFile path = true := by
      by_contra other
      simp [other] at passes
    obtain ⟨content, leads⟩ := FileTree.isFile_iff.mp isFile
    obtain ⟨real, resolved, isReal, found⟩ := FileTree.resolve_of_stat leads
    rw [resolved] at listed
    dsimp only at listed
    split at listed
    · rename_i inside
      obtain ⟨rest, rfl⟩ := inside
      rw [List.drop_left] at listed
      split at listed
      · cases listed
      · rename_i shown
        obtain rfl := Option.some.inj listed
        refine ⟨isReal, ⟨content, found⟩, ?_⟩
        simpa using shown
    · cases listed

theorem lists_of_mem_offered (member : relative ∈ workspaces.offered root) :
    workspaces.Lists root relative := by
  obtain ⟨path, -, listed⟩ := List.mem_filterMap.mp (List.mem_of_mem_take member)
  exact lists_of_listedAs listed

theorem Lists.named (lists : workspaces.Lists root relative) :
    ∀ name ∈ relative, IsFileName name := by
  intro name member
  obtain ⟨content, found⟩ := lists.isFile
  exact FileTree.isFileName_of_node? found name (List.mem_append_right root member)

theorem Lists.ne_nil (lists : workspaces.Lists root relative)
    (isDirectory : workspaces.tree.node? root = some .directory) : relative ≠ [] := by
  rintro rfl
  obtain ⟨content, found⟩ := lists.isFile
  rw [List.append_nil, isDirectory] at found
  cases found

end WorkspaceRoots

/-! ## Paths and their texts -/

section Texts

variable {relative first second : FilePath}

theorem pathParts_cons {name : FileName} {rest : List Char} (isName : IsFileName name) :
    pathParts (name ++ '/' :: rest) = name :: pathParts rest ∧ pathParts name = [name] := by
  have free : ∀ char ∈ name, (char == '/') = false := by
    intro char member
    rw [beq_eq_false_iff_ne]
    rintro rfl
    exact isName.noSlash member
  have kept : name ≠ [] ∧ name ≠ ['.'] := ⟨isName.notEmpty, isName.notSelf⟩
  constructor
  · rw [pathParts, List.splitOn, List.splitOnP_append_cons_of_forall_mem free '/' rfl,
      List.filter_cons_of_pos (by simpa using kept)]
    rfl
  · rw [pathParts, List.splitOn, List.splitOnP_eq_singleton free,
      List.filter_cons_of_pos (by simpa using kept)]
    rfl

theorem toList_asPosix (some : relative ≠ []) :
    (asPosix relative).toList = ['/'].intercalate relative := by
  rw [asPosix, if_neg some, String.toList_ofList]

/-- The text of a path has the parts of the path. -/
theorem pathParts_asPosix (some : relative ≠ []) (named : ∀ name ∈ relative, IsFileName name) :
    pathParts (asPosix relative).toList = relative := by
  rw [toList_asPosix some]
  induction relative with
  | nil => exact absurd rfl some
  | cons name rest inductionHypothesis =>
      have isName := named name List.mem_cons_self
      cases rest with
      | nil => rw [List.intercalate_singleton, (@pathParts_cons name [] isName).2]
      | cons next later =>
          have others := inductionHypothesis (List.cons_ne_nil _ _) fun other member =>
            named other (List.mem_cons_of_mem name member)
          rw [List.intercalate_cons_cons, List.append_assoc, List.singleton_append,
            (pathParts_cons isName).1, others]

theorem asPosix_injective (someFirst : first ≠ []) (someSecond : second ≠ [])
    (namedFirst : ∀ name ∈ first, IsFileName name)
    (namedSecond : ∀ name ∈ second, IsFileName name)
    (same : asPosix first = asPosix second) : first = second := by
  rw [← pathParts_asPosix someFirst namedFirst, same, pathParts_asPosix someSecond namedSecond]

/-- A character that is changed into the last letter of a readable suffix is no white
space. -/
theorem solid_of_toLower {char : Char} {suffix : String} (readable : suffix ∈ readableSuffixes)
    (isLast : suffix.toList.getLast? = some char.toLower) : isWhitespace char = false := by
  by_contra white
  have isWhite : isWhitespace char = true := by simpa using white
  have unchanged : char.toLower = char := by
    delta Char.toLower
    rw [dif_neg]
    rintro ⟨low, high⟩
    have fromA : 65 ≤ char.toNat := low
    have toZ : char.toNat ≤ 90 := high
    simp [isWhitespace, whitespaceRanges] at isWhite
    omega
  have all : ∀ suffix ∈ readableSuffixes,
      (suffix.toList.getLast?.any fun last => isWhitespace last) = false := by decide +kernel
  have solid := all suffix readable
  rw [isLast, unchanged] at solid
  exact white solid

/-- The text of a path ends as its last name does. -/
theorem exists_intercalate_concat (parents : FilePath) (name : FileName) :
    ∃ before, ['/'].intercalate (parents ++ [name]) = before ++ name := by
  induction parents with
  | nil => exact ⟨[], by simp⟩
  | cons parent rest inductionHypothesis =>
      obtain ⟨before, ends⟩ := inductionHypothesis
      refine ⟨parent ++ ['/'] ++ before, ?_⟩
      rw [List.cons_append, List.intercalate_cons_of_ne_nil (by simp), ends]
      simp

/-- A path with a readable suffix does not end in white space. -/
theorem solid_of_hasReadableSuffix (readable : hasReadableSuffix relative = true) :
    ∀ char ∈ (asPosix relative).toList.getLast?, isWhitespace char = false := by
  intro char isLast
  have isReadable : String.ofList ((suffixOf relative).map Char.toLower) ∈ readableSuffixes := by
    simpa [hasReadableSuffix] using readable
  unfold suffixOf at isReadable
  dsimp only at isReadable
  split at isReadable
  · exact absurd isReadable (by decide)
  · rename_i extended
    have someExtension := (not_or.mp extended).1
    have whole : (nameOf relative).rdropWhile (· ≠ '.') ++
        (nameOf relative).rtakeWhile (· ≠ '.') = nameOf relative :=
      List.rdropWhile_append_rtakeWhile
    rcases List.eq_nil_or_concat' relative with rfl | ⟨parents, name, rfl⟩
    · exact absurd rfl someExtension
    · have isName : nameOf (parents ++ [name]) = name := by simp [nameOf]
      rw [isName] at isReadable someExtension whole
      obtain ⟨before, ends⟩ := exists_intercalate_concat parents name
      rw [toList_asPosix (by simp), ends, ← whole, ← List.append_assoc,
        List.getLast?_append_of_ne_nil _ someExtension] at isLast
      apply solid_of_toLower isReadable
      rw [String.toList_ofList, List.getLast?_map, List.getLast?_cons, Option.mem_def.mp isLast]
      rfl

end Texts

/-! ## Reading what is listed -/

/-- The text of the path is read as it is written. -/
structure IsPlain (relative : FilePath) : Prop where
  begins : ∀ char ∈ (asPosix relative).toList.head?, isWhitespace char = false
  noBackslash : '\\' ∉ (asPosix relative).toList

theorem IsPlain.candidatePath_eq {relative : FilePath} (plain : IsPlain relative)
    (readable : hasReadableSuffix relative = true) :
    candidatePath (asPosix relative) = (asPosix relative).toList := by
  have trimmed : Trimmed (asPosix relative).toList :=
    ⟨plain.begins, solid_of_hasReadableSuffix readable⟩
  have same : ∀ char ∈ (asPosix relative).toList, (if char = '\\' then '/' else char) = id char := by
    intro char member
    apply if_neg
    rintro rfl
    exact plain.noBackslash member
  rw [candidatePath, trimmed.trim_eq, forwardSlashes, List.map_congr_left same, List.map_id]

/-- A colon stays in a path that is cleaned. -/
theorem colon_mem_candidatePath {text : String} : ':' ∈ candidatePath text ↔ ':' ∈ text.toList := by
  rw [candidatePath, forwardSlashes, List.mem_map]
  constructor
  · rintro ⟨char, member, same⟩
    split at same
    · exact absurd same (by decide)
    · rw [← same]
      exact mem_of_mem_trim member
  · intro member
    exact ⟨':', mem_trim_of_mem (by decide) member, rfl⟩

/-- The text of a path does not begin with a slash. -/
theorem head?_asPosix_ne {relative : FilePath} (below : relative ≠ [])
    (named : ∀ name ∈ relative, IsFileName name) :
    (asPosix relative).toList.head? ≠ some '/' := by
  intro isSlash
  rw [toList_asPosix below] at isSlash
  cases relative with
  | nil => exact below rfl
  | cons name rest =>
      have isName := named name List.mem_cons_self
      have begins : (['/'].intercalate (name :: rest)).head? = name.head? := by
        cases rest with
        | nil => rw [List.intercalate_singleton]
        | cons next later =>
            rw [List.intercalate_cons_cons, List.append_assoc,
              List.head?_append_of_ne_nil _ isName.notEmpty]
      rw [begins] at isSlash
      exact isName.noSlash (List.mem_of_mem_head? isSlash)

namespace WorkspaceRoots

variable (workspaces : WorkspaceRoots)

/-- The text leads through links to the file, though it is not read as it is written. -/
structure LeadsBack (root relative : FilePath) : Prop where
  isRelative : (candidatePath (asPosix relative)).head? ≠ some '/'
  shown : ∀ part ∈ pathParts (candidatePath (asPosix relative)), part.head? ≠ some '.'
  leads : workspaces.tree.resolve (root ++ pathParts (candidatePath (asPosix relative))) =
    some (root ++ relative)

/-- The file has a readable suffix and no colon in its path, whose text is plain or leads back
to it. -/
structure Legible (root relative : FilePath) : Prop where
  suffix : hasReadableSuffix relative = true
  noColon : ':' ∉ (asPosix relative).toList
  leads : IsPlain relative ∨ workspaces.LeadsBack root relative

/-- The text of the path is accepted and leads to the file itself. -/
def Reads (tenantId : String) (root relative : FilePath) : Prop :=
  workspaces.resolveWorkspacePath (asPosix relative) tenantId = .ok (root ++ relative) ∧
    workspaces.ensureReadableDocument (root ++ relative) = .ok (root ++ relative)

variable {workspaces} {root path relative : FilePath} {relativePath tenantId : String}

theorem resolveWorkspacePath_eq_ok (isRoot : workspaces.rootFor tenantId = .ok root) :
    workspaces.resolveWorkspacePath relativePath tenantId = .ok path ↔
      ∃ parts, rejectTraversal relativePath = .ok parts ∧
        workspaces.tree.resolve (root ++ parts) = some path ∧ root <+: path := by
  unfold resolveWorkspacePath
  rw [isRoot]
  constructor
  · intro accepted
    obtain ⟨parts, passed, accepted⟩ := bind_eq_ok.mp accepted
    obtain ⟨start, isStart, accepted⟩ := bind_eq_ok.mp accepted
    obtain rfl := Except.ok.inj isStart
    obtain ⟨candidate, resolved, accepted⟩ := bind_eq_ok.mp accepted
    unfold resolve at resolved
    split at resolved
    · cases resolved
    · rename_i real leads
      obtain rfl := Except.ok.inj resolved
      split at accepted
      · rename_i inside
        obtain rfl := Except.ok.inj accepted
        exact ⟨parts, mapError_eq_ok.mp passed, leads, inside⟩
      · cases accepted
  · rintro ⟨parts, passed, leads, inside⟩
    have found : workspaces.resolve (root ++ parts) = .ok path := by rw [resolve, leads]
    rw [passed]
    simp only [Except.mapError, bind, Except.bind, found, if_pos inside]
    rfl

theorem suffixOf_append (some : relative ≠ []) : suffixOf (root ++ relative) = suffixOf relative := by
  have isName : nameOf (root ++ relative) = nameOf relative := by
    rw [nameOf, nameOf, List.getLast?_append_of_ne_nil _ some]
  rw [suffixOf, suffixOf, isName]

/-- What a root is: a directory, named without links. -/
structure IsRoot (workspaces : WorkspaceRoots) (root : FilePath) : Prop where
  isReal : workspaces.tree.IsReal root
  isDirectory : workspaces.tree.node? root = some .directory

/-- What is listed is read exactly when it is legible. -/
theorem reads_iff (isRoot : workspaces.rootFor tenantId = .ok root)
    (directory : workspaces.IsRoot root) (lists : workspaces.Lists root relative) :
    workspaces.Reads tenantId root relative ↔ workspaces.Legible root relative := by
  have some := lists.ne_nil directory.isDirectory
  obtain ⟨content, found⟩ := lists.isFile
  have stat := FileTree.stat_real lists.isReal found
  have resolved := FileTree.resolve_real lists.isReal
  have isFile : workspaces.tree.isFile (root ++ relative) = true :=
    FileTree.isFile_iff.mpr ⟨content, stat⟩
  have suffix : hasReadableSuffix (root ++ relative) = hasReadableSuffix relative := by
    rw [hasReadableSuffix, hasReadableSuffix, suffixOf_append some]
  have isRead : workspaces.ensureReadableDocument (root ++ relative) = .ok (root ++ relative) ↔
      hasReadableSuffix relative = true := by
    rw [ensureReadableDocument_eq_ok, suffix, stat, isFile]
    simp
  unfold Reads
  rw [isRead, resolveWorkspacePath_eq_ok isRoot]
  constructor
  · rintro ⟨⟨parts, passed, leads, -⟩, readable⟩
    obtain ⟨-, isRelative, noColon, shown, rfl⟩ := rejectTraversal_eq_ok.mp passed
    exact ⟨readable, mt colon_mem_candidatePath.mpr noColon, Or.inr ⟨isRelative, shown, leads⟩⟩
  · rintro ⟨readable, noColon, plain | ⟨isRelative, shown, leads⟩⟩
    · have named := lists.named
      have parts := pathParts_asPosix some named
      have candidate := plain.candidatePath_eq readable
      have someText : (asPosix relative).toList ≠ [] := by
        intro isEmpty
        rw [isEmpty] at parts
        exact some parts.symm
      refine ⟨⟨relative, rejectTraversal_eq_ok.mpr ?_, resolved, List.prefix_append ..⟩, readable⟩
      rw [candidate, parts]
      exact ⟨someText, head?_asPosix_ne some named, noColon, lists.shown, rfl⟩
    · have someCandidate : candidatePath (asPosix relative) ≠ [] := by
        intro isEmpty
        have nothing : pathParts [] = [] := rfl
        have own := FileTree.resolve_real directory.isReal
        rw [isEmpty, nothing, List.append_nil, own] at leads
        exact some (List.self_eq_append_right.mp (Option.some.inj leads))
      refine ⟨⟨_, rejectTraversal_eq_ok.mpr ?_, leads, List.prefix_append ..⟩, readable⟩
      exact ⟨someCandidate, isRelative, mt colon_mem_candidatePath.mp noColon, shown, rfl⟩

/-- The root of a workspace that was listed is a directory without links. -/
theorem isRoot_of_listed (isRoot : workspaces.rootFor tenantId = .ok root)
    (isDirectory : workspaces.tree.stat root = some .directory) : workspaces.IsRoot root := by
  have isReal : workspaces.tree.IsReal root := by
    unfold rootFor at isRoot
    split at isRoot
    · cases isRoot
    · unfold resolve at isRoot
      split at isRoot
      · cases isRoot
      · rename_i real resolved
        obtain rfl := Except.ok.inj isRoot
        exact FileTree.isReal_of_resolve resolved
  obtain ⟨real, resolved, -, found⟩ := FileTree.resolve_of_stat isDirectory
  rw [FileTree.resolve_real isReal] at resolved
  obtain rfl := Option.some.inj resolved
  exact ⟨isReal, found⟩

/-- A listing is of the files that are offered.  Its entries are distinct and each reads the
file that it was listed for exactly when these files are distinct and each is legible. -/
theorem listing_isReadable_iff {entries : List String}
    (listed : workspaces.listWorkspace tenantId = .ok entries) :
    ∃ root, workspaces.rootFor tenantId = .ok root ∧
      entries = (workspaces.offered root).map asPosix ∧
      (entries.Nodup ∧
          (∀ relative ∈ workspaces.offered root, workspaces.Reads tenantId root relative) ↔
        (workspaces.offered root).Nodup ∧
          ∀ relative ∈ workspaces.offered root, workspaces.Legible root relative) := by
  obtain ⟨root, isRoot, listed⟩ := bind_eq_ok.mp listed
  by_cases isDirectory : workspaces.tree.stat root = some .directory
  · have directory := isRoot_of_listed isRoot isDirectory
    have whole : entries = (workspaces.offered root).map asPosix := by
      have returned := Except.ok.inj ((if_neg (not_not.mpr isDirectory)).symm.trans listed)
      rw [← returned, listFrom_eq]
      rfl
    refine ⟨root, isRoot, whole, ?_⟩
    have distinct : entries.Nodup ↔ (workspaces.offered root).Nodup := by
      rw [whole]
      refine ⟨List.Nodup.of_map _, fun apart => apart.map_on ?_⟩
      intro first isFirst second isSecond same
      have listsFirst := lists_of_mem_offered isFirst
      have listsSecond := lists_of_mem_offered isSecond
      exact asPosix_injective (listsFirst.ne_nil directory.isDirectory)
        (listsSecond.ne_nil directory.isDirectory) listsFirst.named listsSecond.named same
    rw [distinct]
    apply and_congr_right
    intro _
    apply forall₂_congr
    intro relative member
    exact reads_iff isRoot directory (lists_of_mem_offered member)
  · cases (if_pos isDirectory).symm.trans listed

end WorkspaceRoots

namespace LinkedNotes

def path (names : List String) : FilePath := names.map String.toList

/-- Two workspaces.  The first has a link that leads out of it.  The second has a document by two names, one that a link only calls
readable, one whose name begins with a space, and one with a colon. -/
def workspaces : WorkspaceRoots where
  tree :=
    { nodes := ⟨
        [(path ["srv"], .directory),
          (path ["srv", "acme"], .directory),
          (path ["srv", "acme", "notes"], .directory),
          (path ["srv", "acme", "notes", "sum.md"], .file [52, 50]),
          (path ["srv", "acme", "notes", "other.txt"], .file [49]),
          (path ["srv", "acme", "away.md"], .link true (path ["srv", "globex", "report.md"])),
          (path ["srv", "globex"], .directory),
          (path ["srv", "globex", "report.md"], .file [50]),
          (path ["srv", "globex", "copy.md"], .link false (path ["report.md"])),
          (path ["srv", "globex", "raw.bin"], .file [0]),
          (path ["srv", "globex", "raw.md"], .link false (path ["raw.bin"])),
          (path ["srv", "globex", " report.md"], .file [51]),
          (path ["srv", "globex", "q:1.md"], .file [52])],
        by decide⟩
      named := by decide
      rooted := by decide }
  roots := ⟨[("acme", path ["srv", "acme"]), ("globex", path ["srv", "globex"])], by decide⟩

end LinkedNotes

open LinkedNotes in
theorem listing_isReadable_iff_at_notes :
    workspaces.listWorkspace "acme" = .ok ["notes/other.txt", "notes/sum.md"] ∧
      ∀ relative ∈ workspaces.offered (path ["srv", "acme"]),
        workspaces.Reads "acme" (path ["srv", "acme"]) relative := by
  have listed : workspaces.listWorkspace "acme" = .ok ["notes/other.txt", "notes/sum.md"] := by
    decide +kernel
  have known : workspaces.rootFor "acme" = .ok (path ["srv", "acme"]) := by decide +kernel
  have offered : workspaces.offered (path ["srv", "acme"]) =
      [path ["notes", "other.txt"], path ["notes", "sum.md"]] := by decide +kernel
  obtain ⟨root, isRoot, -, same⟩ := WorkspaceRoots.listing_isReadable_iff listed
  obtain rfl := Except.ok.inj (known.symm.trans isRoot)
  refine ⟨listed, (same.mpr ?_).2⟩
  rw [offered]
  refine ⟨by decide, ?_⟩
  intro relative member
  rcases List.mem_cons.mp member with rfl | later
  · refine ⟨by decide +kernel, by decide +kernel, Or.inl ⟨?_, by decide +kernel⟩⟩
    intro char isFirst
    obtain rfl : 'n' = char := Option.some.inj isFirst
    decide
  · obtain rfl := List.mem_singleton.mp later
    refine ⟨by decide +kernel, by decide +kernel, Or.inl ⟨?_, by decide +kernel⟩⟩
    intro char isFirst
    obtain rfl : 'n' = char := Option.some.inj isFirst
    decide

open LinkedNotes in
/-- A document is listed twice, and three entries do not read what they were listed for. -/
theorem listing_isNotReadable :
    workspaces.listWorkspace "globex" =
        .ok [" report.md", "report.md", "q:1.md", "raw.bin", "report.md"] ∧
      workspaces.resolveWorkspacePath " report.md" "globex" =
        .ok (path ["srv", "globex", "report.md"]) ∧
      workspaces.resolveWorkspacePath "q:1.md" "globex" =
        .error (.refused (.pathNotAllowed "'q:1.md' must be relative to the tenant workspace")) ∧
      workspaces.ensureReadableDocument (path ["srv", "globex", "raw.bin"]) =
        .error (.refused (.pathNotAllowed ".bin is not a readable document type")) := by
  decide +kernel

end ResearchPlatform
