import Mathlib.Data.List.Induction
import ResearchPlatform.Foundation.Dict

/-!
# Trees of files with links

Paths are lists of names from the root.  A path is resolved name by name; a link sends
the resolution to its target, and only so many links are followed.
-/

namespace ResearchPlatform.Foundation

abbrev FileName : Type := List Char

abbrev FilePath : Type := List FileName

/-- The parent of a directory. -/
def parentName : FileName := ['.', '.']

/-- What stands at a path.  A target is the list of its names, from the root or from the
directory of the link. -/
inductive FileNode where
  | file (content : List UInt8)
  | directory
  | link (fromRoot : Bool) (target : FilePath)
  deriving DecidableEq

/-- A directory can hold an entry of this name. -/
structure IsFileName (name : FileName) : Prop where
  notEmpty : name ≠ []
  noSlash : '/' ∉ name
  notSelf : name ≠ ['.']
  notParent : name ≠ parentName

instance (name : FileName) : Decidable (IsFileName name) :=
  decidable_of_iff (name ≠ [] ∧ '/' ∉ name ∧ name ≠ ['.'] ∧ name ≠ parentName)
    ⟨fun ⟨notEmpty, noSlash, notSelf, notParent⟩ => ⟨notEmpty, noSlash, notSelf, notParent⟩,
      fun isName => ⟨isName.notEmpty, isName.noSlash, isName.notSelf, isName.notParent⟩⟩

/-- What is below the root, and how many links one path may lead through. -/
structure FileTree where
  nodes : Dict FilePath FileNode
  maxLinks : Nat := 40
  named : ∀ entry ∈ nodes.entries, ∀ name ∈ entry.1, IsFileName name
  rooted : ∀ entry ∈ nodes.entries,
    entry.1.dropLast = [] ∨ (entry.1.dropLast, .directory) ∈ nodes.entries

namespace FileTree

variable (tree : FileTree)

/-- What is found at a path without following a link at its end. -/
def node? (path : FilePath) : Option FileNode :=
  if path = [] then some .directory else tree.nodes.get? path

/-- Go on from a directory by the names that are left; `jump` takes over at a link.  A strict
walk does not pass through what is no directory. -/
def walk (strict : Bool) (jump : FilePath → FilePath → Option FilePath) :
    FilePath → FilePath → Option FilePath
  | current, [] => some current
  | current, name :: rest =>
      if strict ∧ tree.node? current ≠ some .directory then none
      else if name = parentName then walk strict jump current.dropLast rest
      else
        match tree.node? (current ++ [name]) with
        | some (.link fromRoot target) =>
            jump (if fromRoot then [] else current) (target ++ rest)
        | _ => walk strict jump (current ++ [name]) rest

/-- The path without links, or `none` where more links than are left would be followed. -/
def follow (strict : Bool) : Nat → FilePath → FilePath → Option FilePath
  | 0 => tree.walk strict fun _ _ => none
  | links + 1 => tree.walk strict (follow strict links)

/-- The path without links, whether or not there is something. -/
def resolve (path : FilePath) : Option FilePath := tree.follow false tree.maxLinks [] path

/-- What a path leads to. -/
def stat (path : FilePath) : Option FileNode :=
  (tree.follow true tree.maxLinks [] path).bind tree.node?

/-- The path leads to a file. -/
def isFile (path : FilePath) : Bool :=
  (tree.stat path).any fun
    | .file _ => true
    | _ => false

/-- All paths below a directory, through no link. -/
def descendants (directory : FilePath) : List FilePath :=
  (tree.nodes.entries.map Prod.fst).filter fun path => directory <+: path ∧ path ≠ directory

/-- No name of the path is a parent, and no beginning of it is a link. -/
structure IsReal (path : FilePath) : Prop where
  noParent : parentName ∉ path
  noLink : ∀ start, start <+: path → ∀ fromRoot target,
    tree.node? start ≠ some (.link fromRoot target)

variable {tree} {strict : Bool} {links : Nat} {current rest path real : FilePath}

theorem IsReal.start {start : FilePath} (isReal : tree.IsReal path) (isStart : start <+: path) :
    tree.IsReal start where
  noParent := fun member => isReal.noParent (isStart.subset member)
  noLink := fun other isOther => isReal.noLink other (isOther.trans isStart)

theorem isReal_nil : tree.IsReal [] where
  noParent := List.not_mem_nil
  noLink := by
    intro start isStart fromRoot target
    rw [List.prefix_nil.mp isStart]
    simp [node?]

theorem IsReal.snoc {name : FileName} (isReal : tree.IsReal path) (isName : name ≠ parentName)
    (noLink : ∀ fromRoot target, tree.node? (path ++ [name]) ≠ some (.link fromRoot target)) :
    tree.IsReal (path ++ [name]) where
  noParent := by
    intro member
    rcases List.mem_append.mp member with earlier | last
    · exact isReal.noParent earlier
    · exact isName (List.mem_singleton.mp last).symm
  noLink := by
    intro start isStart
    rcases List.prefix_concat_iff.mp isStart with rfl | shorter
    · exact noLink
    · exact isReal.noLink start shorter

/-- One step of a walk: at a name there is a parent, a link, or something else. -/
theorem walk_cons {jump : FilePath → FilePath → Option FilePath} {name : FileName}
    (walked : tree.walk strict jump current (name :: rest) = some real) :
    (name = parentName ∧ tree.walk strict jump current.dropLast rest = some real) ∨
      (name ≠ parentName ∧ ∃ fromRoot target,
        tree.node? (current ++ [name]) = some (.link fromRoot target) ∧
        jump (if fromRoot then [] else current) (target ++ rest) = some real) ∨
      (name ≠ parentName ∧
        (∀ fromRoot target, tree.node? (current ++ [name]) ≠ some (.link fromRoot target)) ∧
        tree.walk strict jump (current ++ [name]) rest = some real) := by
  unfold walk at walked
  split at walked
  · cases walked
  · by_cases isParent : name = parentName
    · rw [if_pos isParent] at walked
      exact Or.inl ⟨isParent, walked⟩
    · rw [if_neg isParent] at walked
      refine Or.inr ?_
      split at walked
      · rename_i fromRoot target isLink
        exact Or.inl ⟨isParent, fromRoot, target, isLink, walked⟩
      · rename_i noLink
        exact Or.inr ⟨isParent, noLink, walked⟩

/-- What was resolved has no links.  The inductions are on the links that are left and on the
names. -/
theorem isReal_of_walk {jump : FilePath → FilePath → Option FilePath}
    (jumps : ∀ base names, tree.IsReal base → jump base names = some real → tree.IsReal real)
    (isReal : tree.IsReal current) (walked : tree.walk strict jump current rest = some real) :
    tree.IsReal real := by
  induction rest generalizing current with
  | nil =>
      obtain rfl := Option.some.inj walked
      exact isReal
  | cons name rest inductionHypothesis =>
      rcases walk_cons walked with ⟨-, later⟩ | ⟨-, fromRoot, target, -, later⟩ |
        ⟨isName, noLink, later⟩
      · exact inductionHypothesis (isReal.start (List.dropLast_prefix current)) later
      · refine jumps _ _ ?_ later
        split
        · exact isReal_nil
        · exact isReal
      · exact inductionHypothesis (isReal.snoc isName noLink) later

theorem isReal_of_follow (isReal : tree.IsReal current)
    (followed : tree.follow strict links current rest = some real) : tree.IsReal real := by
  induction links generalizing current rest with
  | zero => exact isReal_of_walk (by simp) isReal followed
  | succ links inductionHypothesis =>
      exact isReal_of_walk (fun _ _ base => inductionHypothesis base) isReal followed

theorem isReal_of_resolve (resolved : tree.resolve path = some real) : tree.IsReal real :=
  isReal_of_follow isReal_nil resolved

/-- Where a strict walk ends, any walk does. -/
theorem walk_of_strict {jump other : FilePath → FilePath → Option FilePath}
    (jumps : ∀ base names, jump base names = some real → other base names = some real)
    (walked : tree.walk true jump current rest = some real) :
    tree.walk false other current rest = some real := by
  induction rest generalizing current with
  | nil => exact walked
  | cons name rest inductionHypothesis =>
      unfold walk
      rw [if_neg (by simp)]
      rcases walk_cons walked with ⟨isParent, later⟩ | ⟨isName, fromRoot, target, isLink, later⟩ |
        ⟨isName, noLink, later⟩
      · rw [if_pos isParent]
        exact inductionHypothesis later
      · rw [if_neg isName, isLink]
        exact jumps _ _ later
      · rw [if_neg isName]
        split
        · rename_i fromRoot target isLink
          exact absurd isLink (noLink fromRoot target)
        · exact inductionHypothesis later

theorem follow_of_strict (followed : tree.follow true links current rest = some real) :
    tree.follow false links current rest = some real := by
  induction links generalizing current rest with
  | zero => exact walk_of_strict (by simp) followed
  | succ links inductionHypothesis =>
      exact walk_of_strict (fun _ _ jumped => inductionHypothesis jumped) followed

/-- A path without links and parents is resolved to itself. -/
theorem walk_real {jump : FilePath → FilePath → Option FilePath}
    (isReal : tree.IsReal (current ++ rest))
    (above : strict = true → ∀ start name, start ++ [name] <+: current ++ rest →
      tree.node? start = some .directory) :
    tree.walk strict jump current rest = some (current ++ rest) := by
  induction rest generalizing current with
  | nil => rw [walk, List.append_nil]
  | cons name rest inductionHypothesis =>
      have isStart : current ++ [name] <+: current ++ name :: rest := by simp
      have isName : name ≠ parentName := by
        rintro rfl
        exact isReal.noParent (List.mem_append_right current List.mem_cons_self)
      unfold walk
      rw [if_neg ?passes, if_neg isName]
      case passes =>
        rintro ⟨isStrict, closed⟩
        exact closed (above isStrict current name isStart)
      split
      · rename_i fromRoot target isLink
        exact absurd isLink (isReal.noLink _ isStart fromRoot target)
      · have whole : current ++ name :: rest = (current ++ [name]) ++ rest := by simp
        rw [whole] at isReal above ⊢
        exact inductionHypothesis isReal above

theorem follow_real (isReal : tree.IsReal (current ++ rest))
    (above : strict = true → ∀ start name, start ++ [name] <+: current ++ rest →
      tree.node? start = some .directory) :
    tree.follow strict links current rest = some (current ++ rest) := by
  cases links with
  | zero => exact walk_real isReal above
  | succ links => exact walk_real isReal above

/-! ## What is there -/

/-- What is found below the root is an entry. -/
theorem mem_of_node? {node : FileNode} (found : tree.node? path = some node)
    (below : path ≠ []) : (path, node) ∈ tree.nodes.entries := by
  rw [node?, if_neg below] at found
  exact Dict.mem_entries_of_get? found

theorem isFileName_of_node? {node : FileNode} (found : tree.node? path = some node) :
    ∀ name ∈ path, IsFileName name := by
  by_cases below : path = []
  · simp [below]
  · exact tree.named (path, node) (mem_of_node? found below)

/-- All above an entry are directories.  The induction is from the end of the path. -/
theorem directory_above {node : FileNode} (found : tree.node? path = some node)
    {start : FilePath} {name : FileName} (isStart : start ++ [name] <+: path) :
    tree.node? start = some .directory := by
  induction path using List.reverseRecOn generalizing node with
  | nil => simp at isStart
  | append_singleton parent last inductionHypothesis =>
      have isDirectory : tree.node? parent = some .directory := by
        have above := tree.rooted (parent ++ [last], node) (mem_of_node? found (by simp))
        rw [List.dropLast_concat] at above
        rcases above with rfl | member
        · rfl
        · have get := Dict.get?_of_mem_entries member
          unfold node?
          split
          · rfl
          · exact get
      rcases List.prefix_concat_iff.mp isStart with same | shorter
      · obtain ⟨rfl, -⟩ := List.append_inj' same rfl
        exact isDirectory
      · exact inductionHypothesis isDirectory shorter

/-- A path without links leads to what is found there. -/
theorem stat_real {node : FileNode} (isReal : tree.IsReal path)
    (found : tree.node? path = some node) : tree.stat path = some node := by
  have followed : tree.follow true tree.maxLinks [] path = some ([] ++ path) :=
    follow_real isReal fun _ _ _ isStart => directory_above found isStart
  rw [stat, followed]
  exact found

theorem resolve_real (isReal : tree.IsReal path) : tree.resolve path = some path :=
  follow_real isReal nofun

/-- A path that leads somewhere is resolved to where it leads. -/
theorem resolve_of_stat {node : FileNode} (leads : tree.stat path = some node) :
    ∃ real, tree.resolve path = some real ∧ tree.IsReal real ∧ tree.node? real = some node := by
  obtain ⟨real, followed, found⟩ := Option.bind_eq_some_iff.mp leads
  exact ⟨real, follow_of_strict followed, isReal_of_follow isReal_nil followed, found⟩

theorem isFile_iff : tree.isFile path = true ↔ ∃ content, tree.stat path = some (.file content) := by
  unfold isFile
  rw [Option.any_eq_true]
  constructor
  · rintro ⟨node, leads, isFile⟩
    cases node with
    | file content => exact ⟨content, leads⟩
    | directory => cases isFile
    | link fromRoot target => cases isFile
  · rintro ⟨content, leads⟩
    exact ⟨_, leads, rfl⟩

end FileTree

end ResearchPlatform.Foundation
