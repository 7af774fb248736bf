import Mathlib.Data.List.DropRight
import Mathlib.Tactic.Common

/-!
# URLs

`urllib.parse.urlsplit`, and what its result tells of user, host and port.
-/

namespace ResearchPlatform.Foundation.Url

/-! ## Cutting a text -/

/-- `text.partition(mark)`, without the mark. -/
def cut (mark : Char) (text : List Char) : List Char × List Char :=
  (text.takeWhile (· ≠ mark), (text.dropWhile (· ≠ mark)).tail)

/-- What follows the last mark, or the whole text. -/
def afterLast (mark : Char) (text : List Char) : List Char :=
  text.rtakeWhile (· ≠ mark)

/-- What stands before the last mark, if there is one. -/
def beforeLast (mark : Char) (text : List Char) : Option (List Char) :=
  if mark ∈ text then some (text.rdropWhile (· ≠ mark)).dropLast else none

section Cut

variable {mark : Char} {before after text : List Char}

theorem takeWhile_stop {keeps : Char → Bool} (kept : ∀ char ∈ before, keeps char = true)
    (stops : ∀ char ∈ after.head?, keeps char = false) :
    (before ++ after).takeWhile keeps = before := by
  rw [List.takeWhile_append_of_pos kept]
  cases after with
  | nil => simp
  | cons first rest =>
      have stop : ¬ keeps first = true := by simp [stops first rfl]
      rw [List.takeWhile_cons_of_neg stop, List.append_nil]

theorem dropWhile_stop {keeps : Char → Bool} (kept : ∀ char ∈ before, keeps char = true)
    (stops : ∀ char ∈ after.head?, keeps char = false) :
    (before ++ after).dropWhile keeps = after := by
  rw [List.dropWhile_append_of_pos kept]
  cases after with
  | nil => rfl
  | cons first rest =>
      have stop : ¬ keeps first = true := by simp [stops first rfl]
      exact List.dropWhile_cons_of_neg stop

theorem cut_of_notMem (absent : mark ∉ text) : cut mark text = (text, []) := by
  have kept : ∀ char ∈ text, decide (char ≠ mark) = true := by
    intro char member
    exact decide_eq_true fun same => absent (same ▸ member)
  have taken : text.takeWhile (· ≠ mark) = text := List.takeWhile_eq_self_iff.mpr kept
  have dropped : text.dropWhile (· ≠ mark) = [] := List.dropWhile_eq_nil_iff.mpr kept
  rw [cut, taken, dropped, List.tail_nil]

theorem cut_append (absent : mark ∉ before) :
    cut mark (before ++ mark :: after) = (before, after) := by
  have kept : ∀ char ∈ before, decide (char ≠ mark) = true := by
    intro char member
    exact decide_eq_true fun same => absent (same ▸ member)
  have stops : ∀ char ∈ (mark :: after).head?, decide (char ≠ mark) = false := by simp
  rw [cut, takeWhile_stop kept stops, dropWhile_stop kept stops, List.tail_cons]

theorem cut_cons_self : cut mark (mark :: text) = ([], text) := cut_append List.not_mem_nil

theorem cut_cons_of_ne {first : Char} (other : first ≠ mark) :
    cut mark (first :: text) = (first :: (cut mark text).1, (cut mark text).2) := by
  simp [cut, other]

theorem mem_of_mem_cut_fst {char : Char} (member : char ∈ (cut mark text).1) : char ∈ text :=
  (List.takeWhile_prefix _).subset member

theorem mem_of_mem_cut_snd {char : Char} (member : char ∈ (cut mark text).2) : char ∈ text :=
  (List.dropWhile_suffix _).subset (List.mem_of_mem_tail member)

theorem ne_of_mem_cut_fst {char : Char} (member : char ∈ (cut mark text).1) : char ≠ mark := by
  simpa using List.mem_takeWhile_imp member

end Cut

/-! ## `urlsplit` -/

/-- What is used of the Unicode tables, and the check of an address in brackets. -/
structure Rules where
  nfkc : List Char → List Char
  lower : List Char → List Char
  bracketed : List Char → Bool

structure SplitResult where
  scheme : List Char
  netloc : List Char
  path : List Char
  query : List Char
  fragment : List Char
  deriving DecidableEq

/-- `_WHATWG_C0_CONTROL_OR_SPACE`. -/
def isControlOrSpace (char : Char) : Bool := char.toNat ≤ 0x20

/-- `_UNSAFE_URL_BYTES_TO_REMOVE`. -/
def isRemoved (char : Char) : Bool := char = '\t' || char = '\r' || char = '\n'

/-- The text without the characters that `urlsplit` removes wherever they stand. -/
def clean (text : List Char) : List Char := text.filter (!isRemoved ·)

/-- `scheme_chars`. -/
def isSchemeChar (char : Char) : Bool :=
  char.isAlphanum || char = '+' || char = '-' || char = '.'

/-- A scheme begins with a letter. -/
def isScheme (text : List Char) : Bool :=
  text.head?.any Char.isAlpha && text.all isSchemeChar

/-- The scheme, in lower case, and what follows its colon. -/
def splitScheme (text : List Char) : List Char × List Char :=
  if ':' ∈ text ∧ isScheme (cut ':' text).1 = true then
    ((cut ':' text).1.map Char.toLower, (cut ':' text).2)
  else
    ([], text)

/-- A character that ends a netloc. -/
def endsNetloc (char : Char) : Bool := char = '/' || char = '?' || char = '#'

/-- `_splitnetloc`, where the text begins with two slashes. -/
def splitNetloc : List Char → List Char × List Char
  | '/' :: '/' :: rest => (rest.takeWhile (!endsNetloc ·), rest.dropWhile (!endsNetloc ·))
  | text => ([], text)

namespace Rules

variable (rules : Rules)

/-- `_checknetloc`. -/
def checkNetloc (netloc : List Char) : Bool :=
  netloc.all (·.toNat < 128) ||
    let kept := netloc.filter fun char => !(['@', ':', '#', '?'].contains char)
    kept == rules.nfkc kept ||
      (rules.nfkc kept).all fun char => !(['/', '?', '#', '@', ':'].contains char)

/-- The checks of a netloc: brackets come in pairs, with an address in them. -/
def acceptsNetloc (netloc : List Char) : Bool :=
  netloc.contains '[' == netloc.contains ']' &&
    (!netloc.contains '[' || rules.bracketed netloc) && rules.checkNetloc netloc

/-- What `urlsplit` does once it has split off the scheme. -/
def splitHierarchy (scheme text : List Char) : Option SplitResult :=
  let (netloc, text) := splitNetloc text
  if rules.acceptsNetloc netloc then
    let (text, fragment) := cut '#' text
    let (path, query) := cut '?' text
    some ⟨scheme, netloc, path, query, fragment⟩
  else
    none

/-- `urlsplit`, or `none` where it raises `ValueError`. -/
def urlsplit (text : List Char) : Option SplitResult :=
  let (scheme, text) := splitScheme (clean (text.dropWhile isControlOrSpace))
  rules.splitHierarchy scheme text

end Rules

/-! ## User, host and port -/

namespace SplitResult

variable (parts : SplitResult)

/-- `username`. -/
def username : Option (List Char) :=
  (beforeLast '@' parts.netloc).map fun userinfo => (cut ':' userinfo).1

/-- `password`. -/
def password : Option (List Char) :=
  (beforeLast '@' parts.netloc).bind fun userinfo =>
    if ':' ∈ userinfo then some (cut ':' userinfo).2 else none

/-- `_hostinfo`: the host as it is written, and the port, empty where there is none. -/
def hostinfo : List Char × List Char :=
  let hostinfo := afterLast '@' parts.netloc
  if '[' ∈ hostinfo then
    let (host, port) := cut ']' (cut '[' hostinfo).2
    (host, (cut ':' port).2)
  else
    cut ':' hostinfo

/-- `hostname`; the zone of an address keeps its case. -/
def hostname (rules : Rules) : Option (List Char) :=
  let host := parts.hostinfo.1
  if host = [] then none
  else if '%' ∈ host then
    some (rules.lower (cut '%' host).1 ++ '%' :: (cut '%' host).2)
  else
    some (rules.lower host)

/-- `port`, or `none` where reading it raises `ValueError`. -/
def port : Option (Option Nat) :=
  let port := parts.hostinfo.2
  if port = [] then some none
  else if port.all Char.isDigit then
    let number := port.foldl (fun value digit => 10 * value + (digit.toNat - '0'.toNat)) 0
    if number ≤ 65535 then some (some number) else none
  else
    none

end SplitResult

/-! ## Texts with a scheme and a netloc -/

theorem clean_append (first second : List Char) :
    clean (first ++ second) = clean first ++ clean second :=
  List.filter_append ..

theorem clean_cons {char : Char} (safe : isRemoved char = false) (text : List Char) :
    clean (char :: text) = char :: clean text :=
  List.filter_cons_of_pos (by rw [safe]; rfl)

theorem mem_clean {text : List Char} {char : Char} :
    char ∈ clean text ↔ char ∈ text ∧ isRemoved char = false := by
  simp [clean]

/-- A text without the characters that are removed is clean. -/
theorem clean_eq_self {text : List Char} (safe : ∀ char ∈ text, isRemoved char = false) :
    clean text = text :=
  List.filter_eq_self.mpr fun char member => by rw [safe char member]; rfl

section Schemes

variable {rules : Rules} {scheme netloc rest tail : List Char}

/-- The code points of a scheme lie above those of the blanks. -/
theorem toNat_of_isSchemeChar {char : Char} (inScheme : isSchemeChar char = true) :
    0x2b ≤ char.toNat ∧ char.toNat ≠ 0x3a := by
  have code : char.toNat = char.val.toNat := rfl
  delta isSchemeChar Char.isAlphanum Char.isAlpha Char.isUpper Char.isLower Char.isDigit
    at inScheme
  simp only [Bool.or_eq_true, Bool.and_eq_true, decide_eq_true_eq, UInt32.le_iff_toNat_le,
    ge_iff_le] at inScheme
  rcases inScheme with ((letterOrDigit | rfl) | rfl) | rfl
  · have upper : 'A'.val.toNat = 65 := rfl
    have upperEnd : 'Z'.val.toNat = 90 := rfl
    have lower : 'a'.val.toNat = 97 := rfl
    have lowerEnd : 'z'.val.toNat = 122 := rfl
    have zero : '0'.val.toNat = 48 := rfl
    have nine : '9'.val.toNat = 57 := rfl
    omega
  all_goals decide

theorem isRemoved_of_isSchemeChar {char : Char} (inScheme : isSchemeChar char = true) :
    isRemoved char = false := by
  have above := (toNat_of_isSchemeChar inScheme).1
  by_contra removed
  have among : (char = '\t' ∨ char = '\r') ∨ char = '\n' := by
    rw [Bool.not_eq_false, isRemoved, Bool.or_eq_true, Bool.or_eq_true] at removed
    simpa only [decide_eq_true_eq] using removed
  rcases among with (rfl | rfl) | rfl <;> exact absurd above (by decide)

/-- A text that begins with a scheme and its colon. -/
theorem Rules.urlsplit_scheme (named : isScheme scheme = true) :
    rules.urlsplit (scheme ++ ':' :: rest) =
      rules.splitHierarchy (scheme.map Char.toLower) (clean rest) := by
  obtain ⟨begins, inScheme⟩ := Bool.and_eq_true_iff.mp named
  have each : ∀ char ∈ scheme, isSchemeChar char = true := List.all_eq_true.mp inScheme
  have kept : (scheme ++ ':' :: rest).dropWhile isControlOrSpace = scheme ++ ':' :: rest := by
    cases scheme with
    | nil => cases begins
    | cons first others =>
        have above := (toNat_of_isSchemeChar (each first List.mem_cons_self)).1
        have solid : ¬ isControlOrSpace first = true := by
          rw [isControlOrSpace, decide_eq_true_eq]
          omega
        exact List.dropWhile_cons_of_neg solid
  have cleaned : clean (scheme ++ ':' :: rest) = scheme ++ ':' :: clean rest := by
    have safe : clean scheme = scheme :=
      clean_eq_self fun char member => isRemoved_of_isSchemeChar (each char member)
    rw [clean_append, safe]
    rfl
  have noColon : ':' ∉ scheme := fun member =>
    (toNat_of_isSchemeChar (each _ member)).2 rfl
  have parts : splitScheme (scheme ++ ':' :: clean rest) =
      (scheme.map Char.toLower, clean rest) := by
    rw [splitScheme, cut_append noColon, if_pos]
    exact ⟨List.mem_append_right _ List.mem_cons_self, named⟩
  rw [Rules.urlsplit, kept, cleaned, parts]

/-- Two slashes begin a netloc, which goes on to the first character that ends it. -/
theorem splitNetloc_slashes (inside : ∀ char ∈ netloc, endsNetloc char = false)
    (stops : ∀ char ∈ tail.head?, endsNetloc char = true) :
    splitNetloc ('/' :: '/' :: (netloc ++ tail)) = (netloc, tail) := by
  have kept : ∀ char ∈ netloc, (!endsNetloc char) = true := by
    intro char member
    rw [inside char member]
    rfl
  have ends : ∀ char ∈ tail.head?, (!endsNetloc char) = false := by
    intro char isFirst
    rw [stops char isFirst]
    rfl
  rw [splitNetloc, takeWhile_stop kept ends, dropWhile_stop kept ends]

/-- A query or a fragment leaves no path. -/
theorem path_of_ends {first : Char} (ends : endsNetloc first = true) (other : first ≠ '/') :
    (cut '?' (cut '#' (first :: rest)).1).1 = [] := by
  by_cases fragment : first = '#'
  · rw [fragment, cut_cons_self]
    rfl
  · have query : first = '?' := by
      simpa [endsNetloc, fragment, other] using ends
    rw [query, cut_cons_of_ne (by decide), cut_cons_self]

/-- Every text splits into a netloc and what ends it. -/
theorem exists_netloc (text : List Char) :
    ∃ netloc tail, text = netloc ++ tail ∧ (∀ char ∈ netloc, endsNetloc char = false) ∧
      ∀ char ∈ tail.head?, endsNetloc char = true := by
  refine ⟨text.takeWhile (!endsNetloc ·), text.dropWhile (!endsNetloc ·),
    List.takeWhile_append_dropWhile.symm, ?_, ?_⟩
  · intro char member
    simpa using List.mem_takeWhile_imp member
  · intro char isFirst
    have stop := List.head?_dropWhile_not (!endsNetloc ·) text
    rw [Option.mem_def.mp isFirst] at stop
    simpa using stop

/-- What is split off a netloc and what ends it. -/
theorem Rules.splitHierarchy_netloc (inside : ∀ char ∈ netloc, endsNetloc char = false)
    (stops : ∀ char ∈ tail.head?, endsNetloc char = true) :
    rules.splitHierarchy scheme ('/' :: '/' :: (netloc ++ tail)) =
      if rules.acceptsNetloc netloc then
        some ⟨scheme, netloc, (cut '?' (cut '#' tail).1).1, (cut '?' (cut '#' tail).1).2,
          (cut '#' tail).2⟩
      else none := by
  rw [Rules.splitHierarchy, splitNetloc_slashes inside stops]

theorem mem_of_mem_splitScheme {text : List Char} {char : Char}
    (member : char ∈ (splitScheme text).2) : char ∈ text := by
  unfold splitScheme at member
  split at member
  · exact mem_of_mem_cut_snd member
  · exact member

theorem mem_of_mem_splitNetloc {text : List Char} {char : Char}
    (member : char ∈ (splitNetloc text).2) : char ∈ text := by
  unfold splitNetloc at member
  split at member
  · have later := (List.dropWhile_suffix _).subset member
    exact List.mem_cons_of_mem _ (List.mem_cons_of_mem _ later)
  · exact member

/-- The netloc and what ends it, with the parts that were cut off that. -/
structure Hierarchy (rules : Rules) (text : List Char) (split : SplitResult) : Prop where
  safe : ∀ char ∈ text, isRemoved char = false
  netloc : split.netloc = (splitNetloc text).1
  path : split.path = (cut '?' (cut '#' (splitNetloc text).2).1).1
  query : split.query = (cut '?' (cut '#' (splitNetloc text).2).1).2
  accepted : rules.acceptsNetloc split.netloc = true

theorem Rules.hierarchy_of_urlsplit {text : List Char} {split : SplitResult}
    (found : rules.urlsplit text = some split) : ∃ rest, Hierarchy rules rest split := by
  unfold Rules.urlsplit Rules.splitHierarchy at found
  simp only at found
  split at found
  · rename_i accepted
    obtain rfl := Option.some.inj found
    refine ⟨_, ?_, rfl, rfl, rfl, accepted⟩
    exact fun char member => (mem_clean.mp (mem_of_mem_splitScheme member)).2
  · cases found

/-- A text of a scheme, a netloc and what ends it, with nothing that is removed. -/
theorem Rules.urlsplit_netloc (named : isScheme scheme = true)
    (inside : ∀ char ∈ netloc, endsNetloc char = false ∧ isRemoved char = false)
    (stops : ∀ char ∈ tail.head?, endsNetloc char = true)
    (safe : ∀ char ∈ tail, isRemoved char = false) :
    rules.urlsplit (scheme ++ ':' :: '/' :: '/' :: (netloc ++ tail)) =
      if rules.acceptsNetloc netloc then
        some ⟨scheme.map Char.toLower, netloc, (cut '?' (cut '#' tail).1).1,
          (cut '?' (cut '#' tail).1).2, (cut '#' tail).2⟩
      else none := by
  have slash : isRemoved '/' = false := by decide
  have cleaned : clean (netloc ++ tail) = netloc ++ tail := by
    apply clean_eq_self
    intro char member
    rcases List.mem_append.mp member with first | last
    · exact (inside char first).2
    · exact safe char last
  rw [Rules.urlsplit_scheme named, clean_cons slash, clean_cons slash, cleaned,
    Rules.splitHierarchy_netloc (fun char member => (inside char member).1) stops]

section Parts

variable {text : List Char} {split : SplitResult}

/-- Nothing that ends a path, and nothing that is removed, is left in one. -/
theorem Hierarchy.path_chars (hierarchy : Hierarchy rules text split) :
    ∀ char ∈ split.path, char ≠ '?' ∧ char ≠ '#' ∧ isRemoved char = false := by
  intro char member
  rw [hierarchy.path] at member
  have inTail := mem_of_mem_splitNetloc (mem_of_mem_cut_fst (mem_of_mem_cut_fst member))
  exact ⟨ne_of_mem_cut_fst member, ne_of_mem_cut_fst (mem_of_mem_cut_fst member),
    hierarchy.safe char inTail⟩

theorem Hierarchy.query_chars (hierarchy : Hierarchy rules text split) :
    ∀ char ∈ split.query, char ≠ '#' ∧ isRemoved char = false := by
  intro char member
  rw [hierarchy.query] at member
  have inTail := mem_of_mem_splitNetloc (mem_of_mem_cut_fst (mem_of_mem_cut_snd member))
  exact ⟨ne_of_mem_cut_fst (mem_of_mem_cut_snd member), hierarchy.safe char inTail⟩

/-- What follows a netloc begins with a character that ends it. -/
theorem splitNetloc_parts (text : List Char) :
    (∀ char ∈ (splitNetloc text).1, endsNetloc char = false ∧ char ∈ text) ∧
      ((splitNetloc text).1 ≠ [] →
        ∀ char ∈ (splitNetloc text).2.head?, endsNetloc char = true) := by
  unfold splitNetloc
  split
  · rename_i rest
    constructor
    · intro char member
      have inside : char ∈ rest := (List.takeWhile_prefix _).subset member
      refine ⟨?_, List.mem_cons_of_mem _ (List.mem_cons_of_mem _ inside)⟩
      simpa using List.mem_takeWhile_imp member
    · intro _ char isFirst
      have stop := List.head?_dropWhile_not (!endsNetloc ·) rest
      rw [Option.mem_def.mp isFirst] at stop
      simpa using stop
  · simp

theorem Hierarchy.netloc_chars (hierarchy : Hierarchy rules text split) :
    ∀ char ∈ split.netloc, endsNetloc char = false ∧ isRemoved char = false := by
  intro char member
  rw [hierarchy.netloc] at member
  obtain ⟨inside, inText⟩ := (splitNetloc_parts text).1 char member
  exact ⟨inside, hierarchy.safe char inText⟩

/-- A path after a netloc is empty or begins with a slash. -/
theorem Hierarchy.path_rooted (hierarchy : Hierarchy rules text split)
    (named : split.netloc ≠ []) : split.path = [] ∨ split.path.head? = some '/' := by
  rw [hierarchy.netloc] at named
  have stops := (splitNetloc_parts text).2 named
  rw [hierarchy.path]
  cases rest : (splitNetloc text).2 with
  | nil => exact Or.inl rfl
  | cons first later =>
      rw [rest] at stops
      have ends := stops first rfl
      by_cases slash : first = '/'
      · rw [slash, cut_cons_of_ne (by decide), cut_cons_of_ne (by decide)]
        exact Or.inr rfl
      · exact Or.inl (path_of_ends ends slash)

end Parts

end Schemes

end ResearchPlatform.Foundation.Url
