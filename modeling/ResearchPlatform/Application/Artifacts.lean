import Mathlib.Data.List.Infix
import ResearchPlatform.Foundation.Codes
import ResearchPlatform.Foundation.Dict
import ResearchPlatform.Foundation.Outcome

/-!
# Artifacts

Where generated artifacts live.  The store builds each key itself, from the
tenant and the name of the artifact.
-/

namespace ResearchPlatform

open Foundation

/-- `InvalidArtifactName`, for a missing tenant or for a name, and
`ArtifactNotFound`. -/
inductive ArtifactError where
  | noTenant
  | invalidName (name : String)
  | notFound (name : String)
  deriving DecidableEq

/-! ## Keys -/

/-- The bytes that `urllib.parse.quote` never encodes. -/
def isAlwaysSafe (byte : UInt8) : Bool :=
  let char := Char.ofUInt8 byte
  char.isAlphanum || char ∈ ['_', '.', '-', '~']

/-- `quote(text, safe="")`. -/
def quote (text : String) : List Char := (utf8 text).flatMap (percentCode isAlwaysSafe)

/-- `text.replace(".", "%2E")`. -/
def encodeDots (text : List Char) : List Char :=
  text.flatMap fun char => if char = '.' then ['%', '2', 'E'] else [char]

/-- The path segment of a tenant. -/
def tenantSegment (tenantId : String) : List Char := encodeDots (quote tenantId)

/-- `[A-Za-z0-9._-]`. -/
def isSegmentChar (char : Char) : Bool := char.isAlphanum || char ∈ ['.', '_', '-']

/-- `_SEGMENT.fullmatch`. -/
def isSegment : List Char → Bool
  | [] => false
  | first :: rest => first.isAlphanum && rest.length ≤ 199 && rest.all isSegmentChar

/-- Two dots in a row. -/
def hasDoubleDot (segment : List Char) : Bool := ['.', '.'] <:+: segment

/-- What every key begins with. -/
def keyRoot : List Char := "tenants/".toList

/-- `artifact_key`. -/
def artifactKey (tenantId name : String) : Except ArtifactError String :=
  if tenantId = "" then
    .error .noTenant
  else if (name.toList.splitOn '/').all fun segment =>
      isSegment segment && !hasDoubleDot segment then
    .ok (String.ofList (keyRoot ++ tenantSegment tenantId ++ '/' :: name.toList))
  else
    .error (.invalidName name)

/-- A byte that stays as it is in a tenant's segment. -/
def isSegmentSafe (byte : UInt8) : Bool := isAlwaysSafe byte && byte != 46

/-- Encoding the dots afterwards is not keeping them in the first place. -/
theorem encodeDots_percentCode (byte : UInt8) :
    encodeDots (percentCode isAlwaysSafe byte) = percentCode isSegmentSafe byte := by
  by_cases isKept : isAlwaysSafe byte = true
  · by_cases isDot : byte = 46
    · subst isDot
      decide
    · have stays : isSegmentSafe byte = true := by
        simp [isSegmentSafe, isKept, isDot]
      have notDot : Char.ofUInt8 byte ≠ '.' := fun same =>
        isDot (ofUInt8_injective same)
      simp [percentCode, isKept, stays, encodeDots, notDot]
  · have goes : isSegmentSafe byte = false := by
      simp [isSegmentSafe, Bool.eq_false_iff.mpr isKept]
    have noDot : '.' ∉ percentCode isSegmentSafe byte := by
      apply not_mem_percentCode _ (by decide) (by decide)
      intro other otherKept isDot
      have same : other = 46 := ofUInt8_injective isDot
      rw [same] at otherKept
      cases otherKept
    have sameCode : percentCode isAlwaysSafe byte = percentCode isSegmentSafe byte := by
      simp [percentCode, isKept, goes]
    rw [sameCode, encodeDots]
    have single : ∀ char ∈ percentCode isSegmentSafe byte,
        (if char = '.' then ['%', '2', 'E'] else [char]) = [char] := by
      intro char member
      exact if_neg (ne_of_mem_of_not_mem member noDot)
    rw [List.flatMap_congr single, List.flatMap_singleton']

theorem tenantSegment_eq (tenantId : String) :
    tenantSegment tenantId = (utf8 tenantId).flatMap (percentCode isSegmentSafe) := by
  have sameCode : (fun byte => encodeDots (percentCode isAlwaysSafe byte)) =
      percentCode isSegmentSafe := funext encodeDots_percentCode
  rw [tenantSegment, quote, encodeDots, List.flatMap_assoc, ← sameCode]
  rfl

/-- Two tenants never share a segment. -/
theorem tenantSegment_injective : Function.Injective tenantSegment := by
  intro first second same
  rw [tenantSegment_eq, tenantSegment_eq] at same
  exact utf8_injective
    ((prefixFree_percentCode (by decide : isSegmentSafe 37 = false)).flatMap_injective same)

/-- A tenant is one segment of a key. -/
theorem slash_not_mem_tenantSegment (tenantId : String) :
    '/' ∉ tenantSegment tenantId := by
  rw [tenantSegment_eq]
  intro member
  obtain ⟨byte, -, inCode⟩ := List.mem_flatMap.mp member
  apply not_mem_percentCode _ (by decide) (by decide) inCode
  intro other otherKept isSlash
  have same : other = 47 := ofUInt8_injective isSlash
  rw [same] at otherKept
  exact absurd otherKept (by decide)

theorem toList_of_artifactKey {tenantId name key : String}
    (keyed : artifactKey tenantId name = .ok key) :
    key.toList = keyRoot ++ tenantSegment tenantId ++ '/' :: name.toList := by
  unfold artifactKey at keyed
  split at keyed
  · cases keyed
  split at keyed
  · rw [← Except.ok.inj keyed, String.toList_ofList]
  · cases keyed

/-- A key names one artifact of one tenant. -/
theorem artifactKey_injective {tenantId name owner other key : String}
    (keyed : artifactKey tenantId name = .ok key)
    (sameKey : artifactKey owner other = .ok key) : (tenantId, name) = (owner, other) := by
  have text := toList_of_artifactKey keyed
  rw [toList_of_artifactKey sameKey, List.append_assoc, List.append_assoc] at text
  obtain ⟨segments, names⟩ := eq_of_append_separator
    (slash_not_mem_tenantSegment owner) (slash_not_mem_tenantSegment tenantId)
    (List.append_cancel_left text)
  rw [tenantSegment_injective segments, String.toList_injective names]

/-! ## The store -/

structure StoredArtifact where
  key : String
  size : Nat
  contentType : String
  deriving DecidableEq

/-- `InMemoryArtifactStore`. -/
structure InMemoryArtifactStore where
  objects : Dict String (List UInt8) := ∅

namespace InMemoryArtifactStore

def put (store : InMemoryArtifactStore) (tenantId name : String) (data : List UInt8)
    (contentType : String) :
    Except ArtifactError (StoredArtifact × InMemoryArtifactStore) := do
  let key ← artifactKey tenantId name
  return (⟨key, data.length, contentType⟩, ⟨store.objects.set key data⟩)

def get (store : InMemoryArtifactStore) (tenantId name : String) :
    Except ArtifactError (List UInt8) := do
  let key ← artifactKey tenantId name
  match store.objects.get? key with
  | some data => return data
  | none => throw (.notFound name)

variable {store updated : InMemoryArtifactStore} {tenantId name contentType : String}
  {data : List UInt8} {stored : StoredArtifact}

/-- What was put is what is read. -/
theorem get_of_put (puts : store.put tenantId name data contentType = .ok (stored, updated)) :
    updated.get tenantId name = .ok data := by
  obtain ⟨key, keyed, puts⟩ := bind_eq_ok.mp puts
  obtain ⟨-, rfl⟩ := Prod.mk.inj (Except.ok.inj puts)
  refine bind_eq_ok.mpr ⟨key, keyed, ?_⟩
  rw [Dict.get?_set_self]
  rfl

/-- Another artifact is read as before. -/
theorem get_of_put_of_ne {owner other : String} (apart : (owner, other) ≠ (tenantId, name))
    (puts : store.put tenantId name data contentType = .ok (stored, updated)) :
    updated.get owner other = store.get owner other := by
  obtain ⟨key, keyed, puts⟩ := bind_eq_ok.mp puts
  obtain ⟨-, rfl⟩ := Prod.mk.inj (Except.ok.inj puts)
  unfold get
  cases otherKeyed : artifactKey owner other with
  | error error => rfl
  | ok otherKey =>
      have otherKeys : otherKey ≠ key := by
        rintro rfl
        exact apart (artifactKey_injective otherKeyed keyed)
      change (match (store.objects.set key data).get? otherKey with
        | some _ => _ | none => _) = _
      rw [Dict.get?_set_of_ne _ _ otherKeys]
      rfl

end InMemoryArtifactStore

end ResearchPlatform
