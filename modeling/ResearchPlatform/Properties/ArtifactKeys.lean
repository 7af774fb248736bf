import Mathlib.Data.Bool.AllAny
import ResearchPlatform.Properties.TenantIsolation

/-!
# Artifact keys

The key of an artifact can be taken apart again, into its tenant and its name, and none of
its segments leads out of the tenant's own prefix.
-/

namespace ResearchPlatform

open Foundation

/-- A segment of a path that names something below where it stands. -/
def IsPlainSegmentName (segment : List Char) : Prop :=
  segment ≠ [] ∧ segment ≠ ['.'] ∧ segment ≠ ['.', '.']

instance (segment : List Char) : Decidable (IsPlainSegmentName segment) := by
  unfold IsPlainSegmentName
  infer_instance

/-- Keys are `tenants/`, one segment for the tenant, and the name.  No two tenants or names
share a key, no segment of a key leads elsewhere, and no key lies under the prefix of another
tenant. -/
structure SeparatesTenants (segmentOf : String → List Char) (tenantId name key : String) :
    Prop where
  unique : ∀ owner other, artifactKey owner other = .ok key → owner = tenantId ∧ other = name
  text : key.toList = "tenants/".toList ++ segmentOf tenantId ++ '/' :: name.toList
  oneSegment : '/' ∉ segmentOf tenantId
  plain : ∀ segment ∈ key.toList.splitOn '/', IsPlainSegmentName segment
  outside : ∀ owner, owner ≠ tenantId →
    ¬ ("tenants/".toList ++ segmentOf owner ++ ['/']) <+: key.toList

section Segments

variable {tenantId name key : String} {segment : List Char}

theorem isPlainSegmentName_of_isSegment (valid : isSegment segment = true) :
    IsPlainSegmentName segment := by
  cases segment with
  | nil => cases valid
  | cons first rest =>
      have isAlphanum : first.isAlphanum = true := by
        simp only [isSegment, Bool.and_eq_true] at valid
        exact valid.1.1
      have notDot : first ≠ '.' := by
        intro isDot
        rw [isDot] at isAlphanum
        exact absurd isAlphanum (by decide)
      refine ⟨List.cons_ne_nil first rest, ?_, ?_⟩
      · exact fun same => notDot (List.cons.inj same).1
      · exact fun same => notDot (List.cons.inj same).1

theorem dot_not_mem_tenantSegment : '.' ∉ tenantSegment tenantId := by
  rw [tenantSegment_eq]
  intro member
  obtain ⟨byte, -, inCode⟩ := List.mem_flatMap.mp member
  apply not_mem_percentCode _ (by decide) (by decide) inCode
  intro other otherKept isDot
  have same : other = 46 := ofUInt8_injective isDot
  rw [same] at otherKept
  exact absurd otherKept (by decide)

theorem isPlainSegmentName_tenantSegment (named : tenantId ≠ "") :
    IsPlainSegmentName (tenantSegment tenantId) := by
  have noDot := @dot_not_mem_tenantSegment tenantId
  refine ⟨?_, ?_, ?_⟩
  · intro isEmpty
    exact named (tenantSegment_injective isEmpty)
  · intro same
    rw [same] at noDot
    exact noDot List.mem_cons_self
  · intro same
    rw [same] at noDot
    exact noDot List.mem_cons_self

/-- What a name that is accepted is made of. -/
theorem artifactKey_accepts (keyed : artifactKey tenantId name = .ok key) :
    tenantId ≠ "" ∧ ∀ segment ∈ name.toList.splitOn '/', isSegment segment = true := by
  unfold artifactKey at keyed
  by_cases unnamed : tenantId = ""
  · rw [if_pos unnamed] at keyed
    cases keyed
  · rw [if_neg unnamed] at keyed
    split at keyed
    · rename_i valid
      refine ⟨unnamed, ?_⟩
      intro segment member
      have both := List.all_eq_true.mp valid segment member
      exact ((Bool.and_eq_true _ _).mp both).1
    · cases keyed

theorem splitOn_key (text : key.toList = keyRoot ++ tenantSegment tenantId ++ '/' :: name.toList) :
    key.toList.splitOn '/' =
      "tenants".toList :: tenantSegment tenantId :: name.toList.splitOn '/' := by
  have root : keyRoot = "tenants".toList ++ ['/'] := by decide
  have free : ∀ char ∈ tenantSegment tenantId, (char == '/') = false := by
    intro char member
    exact beq_false_of_ne (ne_of_mem_of_not_mem member (slash_not_mem_tenantSegment tenantId))
  have rootFree : ∀ char ∈ "tenants".toList, (char == '/') = false :=
    List.all_iff_forall_prop.mp (by decide)
  rw [text, root, List.append_assoc, List.append_assoc, List.singleton_append]
  unfold List.splitOn
  rw [List.splitOnP_append_cons_of_forall_mem rootFree '/' rfl,
    List.splitOnP_append_cons_of_forall_mem free '/' rfl]

end Segments

/-- Every artifact key separates its tenant from all others. -/
theorem artifactKey_separatesTenants {tenantId name key : String}
    (keyed : artifactKey tenantId name = .ok key) :
    SeparatesTenants tenantSegment tenantId name key := by
  have text := toList_of_artifactKey keyed
  obtain ⟨named, valid⟩ := artifactKey_accepts keyed
  refine ⟨?_, text, slash_not_mem_tenantSegment tenantId, ?_, ?_⟩
  · intro owner other sameKey
    exact Prod.mk.inj (artifactKey_injective sameKey keyed)
  · intro segment member
    rw [splitOn_key text] at member
    rcases List.mem_cons.mp member with rfl | member
    · decide
    · rcases List.mem_cons.mp member with rfl | member
      · exact isPlainSegmentName_tenantSegment named
      · exact isPlainSegmentName_of_isSegment (valid segment member)
  · intro owner other under
    have decided := @keyOfTenant_eq owner tenantId name key keyed
    have begins : keyOfTenant owner key = true := List.isPrefixOf_iff_prefix.mpr under
    rw [begins, decide_eq_false (Ne.symm other)] at decided
    cases decided

/-- The identifier has a separator, dots and an escape in it. -/
theorem artifactKey_separatesTenants_at_path :
    SeparatesTenants tenantSegment "../acme%2F" "jobs/1/report.json"
      "tenants/%2E%2E%2Facme%252F/jobs/1/report.json" :=
  artifactKey_separatesTenants (by decide +kernel)

end ResearchPlatform
