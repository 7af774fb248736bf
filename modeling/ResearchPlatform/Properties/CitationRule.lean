import Mathlib.Data.Bool.AllAny
import ResearchPlatform.Agents.Sentences
import ResearchPlatform.Foundation.Outcome

/-!
# The citation rule

The validator of a report accepts where each fragment of each section cites evidence, opens
with a hedge, or stands next to a fragment of citations only.  Sentences are the fragments
again, some of them joined.
-/

namespace ResearchPlatform

open Foundation

/-! ## Citations end at white space -/

section Citations

variable {text rest : List Char} {blank : Char}

theorem isIdentifierChar_of_blank (isBlank : isWhitespace blank = true) :
    isIdentifierChar blank = false := by
  have code : blank.toNat ≤ 32 ∨ 133 ≤ blank.toNat := by
    obtain ⟨range, listed, inside⟩ := List.any_eq_true.mp isBlank
    have outside : ∀ range ∈ whitespaceRanges, range.2 ≤ 32 ∨ 133 ≤ range.1 := by decide
    rw [Bool.and_eq_true, decide_eq_true_iff, decide_eq_true_iff] at inside
    have apart := outside range listed
    omega
  have noDash : blank ≠ '-' := by
    rintro rfl
    exact absurd isBlank (by decide)
  have noDigit : hexValue blank = none := by
    unfold hexValue
    simp only
    rw [if_neg (by omega), if_neg (by omega), if_neg (by omega)]
  simp [isIdentifierChar, noDash, noDigit]

/-- What a match of `CITATION` looks like. -/
theorem citationAt_eq_some_iff {identifier : List Char} :
    citationAt text = some identifier ↔ ∃ after, text = '[' :: identifier ++ ']' :: after ∧
      identifier.length = 36 ∧ ∀ char ∈ identifier, isIdentifierChar char = true := by
  constructor
  · intro found
    unfold citationAt at found
    split at found
    · rename_i inner
      split at found
      · rename_i closed
        obtain ⟨length, each, closes⟩ := closed
        obtain rfl := Option.some.inj found
        obtain ⟨after, isAfter⟩ := List.head?_eq_some_iff.mp closes
        refine ⟨after, ?_, length, List.all_eq_true.mp each⟩
        rw [List.cons_append, ← isAfter, List.take_append_drop]
      · cases found
    · cases found
  · intro given
    obtain ⟨after, rfl, length, each⟩ := given
    have taken : (identifier ++ ']' :: after).take 36 = identifier := List.take_left' length
    have left : (identifier ++ ']' :: after).drop 36 = ']' :: after := List.drop_left' length
    rw [List.cons_append, citationAt, taken, left]
    exact if_pos ⟨length, List.all_eq_true.mpr each, rfl⟩

theorem citationAt_append_blank (isBlank : isWhitespace blank = true) :
    citationAt (text ++ blank :: rest) = citationAt text := by
  apply Option.ext
  intro identifier
  rw [citationAt_eq_some_iff, citationAt_eq_some_iff]
  constructor
  · intro found
    obtain ⟨after, whole, length, each⟩ := found
    have split : text ++ blank :: rest = ('[' :: identifier ++ [']']) ++ after := by
      simpa using whole
    rcases List.append_eq_append_iff.mp split with ⟨between, matched, tail⟩ | ⟨between, rfl, -⟩
    · cases between with
      | nil => exact ⟨[], by simpa using matched.symm, length, each⟩
      | cons first between =>
          -- The blank would stand inside the match.
          obtain rfl := (List.cons.inj tail).1
          have inside : blank ∈ '[' :: identifier ++ [']'] := by
            rw [matched]
            exact List.mem_append_right text List.mem_cons_self
          rcases List.mem_append.mp inside with within | closing
          · rcases List.mem_cons.mp within with rfl | isIdentifier
            · exact absurd isBlank (by decide)
            · have solid := isIdentifierChar_of_blank isBlank
              rw [each blank isIdentifier] at solid
              cases solid
          · rw [List.mem_singleton.mp closing] at isBlank
            exact absurd isBlank (by decide)
    · exact ⟨between, by simp, length, each⟩
  · intro found
    obtain ⟨after, rfl, length, each⟩ := found
    exact ⟨after ++ blank :: rest, by simp, length, each⟩

/-- White space separates the citations before it from those after it. -/
theorem citations_append_blank (isBlank : isWhitespace blank = true) :
    citations (text ++ blank :: rest) = citations text ++ citations rest := by
  induction text with
  | nil =>
      have same : citationAt (blank :: rest) = none :=
        @citationAt_append_blank [] rest _ isBlank
      change (citationAt (blank :: rest)).toList ++ citations rest = _
      rw [same]
      rfl
  | cons char text inductionHypothesis =>
      have same := @citationAt_append_blank (char :: text) rest _ isBlank
      rw [List.cons_append] at same
      rw [List.cons_append, citations, citations, same, inductionHypothesis, List.append_assoc]

/-- Without a citation there is nothing to remove. -/
theorem removeCitations_of_none (none : citations text = []) : removeCitations text = text := by
  induction text with
  | nil => rfl
  | cons char text inductionHypothesis =>
      obtain ⟨here, later⟩ := List.append_eq_nil_iff.mp none
      have isNone : citationAt (char :: text) = Option.none := by
        cases found : citationAt (char :: text) with
        | none => rfl
        | some identifier =>
            rw [found] at here
            cases here
      have kept := inductionHypothesis later
      rw [removeCitations, pieces] at kept ⊢
      rw [piecesFrom, isNone]
      exact congrArg (char :: ·) kept

/-- A fragment of citations only cites. -/
theorem citations_ne_nil_of_citationOnly (solid : trim text ≠ [])
    (only : isCitationOnly text = true) : citations text ≠ [] := by
  intro none
  rw [isCitationOnly, removeCitations_of_none none] at only
  exact solid (of_decide_eq_true only)

end Citations

/-! ## Fragments -/

section Fragments

variable {text current : List Char} {fragment : List Char} {inBoundary : Bool}

theorem isWhitespace_blank : isWhitespace ' ' = true := by decide

theorem splitFrom_ne_nil : splitFrom inBoundary current text ≠ [] := by
  induction text generalizing inBoundary current with
  | nil => simp [splitFrom]
  | cons char rest inductionHypothesis =>
      rw [splitFrom]
      by_cases inside : isWhitespace char ∧ inBoundary
      · rw [if_pos inside]
        exact inductionHypothesis
      · rw [if_neg inside]
        by_cases ends : isWhitespace char ∧ endsSentence current
        · simp [if_pos ends]
        · rw [if_neg ends]
          exact inductionHypothesis

/-- No citation is lost at a boundary.  The induction is on what is still to be split. -/
theorem citations_splitFrom (fresh : inBoundary = true → current = []) :
    (splitFrom inBoundary current text).flatMap citations = citations (current ++ text) := by
  induction text generalizing inBoundary current with
  | nil => simp [splitFrom]
  | cons char rest inductionHypothesis =>
      rw [splitFrom]
      by_cases inside : isWhitespace char ∧ inBoundary
      · obtain rfl := fresh inside.2
        rw [if_pos inside, inductionHypothesis fun _ => rfl]
        exact (@citations_append_blank [] rest char inside.1).symm
      · rw [if_neg inside]
        by_cases ends : isWhitespace char ∧ endsSentence current
        · rw [if_pos ends, List.flatMap_cons, inductionHypothesis fun _ => rfl,
            citations_append_blank ends.1]
          rfl
        · rw [if_neg ends, inductionHypothesis (by simp)]
          simp

/-- A fragment that is neither empty nor surrounded by white space. -/
structure IsSolid (fragment : List Char) : Prop where
  trimmed : Trimmed fragment
  given : fragment ≠ []

theorem IsSolid.trim_eq (solid : IsSolid fragment) : trim fragment = fragment :=
  solid.trimmed.trim_eq

/-- What has been read of a fragment, between the boundary and the rest. -/
structure SplitState (inBoundary : Bool) (current text : List Char) : Prop where
  fresh : inBoundary = true → current = []
  begins : ∀ char ∈ current.head?, isWhitespace char = false
  next : current = [] → inBoundary = true ∨ ∀ char ∈ text.head?, isWhitespace char = false
  ends : ∀ char ∈ (current ++ text).getLast?, isWhitespace char = false
  given : current ++ text ≠ []

/-- After white space the text goes on. -/
theorem SplitState.afterBlank {char : Char} {rest : List Char}
    (state : SplitState inBoundary current (char :: rest)) (isBlank : isWhitespace char = true) :
    SplitState true [] rest := by
  have goesOn : rest ≠ [] := by
    rintro rfl
    have solid := state.ends char (by simp)
    rw [isBlank] at solid
    cases solid
  refine ⟨fun _ => rfl, by simp, fun _ => Or.inl rfl, ?_, goesOn⟩
  intro last isLast
  apply state.ends last
  obtain ⟨initial, rfl⟩ := List.getLast?_eq_some_iff.mp isLast
  exact List.getLast?_eq_some_iff.mpr ⟨current ++ char :: initial, by simp⟩

theorem SplitState.goesOn {char : Char} {rest : List Char}
    (state : SplitState inBoundary current (char :: rest))
    (notInside : ¬ (isWhitespace char ∧ inBoundary)) :
    SplitState false (current ++ [char]) rest := by
  refine ⟨by simp, ?_, by simp, ?_, by simp⟩
  · intro first isFirst
    cases current with
    | nil =>
        obtain rfl : char = first := Option.some.inj isFirst
        rcases state.next rfl with boundary | solid
        · exact Bool.eq_false_iff.mpr fun isBlank => notInside ⟨isBlank, boundary⟩
        · exact solid char rfl
    | cons head tail => exact state.begins first isFirst
  · have ends := state.ends
    rwa [List.append_cons] at ends

/-- What stands before a boundary is a solid fragment. -/
theorem SplitState.solid_current (state : SplitState inBoundary current text)
    (ends : endsSentence current = true) : IsSolid current := by
  cases last : current.getLast? with
  | none =>
      rw [endsSentence, last] at ends
      cases ends
  | some char =>
      rw [endsSentence, last] at ends
      have solid : ∀ char ∈ ['.', '!', '?'], isWhitespace char = false :=
        List.all_iff_forall_prop.mp (by decide)
      refine ⟨⟨state.begins, ?_⟩, ?_⟩
      · intro other isLast
        rw [last] at isLast
        obtain rfl := Option.some.inj isLast
        exact solid char (of_decide_eq_true ends)
      · rintro rfl
        cases last

/-- Every fragment of a trimmed text is solid.  The induction is on what is still to be
split. -/
theorem SplitState.solid (state : SplitState inBoundary current text) :
    ∀ fragment ∈ splitFrom inBoundary current text, IsSolid fragment := by
  induction text generalizing inBoundary current with
  | nil =>
      intro fragment member
      rw [splitFrom, List.mem_singleton] at member
      subst member
      have ends := state.ends
      have given := state.given
      rw [List.append_nil] at ends given
      exact ⟨⟨state.begins, ends⟩, given⟩
  | cons char rest inductionHypothesis =>
      rw [splitFrom]
      by_cases inside : isWhitespace char ∧ inBoundary
      · rw [if_pos inside]
        obtain rfl := state.fresh inside.2
        exact inductionHypothesis (state.afterBlank inside.1)
      · rw [if_neg inside]
        by_cases ends : isWhitespace char ∧ endsSentence current
        · rw [if_pos ends, List.forall_mem_cons]
          exact ⟨state.solid_current ends.2, inductionHypothesis (state.afterBlank ends.1)⟩
        · rw [if_neg ends]
          exact inductionHypothesis (state.goesOn inside)

/-- The fragments of a text are solid, unless the text is empty. -/
theorem solid_of_mem_splitSentences (trimmed : Trimmed text) (given : text ≠ []) :
    ∀ fragment ∈ splitSentences text, IsSolid fragment := by
  have start : SplitState false [] text :=
    ⟨by simp, by simp, fun _ => Or.inr trimmed.begins, trimmed.ends, given⟩
  exact start.solid

end Fragments

/-! ## Sentences -/

section Sentences

variable {fragments done : List (List Char)} {last : List Char}

/-- The sentences of fragments, the first of which has begun. -/
def mergeFrom (last : List Char) : List (List Char) → List (List Char)
  | [] => [last]
  | fragment :: rest =>
      if isCitationOnly fragment then mergeFrom (last ++ ' ' :: fragment) rest
      else last :: mergeFrom fragment rest

/-- The loop over solid fragments.  The induction is on the fragments. -/
theorem foldl_addFragment (solid : ∀ fragment ∈ fragments, IsSolid fragment) :
    fragments.foldl addFragment (done ++ [last]) = done ++ mergeFrom last fragments := by
  induction fragments generalizing done last with
  | nil => rfl
  | cons fragment rest inductionHypothesis =>
      obtain ⟨isSolid, others⟩ := List.forall_mem_cons.mp solid
      have added : addFragment (done ++ [last]) fragment =
          if isCitationOnly fragment then done ++ [last ++ ' ' :: fragment]
          else done ++ [last] ++ [fragment] := by
        simp only [addFragment, isSolid.trim_eq, isSolid.given, if_false,
          List.getLast?_concat, List.dropLast_concat]
      rw [List.foldl_cons, added, mergeFrom]
      by_cases only : isCitationOnly fragment = true
      · rw [if_pos only, if_pos only, inductionHypothesis others]
      · rw [if_neg only, if_neg only, inductionHypothesis others, List.append_assoc,
          List.singleton_append]

theorem mergeFrom_ne_nil : mergeFrom last fragments ≠ [] := by
  induction fragments generalizing last with
  | nil => simp [mergeFrom]
  | cons fragment rest inductionHypothesis =>
      rw [mergeFrom]
      by_cases only : isCitationOnly fragment = true
      · rw [if_pos only]
        exact inductionHypothesis
      · simp [if_neg only]

theorem intercalate_mergeFrom :
    [' '].intercalate (mergeFrom last fragments) = [' '].intercalate (last :: fragments) := by
  induction fragments generalizing last with
  | nil => rfl
  | cons fragment rest inductionHypothesis =>
      rw [mergeFrom]
      by_cases only : isCitationOnly fragment = true
      · rw [if_pos only, inductionHypothesis]
        cases rest with
        | nil => simp [List.intercalate_cons_cons]
        | cons next later => simp [List.intercalate_cons_cons]
      · rw [if_neg only, List.intercalate_cons_cons, ← inductionHypothesis]
        obtain ⟨next, later, merged⟩ :=
          List.exists_cons_of_ne_nil (@mergeFrom_ne_nil rest fragment)
        rw [merged, List.intercalate_cons_cons]

theorem citations_mergeFrom :
    (mergeFrom last fragments).flatMap citations =
      citations last ++ fragments.flatMap citations := by
  induction fragments generalizing last with
  | nil => simp [mergeFrom]
  | cons fragment rest inductionHypothesis =>
      rw [mergeFrom]
      by_cases only : isCitationOnly fragment = true
      · rw [if_pos only, inductionHypothesis, citations_append_blank isWhitespace_blank,
          List.flatMap_cons, List.append_assoc]
      · rw [if_neg only, List.flatMap_cons, inductionHypothesis, List.flatMap_cons]

/-- A sentence that the rule of the report leaves alone. -/
def IsSupported (sentence : List Char) : Prop :=
  citations sentence ≠ [] ∨ opensWithHedge sentence = true

/-- The first of these fragments consists of citations only. -/
def OpensWithCitations (fragments : List (List Char)) : Prop :=
  ∃ next ∈ fragments.head?, isCitationOnly next = true

/-- All splits of a list that is not empty. -/
theorem forall_split_cons {Item : Type} {holds : List Item → Item → List Item → Prop}
    {first : Item} {rest : List Item} :
    (∀ before item after, first :: rest = before ++ item :: after → holds before item after) ↔
      holds [] first rest ∧ ∀ before item after, rest = before ++ item :: after →
        holds (first :: before) item after := by
  constructor
  · intro each
    refine ⟨each [] first rest rfl, ?_⟩
    intro before item after split
    exact each (first :: before) item after (by rw [split, List.cons_append])
  · intro both before item after split
    cases before with
    | nil =>
        obtain ⟨rfl, rfl⟩ := List.cons.inj split
        exact both.1
    | cons head before =>
        obtain ⟨rfl, later⟩ := List.cons.inj split
        exact both.2 before item after later

/-- The sentences are supported where the fragments are, or stand before citations.  The
induction is on the fragments. -/
theorem all_supported_iff (solid : ∀ fragment ∈ fragments, IsSolid fragment) :
    (∀ sentence ∈ mergeFrom last fragments, IsSupported sentence) ↔
      (IsSupported last ∨ OpensWithCitations fragments) ∧
        ∀ before fragment after, fragments = before ++ fragment :: after →
          isCitationOnly fragment = true ∨ IsSupported fragment ∨ OpensWithCitations after := by
  induction fragments generalizing last with
  | nil => simp [mergeFrom, OpensWithCitations]
  | cons fragment rest inductionHypothesis =>
      obtain ⟨isSolid, others⟩ := List.forall_mem_cons.mp solid
      have opens : OpensWithCitations (fragment :: rest) ↔ isCitationOnly fragment = true := by
        simp [OpensWithCitations]
      rw [mergeFrom, forall_split_cons, opens]
      by_cases only : isCitationOnly fragment = true
      · have cites : IsSupported (last ++ ' ' :: fragment) := by
          left
          rw [citations_append_blank isWhitespace_blank]
          have given : trim fragment ≠ [] := by
            rw [isSolid.trim_eq]
            exact isSolid.given
          exact List.append_ne_nil_of_right_ne_nil _
            (citations_ne_nil_of_citationOnly given only)
        rw [if_pos only, inductionHypothesis others]
        constructor
        · exact fun both => ⟨Or.inr only, Or.inl only, both.2⟩
        · exact fun all => ⟨Or.inl cites, all.2.2⟩
      · rw [if_neg only, List.forall_mem_cons, inductionHypothesis others]
        constructor
        · exact fun all => ⟨Or.inl all.1, Or.inr all.2.1, all.2.2⟩
        · intro all
          exact ⟨all.1.resolve_right only, all.2.1.resolve_left only, all.2.2⟩

end Sentences

/-! ## The result -/

/-- The fragments of a section. -/
def ReportSection.fragments (reportSection : ReportSection) : List (List Char) :=
  splitSentences (trim reportSection.body.val.toList)

/-- The rule for a fragment that is not empty: it cites, it opens with a hedge, it is of
citations only and has a predecessor, or such a fragment follows. -/
def ReportSection.FollowsRule (reportSection : ReportSection) : Prop :=
  ∀ before fragment after, reportSection.fragments = before ++ fragment :: after →
    fragment ≠ [] →
      isCitationOnly fragment = true ∧ before ≠ [] ∨ citations fragment ≠ [] ∨
        opensWithHedge fragment = true ∨ OpensWithCitations after

/-- What a section has: no fragments, or solid ones. -/
theorem fragments_cases (reportSection : ReportSection) :
    reportSection.fragments = [[]] ∧ reportSection.sentences = [] ∨
      ∃ first rest, reportSection.fragments = first :: rest ∧
        (∀ fragment ∈ first :: rest, IsSolid fragment) ∧
        reportSection.sentences = mergeFrom first rest := by
  by_cases given : trim reportSection.body.val.toList = []
  · left
    rw [ReportSection.fragments, ReportSection.sentences, given]
    exact ⟨rfl, rfl⟩
  · right
    have solid := solid_of_mem_splitSentences (trimmed_trim _) given
    obtain ⟨first, rest, split⟩ := List.exists_cons_of_ne_nil
      (@splitFrom_ne_nil (trim reportSection.body.val.toList) [] false)
    change splitSentences _ = _ at split
    rw [split] at solid
    have isFirst := solid first List.mem_cons_self
    have begun : addFragment [] first = [first] := by
      simp [addFragment, isFirst.trim_eq, isFirst.given]
    refine ⟨first, rest, split, solid, ?_⟩
    rw [ReportSection.sentences, split, List.foldl_cons, begun]
    have merged := @foldl_addFragment rest [] first fun fragment member =>
      solid fragment (List.mem_cons_of_mem first member)
    exact merged

theorem refuseUncited_eq_ok {repr : String → String} {reportSection : ReportSection} :
    refuseUncited repr reportSection = .ok () ↔
      ∀ sentence ∈ reportSection.sentences, IsSupported sentence := by
  have accepts : refuseUncited repr reportSection = .ok () ↔
      reportSection.uncitedSentences = [] := by
    rw [refuseUncited, ite_eq_ok_iff]
    exact and_iff_left rfl
  rw [accepts, ReportSection.uncitedSentences, List.filter_eq_nil_iff]
  apply forall_congr'
  intro sentence
  apply imp_congr_right
  intro _
  rw [decide_eq_true_iff, IsSupported, not_and_or, not_not]

/-- A section is accepted where its fragments follow the rule. -/
theorem refuseUncited_eq_ok_iff {repr : String → String} {reportSection : ReportSection} :
    refuseUncited repr reportSection = .ok () ↔ reportSection.FollowsRule := by
  rw [refuseUncited_eq_ok, ReportSection.FollowsRule]
  rcases fragments_cases reportSection with ⟨isEmpty, none⟩ | ⟨first, rest, split, solid, merged⟩
  · rw [isEmpty, none, forall_split_cons]
    simp
  · obtain ⟨isFirst, others⟩ := List.forall_mem_cons.mp solid
    rw [split, merged, all_supported_iff others, forall_split_cons]
    apply and_congr
    · simp [isFirst.given, IsSupported, or_assoc]
    · apply forall_congr'
      intro before
      apply forall_congr'
      intro fragment
      apply forall_congr'
      intro after
      apply imp_congr_right
      intro later
      have given : fragment ≠ [] := by
        apply IsSolid.given
        apply others
        rw [later]
        exact List.mem_append_right before List.mem_cons_self
      simp [given, IsSupported, or_assoc]

/-- White space around a text holds no citation. -/
theorem citations_trim (text : List Char) : citations (trim text) = citations text := by
  have blanks {blank text : List Char} (all : ∀ char ∈ blank, isWhitespace char = true) :
      citations (blank ++ text) = citations text := by
    induction blank with
    | nil => rfl
    | cons char blank inductionHypothesis =>
        obtain ⟨isBlank, others⟩ := List.forall_mem_cons.mp all
        rw [List.cons_append]
        exact (@citations_append_blank [] _ char isBlank).trans (inductionHypothesis others)
  obtain ⟨before, after, whole, beforeBlank, afterBlank⟩ := exists_trim text
  conv_rhs => rw [whole, List.append_assoc, blanks beforeBlank]
  cases after with
  | nil => rw [List.append_nil]
  | cons char after =>
      obtain ⟨isBlank, others⟩ := List.forall_mem_cons.mp afterBlank
      have none := @blanks after [] others
      rw [List.append_nil] at none
      rw [citations_append_blank isBlank, none]
      simp [citations]

/-- The validator accepts the reports whose sections follow the rule.  The sentences of a
section are its fragments, some of them joined, and have the citations of its body. -/
theorem citationRule_spec :
    (∀ repr sections, everyFactualSentenceMustCiteEvidence repr sections = .ok () ↔
      ∀ reportSection ∈ sections, ReportSection.FollowsRule reportSection) ∧
    ∀ reportSection : ReportSection,
      [' '].intercalate reportSection.sentences = [' '].intercalate reportSection.fragments ∧
      reportSection.sentences.flatMap citations = citations reportSection.body.val.toList := by
  refine ⟨?_, ?_⟩
  · intro repr sections
    rw [everyFactualSentenceMustCiteEvidence, forM_eq_ok_iff]
    simp only [refuseUncited_eq_ok_iff]
  · intro reportSection
    have all := @citations_splitFrom (trim reportSection.body.val.toList) [] false (by simp)
    change reportSection.fragments.flatMap citations = _ at all
    rw [List.nil_append, citations_trim] at all
    rcases fragments_cases reportSection with ⟨isEmpty, none⟩ | ⟨first, rest, split, -, merged⟩
    · rw [isEmpty] at all
      rw [isEmpty, none, ← all]
      exact ⟨rfl, rfl⟩
    · rw [split] at all
      rw [split, merged, intercalate_mergeFrom, citations_mergeFrom, ← all]
      exact ⟨rfl, rfl⟩

section Example

/-- A section whose body is one blank. -/
def blankSection : ReportSection where
  heading := ⟨"Findings", by decide⟩
  body := ⟨" ", by decide⟩

/-- The empty fragment of such a body cites nothing, and the report is accepted. -/
theorem blank_section_accepted :
    everyFactualSentenceMustCiteEvidence id [blankSection] = .ok () ∧
      ¬ ∀ before fragment after, blankSection.fragments = before ++ fragment :: after →
        isCitationOnly fragment = true ∧ before ≠ [] ∨ citations fragment ≠ [] ∨
          opensWithHedge fragment = true ∨ OpensWithCitations after := by
  refine ⟨by decide, ?_⟩
  have isEmpty : blankSection.fragments = [[]] := by decide
  rw [isEmpty, forall_split_cons]
  intro rule
  rcases rule.1 with only | cites | hedged | follows
  · exact only.2 rfl
  · exact cites rfl
  · exact absurd hedged (by decide)
  · obtain ⟨next, found, -⟩ := follows
    cases found

end Example

end ResearchPlatform
