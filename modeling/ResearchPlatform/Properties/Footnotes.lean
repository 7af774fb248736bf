import Mathlib.Data.Finset.Card
import Mathlib.Data.Set.Function
import Mathlib.Order.Interval.Set.Defs
import ResearchPlatform.Application.Markdown
import ResearchPlatform.Properties.CitationRule

/-!
# Footnotes

The numbers of a rendered report go by the order in which evidence is first cited, across all
sections.  The text around the citations stays, and each number has its line among the
sources.
-/

namespace ResearchPlatform

open Foundation

/-! ## The specification -/

/-- The distinct identifiers in the order of their first citation. -/
structure IsFirstCitationOrder (cited order : List UUID) : Prop where
  distinct : order.Nodup
  mem_iff : ∀ identifier, identifier ∈ order ↔ identifier ∈ cited
  inOrder : order.Pairwise fun first second => cited.idxOf first < cited.idxOf second

/-- The footnote number of an identifier. -/
def numberOf (order : List UUID) (identifier : UUID) : Nat := order.idxOf identifier + 1

/-- A piece as it stands in the text. -/
def Piece.source : Piece → List Char
  | char value => [value]
  | citation identifier => '[' :: identifier ++ [']']

/-- A piece with the number in place of the identifier. -/
def Piece.numbered (order : List UUID) : Piece → List Char
  | char value => [value]
  | citation identifier =>
      match UUID.parse (String.ofList identifier) with
      | some cited => '[' :: (toString (numberOf order cited)).toList ++ [']']
      | none => '[' :: identifier ++ [']']

/-- The identifier of a piece that is a citation. -/
def Piece.identifier : Piece → Option (List Char)
  | char _ => none
  | citation identifier => some identifier

/-- The text with numbers in place of the identifiers it cites. -/
def numberedBody (order : List UUID) (text : List Char) : List Char :=
  (pieces text).flatMap (Piece.numbered order)

/-- The report with its footnotes in this order. -/
def numberedReport (isoDate : Timestamp → String) (job : ResearchJob) (report : ResearchReport)
    (shortfalls : List String) (evidence : List EvidenceRecord) (checks : List SourceCheck)
    (order : List UUID) : String :=
  let title := ["# " ++ report.title.val, "", "**Question:** " ++ job.question.val, ""]
  let sections := report.sections.flatMap fun reportSection =>
    sectionLines reportSection (numberedBody order reportSection.body.val.toList)
  let sources := order.map fun identifier =>
    sourceLine isoDate evidence checks identifier (numberOf order identifier)
  let lines := title ++ bannerLines report shortfalls ++ sections ++ ["## Sources", ""] ++
    sources ++ (if order = [] then ["No sources were cited."] else [])
  "\n".intercalate lines ++ "\n"

/-! ## Pieces -/

section Pieces

variable {text : List Char}

theorem citations_append_of_ne {front : List Char} (noBracket : ∀ char ∈ front, char ≠ '[') :
    citations (front ++ text) = citations text := by
  induction front with
  | nil => rfl
  | cons char front inductionHypothesis =>
      obtain ⟨first, others⟩ := List.forall_mem_cons.mp noBracket
      have none : citationAt (char :: (front ++ text)) = none := by
        cases found : citationAt (char :: (front ++ text)) with
        | none => rfl
        | some identifier =>
            obtain ⟨after, whole, -⟩ := citationAt_eq_some_iff.mp found
            exact absurd (List.cons.inj whole).1 first
      rw [List.cons_append, citations, none, inductionHypothesis others]
      rfl

theorem pieces_of_none {char : Char} (none : citationAt (char :: text) = none) :
    pieces (char :: text) = .char char :: pieces text := by
  rw [pieces, piecesFrom, none]
  rfl

theorem piecesFrom_skip (front : List Char) :
    piecesFrom front.length (front ++ text) = pieces text := by
  induction front with
  | nil => rfl
  | cons char front inductionHypothesis => exact inductionHypothesis

/-- A text that begins with a citation. -/
theorem pieces_of_citation {identifier : List Char} (length : identifier.length = 36)
    (each : ∀ char ∈ identifier, isIdentifierChar char = true) :
    pieces ('[' :: (identifier ++ ']' :: text)) = .citation identifier :: pieces text ∧
      citations ('[' :: (identifier ++ ']' :: text)) = identifier :: citations text := by
  have found : citationAt ('[' :: (identifier ++ ']' :: text)) = some identifier :=
    citationAt_eq_some_iff.mpr ⟨text, rfl, length, each⟩
  have whole : identifier ++ ']' :: text = (identifier ++ [']']) ++ text := by simp
  have closed : (identifier ++ [']']).length = 37 := by simp [length]
  refine ⟨?_, ?_⟩
  · have skip := @piecesFrom_skip text (identifier ++ [']'])
    rw [closed] at skip
    rw [pieces, piecesFrom, found, whole, skip]
  · have noBracket : ∀ char ∈ identifier ++ [']'], char ≠ '[' := by
      intro char member
      rcases List.mem_append.mp member with isIdentifier | closing
      · rintro rfl
        exact absurd (each '[' isIdentifier) (by decide)
      · rw [List.mem_singleton.mp closing]
        decide
    rw [citations, found, whole, citations_append_of_ne noBracket]
    rfl

/-- The pieces of a text are the text, and their identifiers those that the text cites.  The
induction is on the length of the text. -/
theorem pieces_faithful (text : List Char) :
    (pieces text).flatMap Piece.source = text ∧
      (pieces text).filterMap Piece.identifier = citations text := by
  induction size : text.length using Nat.strong_induction_on generalizing text with
  | _ size inductionHypothesis =>
      subst size
      cases text with
      | nil => exact ⟨rfl, rfl⟩
      | cons char rest =>
          cases found : citationAt (char :: rest) with
          | none =>
              obtain ⟨source, identifiers⟩ := inductionHypothesis rest.length
                (Nat.lt_succ_self _) rest rfl
              rw [pieces_of_none found, citations, found, List.flatMap_cons, source]
              exact ⟨rfl, identifiers⟩
          | some identifier =>
              obtain ⟨after, whole, length, each⟩ := citationAt_eq_some_iff.mp found
              rw [List.cons_append] at whole
              rw [whole] at inductionHypothesis ⊢
              obtain ⟨source, identifiers⟩ := inductionHypothesis after.length
                (by simp; omega) after rfl
              obtain ⟨split, cites⟩ := @pieces_of_citation after identifier length each
              rw [split, cites, List.flatMap_cons, source]
              exact ⟨by simp [Piece.source], congrArg (identifier :: ·) identifiers⟩

end Pieces

/-! ## The order of first citation -/

section FirstCitation

variable {order cited final : List UUID} {identifier : UUID}

/-- The order once an identifier was cited. -/
def cite (order : List UUID) (identifier : UUID) : List UUID :=
  if identifier ∈ order then order else order ++ [identifier]

/-- The order once these identifiers were cited. -/
def firstCitations (order cited : List UUID) : List UUID := cited.foldl cite order

theorem prefix_cite : order <+: cite order identifier := by
  unfold cite
  by_cases present : identifier ∈ order
  · rw [if_pos present]
  · rw [if_neg present]
    exact List.prefix_append order [identifier]

theorem mem_cite {other : UUID} :
    other ∈ cite order identifier ↔ other ∈ order ∨ other = identifier := by
  unfold cite
  by_cases present : identifier ∈ order
  · rw [if_pos present]
    constructor
    · exact Or.inl
    · intro either
      rcases either with before | rfl
      · exact before
      · exact present
  · rw [if_neg present, List.mem_append, List.mem_singleton]

theorem prefix_firstCitations : order <+: firstCitations order cited := by
  induction cited generalizing order with
  | nil => exact List.prefix_rfl
  | cons identifier rest inductionHypothesis =>
      exact prefix_cite.trans inductionHypothesis

theorem firstCitations_append {more : List UUID} :
    firstCitations order (cited ++ more) = firstCitations (firstCitations order cited) more :=
  List.foldl_append

/-- One more citation.  Where it is the first of its identifier, all others come before. -/
theorem IsFirstCitationOrder.afterCitation (ordered : IsFirstCitationOrder cited order) :
    IsFirstCitationOrder (cited ++ [identifier]) (cite order identifier) := by
  have earlier : ∀ {other : UUID}, other ∈ order →
      (cited ++ [identifier]).idxOf other = cited.idxOf other :=
    fun member => List.idxOf_append_of_mem ((ordered.mem_iff _).mp member)
  have kept : order.Pairwise fun first second =>
      (cited ++ [identifier]).idxOf first < (cited ++ [identifier]).idxOf second := by
    apply ordered.inOrder.imp_of_mem
    intro first second firstMember secondMember before
    rwa [earlier firstMember, earlier secondMember]
  have members : ∀ other, other ∈ cite order identifier ↔
      other ∈ cited ++ [identifier] := by
    intro other
    rw [mem_cite, ordered.mem_iff, List.mem_append, List.mem_singleton]
  by_cases present : identifier ∈ order
  · have same : cite order identifier = order := if_pos present
    rw [same] at members ⊢
    exact ⟨ordered.distinct, members, kept⟩
  · have added : cite order identifier = order ++ [identifier] :=
      if_neg present
    rw [added] at members ⊢
    refine ⟨?_, members, ?_⟩
    · rw [← List.concat_eq_append]
      exact ordered.distinct.concat present
    · apply List.pairwise_append.mpr
      refine ⟨kept, List.pairwise_singleton _ _, ?_⟩
      intro other otherMember last isLast
      have isCited := (ordered.mem_iff other).mp otherMember
      have isNew : identifier ∉ cited := mt (ordered.mem_iff identifier).mpr present
      rw [List.mem_singleton.mp isLast, earlier otherMember,
        List.idxOf_append_of_notMem isNew, List.idxOf_cons_self]
      exact List.idxOf_lt_length_of_mem isCited

theorem isFirstCitationOrder (cited : List UUID) :
    IsFirstCitationOrder cited (firstCitations [] cited) := by
  induction cited using List.reverseRecOn with
  | nil => exact ⟨List.nodup_nil, fun _ => Iff.rfl, List.Pairwise.nil⟩
  | append_singleton cited identifier inductionHypothesis =>
      rw [firstCitations_append]
      exact inductionHypothesis.afterCitation

theorem numberOf_leading (before : order <+: final) (member : identifier ∈ order) :
    numberOf order identifier = numberOf final identifier :=
  congrArg (· + 1) (before.idxOf_eq_of_mem member)

theorem IsFirstCitationOrder.numberOf_getElem (ordered : IsFirstCitationOrder cited order)
    (position : Nat) (inside : position < order.length) :
    numberOf order order[position] = position + 1 :=
  congrArg (· + 1) (ordered.distinct.idxOf_getElem position inside)

/-- The numbers go up to the length of the order, each for one identifier. -/
theorem IsFirstCitationOrder.bijOn (ordered : IsFirstCitationOrder cited order) :
    Set.BijOn (numberOf order) {identifier | identifier ∈ cited} (Set.Icc 1 order.length) := by
  refine ⟨?_, ?_, ?_⟩
  · intro identifier isCited
    have inside := List.idxOf_lt_length_of_mem ((ordered.mem_iff identifier).mpr isCited)
    exact ⟨Nat.le_add_left 1 _, inside⟩
  · intro first firstCited second secondCited same
    have indexes : order.idxOf first = order.idxOf second := Nat.succ.inj same
    exact (List.idxOf_inj ((ordered.mem_iff first).mpr firstCited)).mp indexes
  · intro number range
    obtain ⟨positive, bounded⟩ := range
    have inside : number - 1 < order.length := by omega
    refine ⟨order[number - 1], (ordered.mem_iff _).mp (List.getElem_mem inside), ?_⟩
    rw [ordered.numberOf_getElem (number - 1) inside]
    omega

theorem IsFirstCitationOrder.length_eq (ordered : IsFirstCitationOrder cited order) :
    order.length = cited.toFinset.card := by
  rw [← List.toFinset_card_of_nodup ordered.distinct]
  congr 1
  ext identifier
  rw [List.mem_toFinset, List.mem_toFinset, ordered.mem_iff]

end FirstCitation

/-! ## The numbers while the lines are built -/

section Rendering

variable {numbers : Dict UUID Nat} {order final : List UUID}

/-- The dictionary holds the identifiers in this order, each with its number. -/
def IsNumbered (numbers : Dict UUID Nat) (order : List UUID) : Prop :=
  numbers.entries = order.map fun identifier => (identifier, numberOf order identifier)

theorem IsNumbered.keys (numbered : IsNumbered numbers order) :
    numbers.entries.map Prod.fst = order := by
  rw [numbered, List.map_map]
  exact List.map_id order

/-- The next number goes to an identifier that is new; another has one already. -/
theorem IsNumbered.setDefault (numbered : IsNumbered numbers order) (cited : UUID) :
    ∃ later, numbers.setDefault cited (numbers.entries.length + 1) =
        (numberOf (cite order cited) cited, later) ∧
      IsNumbered later (cite order cited) := by
  by_cases present : cited ∈ order
  · have entry : (cited, numberOf order cited) ∈ numbers.entries := by
      rw [numbered]
      exact List.mem_map.mpr ⟨cited, present, rfl⟩
    have same : cite order cited = order := if_pos present
    rw [same, Dict.setDefault, Dict.get?_of_mem_entries entry]
    exact ⟨numbers, rfl, numbered⟩
  · have absent : cited ∉ numbers.entries.map Prod.fst := by rwa [numbered.keys]
    have added : cite order cited = order ++ [cited] := if_neg present
    have size : numbers.entries.length = order.length := by rw [numbered, List.length_map]
    have last : numberOf (order ++ [cited]) cited = order.length + 1 := by
      rw [numberOf, List.idxOf_append_of_notMem present, List.idxOf_cons_self]
    rw [added, last, size, Dict.setDefault, Dict.get?_eq_none_iff.mpr absent]
    refine ⟨_, rfl, ?_⟩
    rw [IsNumbered, Dict.entries_set_of_not_mem _ absent, numbered, List.map_append,
      List.map_singleton, last]
    congr 1
    apply List.map_congr_left
    intro identifier member
    rw [numberOf_leading (List.prefix_append order [cited]) member]

/-- The identifiers that some pieces cite, where they can be parsed. -/
def citedIn (items : List Piece) : List UUID :=
  (items.filterMap Piece.identifier).filterMap fun identifier =>
    UUID.parse (String.ofList identifier)

/-- All citations are identifiers. -/
def Parses (identifiers : List (List Char)) : Prop :=
  ∀ identifier ∈ identifiers, (UUID.parse (String.ofList identifier)).isSome

/-- What the substitution writes is already what the final order says.  The induction is on
the pieces, for the numbers that were given before. -/
theorem substituteFootnotes_eq {items : List Piece}
    (parses : Parses (items.filterMap Piece.identifier)) (numbered : IsNumbered numbers order)
    (before : firstCitations order (citedIn items) <+: final) :
    ∃ later, substituteFootnotes numbers items =
        .ok (later, items.flatMap (Piece.numbered final)) ∧
      IsNumbered later (firstCitations order (citedIn items)) := by
  induction items generalizing numbers order with
  | nil => exact ⟨numbers, rfl, numbered⟩
  | cons item rest inductionHypothesis =>
      cases item with
      | char value =>
          obtain ⟨later, written, still⟩ := inductionHypothesis parses numbered before
          refine ⟨later, ?_, still⟩
          rw [substituteFootnotes, written]
          rfl
      | citation identifier =>
          obtain ⟨first, others⟩ := List.forall_mem_cons.mp parses
          obtain ⟨cited, isCited⟩ := Option.isSome_iff_exists.mp first
          have step : citedIn (.citation identifier :: rest) = cited :: citedIn rest :=
            List.filterMap_cons_some isCited
          rw [step] at before ⊢
          obtain ⟨between, given, nowNumbered⟩ := numbered.setDefault cited
          obtain ⟨later, written, still⟩ := inductionHypothesis others nowNumbered before
          have known : cited ∈ cite order cited := mem_cite.mpr (Or.inr rfl)
          have leads : cite order cited <+: final := prefix_firstCitations.trans before
          have number := numberOf_leading leads known
          refine ⟨later, ?_, still⟩
          rw [substituteFootnotes, footnote, isCited]
          simp only [given, List.flatMap_cons, Piece.numbered, isCited, number]
          change (substituteFootnotes between rest).bind _ = _
          rw [written]
          rfl

/-- The identifiers that some sections cite, in order. -/
def citedInSections (sections : List ReportSection) : List UUID :=
  sections.flatMap fun reportSection => citedIn (pieces reportSection.body.val.toList)

theorem renderSections_eq {sections : List ReportSection}
    (parses : ∀ reportSection ∈ sections, Parses (citations reportSection.body.val.toList))
    (numbered : IsNumbered numbers order)
    (before : firstCitations order (citedInSections sections) <+: final) :
    ∃ later, renderSections numbers sections = .ok (later, sections.flatMap fun reportSection =>
        sectionLines reportSection (numberedBody final reportSection.body.val.toList)) ∧
      IsNumbered later (firstCitations order (citedInSections sections)) := by
  induction sections generalizing numbers order with
  | nil => exact ⟨numbers, rfl, numbered⟩
  | cons reportSection rest inductionHypothesis =>
      obtain ⟨first, others⟩ := List.forall_mem_cons.mp parses
      have step : citedInSections (reportSection :: rest) =
        citedIn (pieces reportSection.body.val.toList) ++ citedInSections rest := rfl
      rw [step, firstCitations_append] at before ⊢
      rw [← (pieces_faithful _).2] at first
      obtain ⟨between, body, nowNumbered⟩ :=
        substituteFootnotes_eq first numbered (prefix_firstCitations.trans before)
      obtain ⟨later, written, still⟩ := inductionHypothesis others nowNumbered before
      refine ⟨later, ?_, still⟩
      rw [renderSections, body]
      change (renderSections between rest).bind _ = _
      rw [written]
      rfl

end Rendering

/-! ## The rendered report -/

section Report

variable {report : ResearchReport} {cited order : List UUID}

theorem citedEvidenceIds_of_parses {reportSection : ReportSection}
    (parses : Parses (citations reportSection.body.val.toList)) :
    reportSection.citedEvidenceIds =
      .ok (citedIn (pieces reportSection.body.val.toList)) := by
  rw [ReportSection.citedEvidenceIds, citedIn, (pieces_faithful _).2]
  generalize citations reportSection.body.val.toList = identifiers at parses
  apply mapM_eq_ok_iff.mpr
  induction identifiers with
  | nil => exact .nil
  | cons identifier rest inductionHypothesis =>
      obtain ⟨first, others⟩ := List.forall_mem_cons.mp parses
      obtain ⟨cited, isCited⟩ := Option.isSome_iff_exists.mp first
      have step : (identifier :: rest).filterMap (fun each => UUID.parse (String.ofList each)) =
          cited :: rest.filterMap fun each => UUID.parse (String.ofList each) :=
        List.filterMap_cons_some isCited
      rw [step]
      exact .cons (by rw [isCited]) (inductionHypothesis others)

theorem ResearchReport.citedEvidenceIds_of_parses
    (parses : ∀ reportSection ∈ report.sections,
      Parses (citations reportSection.body.val.toList)) :
    report.citedEvidenceIds = .ok (citedInSections report.sections) := by
  have each : report.sections.mapM ReportSection.citedEvidenceIds =
      .ok (report.sections.map fun reportSection =>
        citedIn (pieces reportSection.body.val.toList)) := by
    apply mapM_eq_ok_iff.mpr
    rw [List.forall₂_map_right_iff]
    apply List.forall₂_same.mpr
    exact fun reportSection member =>
      ResearchPlatform.citedEvidenceIds_of_parses (parses reportSection member)
  rw [ResearchReport.citedEvidenceIds, each]
  rfl

theorem renderMarkdown_eq (isoDate : Timestamp → String) (job : ResearchJob)
    (shortfalls : List String) (evidence : List EvidenceRecord) (checks : List SourceCheck)
    (parses : ∀ reportSection ∈ report.sections,
      Parses (citations reportSection.body.val.toList)) :
    renderMarkdown isoDate job report shortfalls evidence checks =
      .ok (numberedReport isoDate job report shortfalls evidence checks
        (firstCitations [] (citedInSections report.sections))) := by
  have empty : IsNumbered ∅ [] := rfl
  obtain ⟨later, written, numbered⟩ := renderSections_eq parses empty List.prefix_rfl
  have noEntries : later.entries = [] ↔
      firstCitations [] (citedInSections report.sections) = [] := by
    rw [numbered, List.map_eq_nil_iff]
  rw [renderMarkdown, written]
  simp only [bind, Except.bind, pure, Except.pure, numberedReport, noEntries]
  rw [numbered, List.map_map]
  rfl

theorem bannerLines_eq_nil_iff {shortfalls : List String} :
    bannerLines report shortfalls = [] ↔ ¬ (report.isPartial = true ∨ shortfalls ≠ []) := by
  unfold bannerLines
  by_cases needed : report.isPartial = true ∨ shortfalls ≠ []
  · rw [if_pos needed]
    exact iff_of_false (by simp) (not_not_intro needed)
  · rw [if_neg needed]
    exact iff_of_true rfl needed

theorem mem_bannerLines {shortfalls : List String} {shortfall : String}
    (member : shortfall ∈ shortfalls) :
    "> - " ++ shortfall ∈ bannerLines report shortfalls := by
  have given : shortfalls ≠ [] := List.ne_nil_of_mem member
  rw [bannerLines, if_pos (Or.inr given), if_pos given]
  have listed := List.mem_map_of_mem (f := fun reason => "> - " ++ reason) member
  exact List.mem_append_left _ (List.mem_append_right _ listed)

/-- A source is described by a record of its identifier, or there is none. -/
inductive Describes (isoDate : Timestamp → String) (evidence : List EvidenceRecord)
    (checks : List SourceCheck) (identifier : UUID) (number : Nat) (line : String) : Prop where
  | recorded (record : EvidenceRecord) (isHeld : record ∈ evidence)
      (same : record.id = identifier) (isLine : line = recordLine isoDate checks record number)
  | unrecorded (noRecord : ∀ record ∈ evidence, record.id ≠ identifier)
      (isLine : line = unrecordedLine identifier number)

theorem describes_sourceLine (isoDate : Timestamp → String) (evidence : List EvidenceRecord)
    (checks : List SourceCheck) (identifier : UUID) (number : Nat) :
    Describes isoDate evidence checks identifier number
      (sourceLine isoDate evidence checks identifier number) := by
  unfold sourceLine
  cases found : evidence.reverse.find? (·.id = identifier) with
  | none =>
      apply Describes.unrecorded _ rfl
      intro record member
      have differs := List.find?_eq_none.mp found record (List.mem_reverse.mpr member)
      simpa using differs
  | some record =>
      have member := List.mem_reverse.mp (List.mem_of_find?_eq_some found)
      exact Describes.recorded record member (by simpa using List.find?_some found) rfl

/-- The report for a reader has each identifier's number in place of its citations, and
describes the sources under their numbers. -/
theorem renderMarkdown_spec
    (parses : ∀ reportSection ∈ report.sections,
      ∀ identifier ∈ citations reportSection.body.val.toList,
        (UUID.parse (String.ofList identifier)).isSome) :
    ∃ cited order, report.citedEvidenceIds = .ok cited ∧ IsFirstCitationOrder cited order ∧
      Set.BijOn (numberOf order) {identifier | identifier ∈ cited} (Set.Icc 1 order.length) ∧
      order.length = cited.toFinset.card ∧
      (∀ position (inside : position < order.length),
        numberOf order order[position] = position + 1) ∧
      (∀ text : List Char, (pieces text).flatMap Piece.source = text ∧
        (pieces text).filterMap Piece.identifier = citations text) ∧
      ∀ isoDate job shortfalls evidence checks,
        renderMarkdown isoDate job report shortfalls evidence checks =
            .ok (numberedReport isoDate job report shortfalls evidence checks order) ∧
          (∀ identifier number, Describes isoDate evidence checks identifier number
            (sourceLine isoDate evidence checks identifier number)) ∧
          (bannerLines report shortfalls ≠ [] ↔ report.isPartial = true ∨ shortfalls ≠ []) ∧
          ∀ shortfall ∈ shortfalls, "> - " ++ shortfall ∈ bannerLines report shortfalls := by
  have ordered := isFirstCitationOrder (citedInSections report.sections)
  refine ⟨_, _, ResearchReport.citedEvidenceIds_of_parses parses, ordered, ordered.bijOn,
    ordered.length_eq, ordered.numberOf_getElem, pieces_faithful, ?_⟩
  intro isoDate job shortfalls evidence checks
  refine ⟨renderMarkdown_eq isoDate job shortfalls evidence checks parses,
    describes_sourceLine isoDate evidence checks, ?_, fun _ => mem_bannerLines⟩
  rw [ne_eq, bannerLines_eq_nil_iff, not_not]

end Report

/-! ## Two spellings of one identifier -/

section Example

def twoSpellings : ResearchReport where
  title := ⟨"Markets", by decide⟩
  sections :=
    [{ heading := ⟨"Past", by decide⟩
       body := ⟨"Sales fell [6f9619ff-8b86-d011-b42d-00cf4fc964ff].", by decide⟩ },
     { heading := ⟨"Present", by decide⟩
       body := ⟨"Sales rise [6F9619FF-8B86-D011-B42D-00CF4FC964FF].", by decide⟩ }]
  sectionsInRange := by decide
  omissionsBounded := noTexts_bounded
  partialSaysWhy := complete_saysWhy
  completeOmitsNothing := complete_omitsNothing

theorem renderMarkdown_spec_of_twoSpellings :
    ∃ order : List UUID, order.length = 1 ∧ ∀ isoDate job shortfalls evidence checks,
      renderMarkdown isoDate job twoSpellings shortfalls evidence checks =
        .ok (numberedReport isoDate job twoSpellings shortfalls evidence checks order) := by
  have parses : ∀ reportSection ∈ twoSpellings.sections,
      ∀ identifier ∈ citations reportSection.body.val.toList,
        (UUID.parse (String.ofList identifier)).isSome := by decide +kernel
  obtain ⟨cited, order, isCited, -, -, size, -, -, renders⟩ := renderMarkdown_spec parses
  refine ⟨order, ?_, fun isoDate job shortfalls evidence checks =>
    (renders isoDate job shortfalls evidence checks).1⟩
  have one : (match twoSpellings.citedEvidenceIds with
      | .ok cited => cited.toFinset.card
      | .error _ => 0) = 1 := by decide +kernel
  rw [isCited] at one
  exact size.trans one

end Example

end ResearchPlatform
