import ResearchPlatform.Properties.SqlScreen

/-!
# What the SQL server runs

The limit on the rows is put after the text.  It bounds the statement that was screened,
where the text ends in it.
-/

namespace ResearchPlatform

open Foundation Foundation.SqlText

/-- The segment is white space in the code. -/
def isBlankCode : Segment → Bool
  | .code char => isWhitespace char
  | _ => false

/-- A text without the semicolons and the white space at its end. -/
def unended (segments : List Segment) : List Segment :=
  (segments.rdropWhile separates).rdropWhile isBlankCode

/-- What is put after the text goes on its only statement. -/
structure EndsInStatement (segments : List Segment) : Prop where
  single : .symbol ';' ∉ tokens (unended segments)
  uncommented : ∀ body stop, (unended segments).getLast? ≠ some (.lineComment body stop)

/-! ## The end of the text -/

section End

variable {segments kept dropped added : List Segment}

/-- The end of a text is dropped with the items that it consists of. -/
theorem rdropWhile_flatMap {Item : Type} {items : List Item} {text : Item → List Char}
    {drops : Item → Bool} {accepts : Char → Bool}
    (dropped : ∀ item ∈ items, drops item = true →
      ∃ char, text item = [char] ∧ accepts char = true)
    (kept : ∀ item ∈ (items.rdropWhile drops).getLast?,
      ∃ front last, text item = front ++ [last] ∧ accepts last = false) :
    (items.flatMap text).rdropWhile accepts = (items.rdropWhile drops).flatMap text := by
  induction items using List.reverseRecOn with
  | nil => rfl
  | append_singleton items item inductionHypothesis =>
      rw [List.flatMap_append, List.flatMap_singleton]
      by_cases drop : drops item = true
      · obtain ⟨char, single, accepted⟩ := dropped item (by simp) drop
        rw [List.rdropWhile_concat_pos _ _ _ drop] at kept ⊢
        rw [single, List.rdropWhile_concat_pos _ _ _ accepted]
        exact inductionHypothesis (fun other member => dropped other (by simp [member])) kept
      · rw [List.rdropWhile_concat_neg _ _ _ drop] at kept ⊢
        obtain ⟨front, last, ends, solid⟩ := kept item (by simp)
        rw [ends, ← List.append_assoc, List.rdropWhile_concat_neg _ _ _ (by simp [solid]),
          List.flatMap_append, List.flatMap_singleton, ends, List.append_assoc]

/-- The last character of a segment that is no line comment. -/
theorem text_ends {segment : Segment} (ordinary : IsOrdinary segment)
    (uncommented : ∀ body stop, segment ≠ .lineComment body stop) :
    ∃ front last, segment.text = front ++ [last] ∧
      (segment = .code last ∨ last ∈ ['\'', '"', '/']) := by
  cases segment with
  | code char => exact ⟨[], char, rfl, Or.inl rfl⟩
  | quoted mark body =>
      refine ⟨mark :: body, mark, rfl, Or.inr ?_⟩
      rcases mark_cases (ordinary.marked mark body rfl) with rfl | rfl
      · decide
      · decide
  | lineComment body stop => exact absurd rfl (uncommented body stop)
  | blockComment body =>
      exact ⟨'/' :: '*' :: (body ++ ['*']), '/', by simp [Segment.text], by simp⟩

theorem last_rdropWhile {Item : Type} {items : List Item} {drops : Item → Bool} {item : Item}
    (isLast : item ∈ (items.rdropWhile drops).getLast?) : ¬ drops item = true := by
  have some : items.rdropWhile drops ≠ [] := by
    intro none
    rw [none] at isLast
    cases isLast
  rw [List.getLast?_eq_some_getLast some] at isLast
  obtain rfl := Option.some.inj isLast
  exact List.rdropWhile_last_not _ _ some

/-- The text that the limit is put after. -/
theorem text_unended (ordinary : ∀ segment ∈ segments, IsOrdinary segment)
    (ends : EndsInStatement segments) (trimmed : Trimmed (textOf segments)) :
    (((textOf segments).rdropWhile isWhitespace).rdropWhile (· = ';')).rdropWhile isWhitespace =
      textOf (unended segments) := by
  have whole : (textOf segments).rdropWhile isWhitespace = textOf segments := by
    rw [List.rdropWhile_eq_self_iff]
    intro some
    simp [trimmed.ends _ (List.getLast_mem_getLast? some)]
  have semicolons : (textOf segments).rdropWhile (· = ';') =
      textOf (segments.rdropWhile separates) := by
    apply rdropWhile_flatMap
    · intro segment member isSeparator
      obtain rfl := of_decide_eq_true isSeparator
      exact ⟨';', rfl, by decide⟩
    · intro segment isLast
      have member := (List.rdropWhile_prefix separates segments).subset
        (List.mem_of_mem_getLast? isLast)
      have isOther := last_rdropWhile isLast
      have uncommented : ∀ body stop, segment ≠ .lineComment body stop := by
        rintro body stop rfl
        obtain ⟨front, same⟩ := List.getLast?_eq_some_iff.mp isLast
        apply ends.uncommented body stop
        rw [unended, same, List.rdropWhile_concat_neg _ _ _ Bool.false_ne_true,
          List.getLast?_concat]
      obtain ⟨front, last, text, kinds⟩ := text_ends (ordinary segment member) uncommented
      refine ⟨front, last, text, ?_⟩
      rcases kinds with rfl | isMark
      · exact decide_eq_false fun same => isOther (by rw [same]; rfl)
      · have each : ['\'', '"', '/'].all (· ≠ ';') = true := by decide
        simpa using List.all_eq_true.mp each last isMark
  rw [whole, semicolons]
  apply rdropWhile_flatMap
  · intro segment member blank
    cases segment with
    | code char => exact ⟨char, rfl, blank⟩
    | quoted mark body => cases blank
    | lineComment body stop => cases blank
    | blockComment body => cases blank
  · intro segment isLast
    have member := (List.rdropWhile_prefix separates segments).subset
      ((List.rdropWhile_prefix isBlankCode _).subset (List.mem_of_mem_getLast? isLast))
    have solid := last_rdropWhile isLast
    have uncommented : ∀ body stop, segment ≠ .lineComment body stop := by
      rintro body stop rfl
      exact ends.uncommented body stop isLast
    obtain ⟨front, last, text, kinds⟩ := text_ends (ordinary segment member) uncommented
    refine ⟨front, last, text, ?_⟩
    rcases kinds with rfl | isMark
    · exact Bool.eq_false_iff.mpr solid
    · have each : ['\'', '"', '/'].all (!isWhitespace ·) = true := by decide
      simpa using List.all_eq_true.mp each last isMark

/-- Other segments fit after a text that does not end in a line comment. -/
theorem allFit_replace_end (fit : AllFit (kept ++ dropped)) (fitAdded : AllFit added)
    (begins : ∀ char ∈ (textOf added).head?, char = ' ')
    (uncommented : ∀ body stop, kept.getLast? ≠ some (.lineComment body stop)) :
    AllFit (kept ++ added) := by
  induction kept with
  | nil => exact fitAdded
  | cons segment rest inductionHypothesis =>
      have further : ∀ body stop, rest.getLast? ≠ some (.lineComment body stop) := by
        intro body stop isLast
        apply uncommented body stop
        rw [List.getLast?_cons, isLast]
        rfl
      have heads {char : Char} (solid : char ≠ ' ')
          (isFirst : (textOf (rest ++ added)).head? = some char) :
          (textOf (rest ++ dropped)).head? = some char := by
        cases rest with
        | nil => exact absurd (begins char isFirst) solid
        | cons next more =>
            rw [List.cons_append, textOf_cons, List.head?_append_of_ne_nil _ next.text_ne_nil]
              at isFirst ⊢
            exact isFirst
      obtain ⟨fits, fitRest⟩ := fit
      refine ⟨?_, inductionHypothesis fitRest further⟩
      cases segment with
      | code char =>
          obtain ⟨notQuote, notLine, notBlock⟩ := fits_code.mp fits
          exact fits_code.mpr ⟨notQuote, fun line => notLine ⟨line.1, heads (by decide) line.2⟩,
            fun block => notBlock ⟨block.1, heads (by decide) block.2⟩⟩
      | quoted mark body =>
          obtain ⟨isMark, doubled, closed⟩ := fits_quoted.mp fits
          refine fits_quoted.mpr ⟨isMark, doubled, fun isFirst => closed (heads ?_ isFirst)⟩
          rcases mark_cases isMark with rfl | rfl
          · decide
          · decide
      | lineComment body stop =>
          obtain ⟨free, kinds⟩ := fits_lineComment.mp fits
          refine fits_lineComment.mpr ⟨free, ?_⟩
          rcases kinds with ⟨-, isEnd⟩ | kinds
          · cases rest with
            | nil => exact absurd rfl (uncommented body stop)
            | cons next more => cases textOf_eq_nil isEnd
          · rcases kinds with feeds | both | ⟨returns, notFeed⟩
            · exact Or.inr (Or.inl feeds)
            · exact Or.inr (Or.inr (Or.inl both))
            · exact Or.inr (Or.inr (Or.inr ⟨returns, fun isFirst =>
                notFeed (heads (by decide) isFirst)⟩))
      | blockComment body => exact fits_blockComment.mpr (fits_blockComment.mp fits)

/-- Characters that begin nothing else are read one by one. -/
theorem allFit_codes {text : List Char}
    (plain : ∀ char ∈ text, isQuote char = false ∧ char ≠ '-' ∧ char ≠ '/') :
    AllFit (text.map Segment.code) := by
  induction text with
  | nil => trivial
  | cons first rest inductionHypothesis =>
      obtain ⟨notQuote, notLine, notBlock⟩ := plain first List.mem_cons_self
      exact ⟨fits_code.mpr ⟨notQuote, fun line => notLine line.1, fun block => notBlock block.1⟩,
        inductionHypothesis fun char member => plain char (List.mem_cons_of_mem first member)⟩

theorem textOf_codes {text : List Char} : textOf (text.map Segment.code) = text := by
  induction text with
  | nil => rfl
  | cons first rest inductionHypothesis =>
      rw [List.map_cons, textOf_cons, inductionHypothesis]
      rfl

end End

/-! ## The tokens of the text -/

section Tokens

variable {kept dropped rest : List Segment} {run text : List Char}

/-- A segment on which nothing goes on parts the text. -/
theorem tokensFrom_append {segment : Segment} (apart : ∀ run, ¬ goesOn run segment) :
    tokensFrom run (kept ++ segment :: rest) =
      tokensFrom run kept ++ (ownTokens segment ++ tokensFrom [] rest) := by
  induction kept generalizing run with
  | nil => exact tokensFrom_of_not (apart run) rest
  | cons first more inductionHypothesis =>
      by_cases joined : goesOn run first
      · obtain ⟨char, rfl, joined⟩ := joined
        rw [List.cons_append, tokensFrom, if_pos joined, tokensFrom, if_pos joined]
        exact inductionHypothesis
      · rw [List.cons_append, tokensFrom_of_not joined, tokensFrom_of_not joined,
          inductionHypothesis]
        simp

theorem tokens_append (apart : ∀ segment ∈ dropped, ∀ run, ¬ goesOn run segment) :
    tokens (kept ++ dropped) = tokens kept ++ dropped.flatMap ownTokens := by
  induction dropped generalizing kept with
  | nil => simp
  | cons segment rest inductionHypothesis =>
      have isApart := apart segment List.mem_cons_self
      have later := fun other member => apart other (List.mem_cons_of_mem segment member)
      have here := @inductionHypothesis (kept ++ [segment]) later
      have parts : tokens (kept ++ [segment]) = tokens kept ++ ownTokens segment := by
        have single := @tokensFrom_append kept [] [] segment isApart
        simpa [tokens, tokensFrom, tokenOfRun] using single
      rw [List.append_assoc, parts] at here
      simpa using here

/-- Letters and digits make up one word or number. -/
theorem tokensFrom_codes (parts : ∀ char ∈ text, isWordPart char = true ∧ char ≠ '$') :
    tokensFrom run (text.map Segment.code) = tokenOfRun (run ++ text) := by
  induction text generalizing run with
  | nil => simp [tokensFrom]
  | cons first rest inductionHypothesis =>
      obtain ⟨isPart, notDollar⟩ := parts first List.mem_cons_self
      have joined : joins run first = true := by simp [joins, isPart, notDollar]
      rw [List.map_cons, tokensFrom, if_pos joined,
        inductionHypothesis fun char member => parts char (List.mem_cons_of_mem first member)]
      simp

theorem statements_append {first second : List Token} :
    statements (first ++ .symbol ';' :: second) = statements first ++ statements second := by
  unfold statements
  rw [List.splitOnP_append_cons _ _ (by decide), List.filter_append]

theorem statements_semicolons {tokens : List Token}
    (semicolons : ∀ token ∈ tokens, token = .symbol ';') : statements tokens = [] := by
  induction tokens with
  | nil => rfl
  | cons token rest inductionHypothesis =>
      obtain rfl := semicolons token List.mem_cons_self
      have parts := @statements_append [] rest
      rw [List.nil_append, inductionHypothesis fun other member =>
        semicolons other (List.mem_cons_of_mem _ member)] at parts
      exact parts

/-- Semicolons after the only statement end it. -/
theorem statements_ended {tokens rest : List Token} (free : .symbol ';' ∉ tokens)
    (semicolons : ∀ token ∈ rest, token = .symbol ';') {statement : List Token}
    (single : statements (tokens ++ rest) = [statement]) : tokens = statement := by
  have whole : statements (tokens ++ rest) = statements tokens := by
    cases rest with
    | nil => rw [List.append_nil]
    | cons token more =>
        obtain rfl := semicolons token List.mem_cons_self
        rw [statements_append, statements_semicolons fun other member =>
          semicolons other (List.mem_cons_of_mem _ member), List.append_nil]
  have isOne : tokens.splitOnP (· = .symbol ';') = [tokens] :=
    List.splitOnP_eq_singleton fun token member =>
      decide_eq_false fun same => free (same ▸ member)
  rw [whole, statements, isOne] at single
  by_cases none : tokens = []
  · simp [none] at single
  · simpa [none] using single

end Tokens

/-! ## The limit -/

section Limit

variable {tables : CharacterTables} {sql schema : String} {rowLimit : Int}
  {query : AnalyticalQuery} {segments : List Segment} {raw inspectable : List Char}

theorem applyRowLimit_ok {bounded : String}
    (within : ∀ digits ∈ (limitClausePattern tables).search inspectable, ∀ limit,
      parseDigits tables digits = .ok limit → (limit : Int) ≤ rowLimit)
    (applied : applyRowLimit tables raw inspectable rowLimit = .ok bounded) :
    bounded.toList =
      ((raw.rdropWhile isWhitespace).rdropWhile (· = ';')).rdropWhile isWhitespace ++
        (if (limitClausePattern tables).search inspectable = none then
          " LIMIT ".toList ++ (toString rowLimit).toList else []) := by
  unfold applyRowLimit at applied
  dsimp only at applied
  cases found : (limitClausePattern tables).search inspectable with
  | none =>
      rw [found] at applied
      obtain rfl := Except.ok.inj applied
      simp
  | some digits =>
      rw [found] at applied
      obtain ⟨limit, parsed, applied⟩ := bind_eq_ok.mp applied
      rw [if_pos (within digits found limit parsed)] at applied
      obtain rfl := Except.ok.inj applied
      simp

/-- The limit as it is put after the text. -/
def limitSegments (rowLimit : Int) : List Segment :=
  .code ' ' :: ("LIMIT".toList.map .code ++ .code ' ' :: (toString rowLimit).toList.map .code)

/-- A limit that admits a row is written in digits. -/
theorem digits_toString (bound : 1 ≤ rowLimit) :
    ∃ first rest, (toString rowLimit).toList = first :: rest ∧
      ∀ char ∈ first :: rest, char.isDigit = true := by
  obtain ⟨limit, rfl⟩ := Int.eq_ofNat_of_zero_le (Int.le_trans Int.one_nonneg bound)
  have written : (toString (limit : Int)).toList = Nat.toDigits 10 limit := Nat.toList_repr
  have some : Nat.toDigits 10 limit ≠ [] := Nat.toDigits_ne_nil
  obtain ⟨first, rest, digits⟩ := List.exists_cons_of_ne_nil some
  refine ⟨first, rest, written.trans digits, fun char member => ?_⟩
  rw [← digits] at member
  exact Nat.isDigit_of_mem_toDigits (by decide) (by decide) member

theorem digit_plain {char : Char} (digit : char.isDigit = true) :
    isWordPart char = true ∧ isWordStart char = false ∧ char ≠ '$' ∧ isQuote char = false ∧
      char ≠ '-' ∧ char ≠ '/' := by
  have ascii : char.toNat < 128 := ascii_of_plain (by simp [isPlainWordCharacter, digit])
  have each : ∀ code < 128, (Char.ofNat code).isDigit = true →
      isWordPart (Char.ofNat code) = true ∧ isWordStart (Char.ofNat code) = false ∧
        Char.ofNat code ≠ '$' ∧ isQuote (Char.ofNat code) = false ∧
        Char.ofNat code ≠ '-' ∧ Char.ofNat code ≠ '/' := by decide +kernel
  have found := each char.toNat ascii
  rw [Char.ofNat_toNat] at found
  exact found digit

theorem tokens_limit (kept : List Segment) (bound : 1 ≤ rowLimit) :
    tokens (kept ++ limitSegments rowLimit) =
      tokens kept ++ [.word "LIMIT".toList, .number (toString rowLimit).toList] := by
  obtain ⟨first, rest, written, digits⟩ := digits_toString bound
  have apart (run : List Char) : ¬ goesOn run (.code ' ') := by
    rintro ⟨char, same, joined⟩
    cases same
    cases joined
  have number : tokensFrom [] ((toString rowLimit).toList.map .code) =
      [.number (toString rowLimit).toList] := by
    rw [tokensFrom_codes fun char member => by
      have plain := digit_plain (digits char (written ▸ member))
      exact ⟨plain.1, plain.2.2.1⟩]
    rw [List.nil_append, written, tokenOfRun, if_neg]
    simp [(digit_plain (digits first List.mem_cons_self)).2.1]
  have word : tokensFrom [] ("LIMIT".toList.map .code) = [.word "LIMIT".toList] := by
    decide +kernel
  rw [tokens, limitSegments, tokensFrom_append apart, tokensFrom_append apart, word, number]
  rfl

theorem limitSegments_eq :
    limitSegments rowLimit = (" LIMIT ".toList ++ (toString rowLimit).toList).map .code := by
  rw [List.map_append]
  rfl

theorem allFit_limit (bound : 1 ≤ rowLimit) : AllFit (limitSegments rowLimit) := by
  obtain ⟨first, rest, written, digits⟩ := digits_toString bound
  rw [limitSegments_eq]
  apply allFit_codes
  intro char member
  rcases List.mem_append.mp member with letter | digit
  · have each : " LIMIT ".toList.all (fun other =>
        !isQuote other && other ≠ '-' && other ≠ '/') = true := by decide
    simpa [and_assoc] using List.all_eq_true.mp each char letter
  · exact (digit_plain (digits char (written ▸ digit))).2.2.2

theorem mem_blank {segment : Segment} (ordinary : IsOrdinary segment)
    (blank : isBlankCode segment = true) : ∃ char, segment = .code char ∧ isSpace char = true := by
  cases segment with
  | code char => exact ⟨char, rfl, ordinary.plain.2 blank⟩
  | quoted mark body => cases blank
  | lineComment body stop => cases blank
  | blockComment body => cases blank

/-- What is taken from the end of a text is read as nothing, or as the end of a statement. -/
theorem ended_eq (ordinary : ∀ segment ∈ segments, IsOrdinary segment) :
    ∃ dropped, segments = unended segments ++ dropped ∧
      ∀ segment ∈ dropped, (∀ run, ¬ goesOn run segment) ∧
        ∀ token ∈ ownTokens segment, token = .symbol ';' := by
  refine ⟨(segments.rdropWhile separates).rtakeWhile isBlankCode ++
    segments.rtakeWhile separates, ?_, fun segment member => ?_⟩
  · rw [unended, ← List.append_assoc, List.rdropWhile_append_rtakeWhile,
      List.rdropWhile_append_rtakeWhile]
  · rcases List.mem_append.mp member with blank | semicolon
    · have among := (List.rdropWhile_prefix separates segments).subset
        ((List.rtakeWhile_suffix isBlankCode _).subset blank)
      obtain ⟨char, rfl, space⟩ :=
        mem_blank (ordinary segment among) (List.mem_rtakeWhile_imp blank)
      constructor
      · intro run joined
        exact ownTokens_ne_nil joined (if_pos space)
      · intro token own
        rw [ownTokens, if_pos space] at own
        cases own
    · have isSeparator : separates segment = true := List.mem_rtakeWhile_imp semicolon
      obtain rfl := of_decide_eq_true isSeparator
      constructor
      · rintro run ⟨char, same, joined⟩
        cases same
        cases joined
      · exact fun token own => List.mem_singleton.mp own

end Limit

/-! ## A query with a semicolon at its end -/

def endedQuery : String := "SELECT id FROM acme.t /* all */ ;"

def endedSegments : List Segment :=
  "SELECT id FROM acme.t ".toList.map .code ++ .blockComment " all ".toList ::
    " ;".toList.map .code

theorem scan_endedQuery : scan (trim endedQuery.toList) = some endedSegments := by
  decide +kernel

theorem parseAnalyticalQuery_endedQuery :
    parseAnalyticalQuery asciiTables endedQuery "acme" = .ok
      { sql := "SELECT id FROM acme.t /* all */ LIMIT 1000", schema := "acme",
        rowLimit := 1000 } := by
  decide +kernel

/-- The query has no limit of its own. -/
theorem search_endedQuery : (limitClausePattern asciiTables).search
    (stripCommentsAndLiterals (trim endedQuery.toList)) = none := by
  decide +kernel

theorem endsInStatement_endedQuery : EndsInStatement endedSegments where
  single := by decide +kernel
  uncommented := by
    intro body stop isLast
    have last : (unended endedSegments).getLast? = some (.blockComment " all ".toList) := by
      decide +kernel
    rw [last] at isLast
    cases isLast

end ResearchPlatform
