import ResearchPlatform.Properties.SqlInspection

/-!
# What the SQL screen accepts

A plain text that the screen accepts is a single query without a forbidden word, as
PostgreSQL reads it.
-/

namespace ResearchPlatform

open Foundation Foundation.SqlText

/-! ## Statements -/

section Statements

variable {left right text : List Char} {segments : List Segment}

theorem splitStatements_append :
    splitStatements (left ++ ';' :: right) = splitStatements left ++ splitStatements right := by
  unfold splitStatements
  rw [List.splitOnP_append_cons _ _ (by decide), List.map_append, List.filter_append]

/-- Something that is neither blank nor a semicolon is in a statement. -/
theorem splitStatements_ne_nil {char : Char} (member : char ∈ text)
    (solid : isWhitespace char = false) (apart : char ≠ ';') : splitStatements text ≠ [] := by
  have within : decide (char = ';') = false := by simpa using apart
  obtain ⟨piece, among, inside⟩ : ∃ piece ∈ text.splitOnP (· = ';'), char ∈ piece :=
    mem_splitOnP member within
  have kept := mem_trim_of_mem solid inside
  have isStatement : trim piece ∈ splitStatements text := by
    apply List.mem_filter.mpr ⟨List.mem_map_of_mem among, _⟩
    simpa using List.ne_nil_of_mem kept
  exact List.ne_nil_of_mem isStatement

/-- The segment separates statements. -/
def separates (segment : Segment) : Bool := segment = .code ';'

/-- The semicolons that the screen sees are those of the code. -/
theorem splitOnP_inspected
    (others : ∀ segment ∈ segments, separates segment = false → ';' ∉ inspected segment) :
    (segments.flatMap inspected).splitOnP (· = ';') =
      (segments.splitOnP separates).map (·.flatMap inspected) := by
  induction segments with
  | nil => rfl
  | cons segment rest inductionHypothesis =>
      have later := inductionHypothesis fun other member =>
        others other (List.mem_cons_of_mem segment member)
      rw [List.flatMap_cons, List.splitOnP_cons_eq_if_modifyHead]
      by_cases isSeparator : separates segment = true
      · obtain rfl := of_decide_eq_true isSeparator
        rw [if_pos isSeparator, List.map_cons, ← later]
        exact List.splitOnP_append_cons [] _ (by decide)
      · obtain ⟨head, tail, pieces, -⟩ := exists_splitOnP separates rest
        rw [pieces] at later ⊢
        have free : ∀ char ∈ inspected segment, decide (char = ';') = false := by
          intro char member
          have absent := others segment List.mem_cons_self (Bool.eq_false_iff.mpr isSeparator)
          exact decide_eq_false fun same => absent (same ▸ member)
        rw [if_neg isSeparator, splitOnP_append free later]
        rfl

theorem tokenOfRun_free {run : List Char} {token : Token} (member : token ∈ tokenOfRun run) :
    decide (token = .symbol ';') = false := by
  apply decide_eq_false
  rintro rfl
  unfold tokenOfRun at member
  split at member
  · cases member
  · split at member
    · cases List.mem_singleton.mp member
    · cases List.mem_singleton.mp member

/-- The segment goes on the word or number that is being read. -/
def goesOn (run : List Char) (segment : Segment) : Prop :=
  ∃ char, segment = .code char ∧ joins run char = true

/-- What is read in a segment that does not go on. -/
def ownTokens : Segment → List Token
  | .code char => if isSpace char then [] else [.symbol char]
  | .quoted mark body => [.quoted mark body]
  | .lineComment _ _ => []
  | .blockComment _ => []

theorem mem_ownTokens {segment : Segment} {token : Token} (own : token ∈ ownTokens segment) :
    (∃ char, segment = .code char ∧ token = .symbol char) ∨
      ∃ mark body, token = .quoted mark body := by
  cases segment with
  | code char =>
      by_cases space : isSpace char = true
      · simp [ownTokens, space] at own
      · exact Or.inl ⟨char, rfl, by simpa [ownTokens, space] using own⟩
  | quoted mark body => exact Or.inr ⟨mark, body, List.mem_singleton.mp own⟩
  | lineComment body stop => cases own
  | blockComment body => cases own

theorem tokensFrom_of_not {run : List Char} {segment : Segment} (apart : ¬ goesOn run segment)
    (rest : List Segment) :
    tokensFrom run (segment :: rest) =
      tokenOfRun run ++ (ownTokens segment ++ tokensFrom [] rest) := by
  cases segment with
  | code char =>
      have joined : ¬ joins run char = true := fun joined => apart ⟨char, rfl, joined⟩
      rw [tokensFrom, if_neg joined, ownTokens]
      split
      · rfl
      · rfl
  | quoted mark body => rfl
  | lineComment body stop => rfl
  | blockComment body => rfl

/-- What a segment adds to the tokens does not depend on what follows it. -/
theorem tokensFrom_cons (run : List Char) {segment : Segment}
    (isOther : separates segment = false) :
    ∃ added next, (∀ token ∈ added, decide (token = Token.symbol ';') = false) ∧
      ∀ rest, tokensFrom run (segment :: rest) = added ++ tokensFrom next rest := by
  by_cases joined : goesOn run segment
  · obtain ⟨char, rfl, joined⟩ := joined
    refine ⟨[], run ++ [char], by simp, fun rest => ?_⟩
    rw [tokensFrom, if_pos joined]
    rfl
  · refine ⟨tokenOfRun run ++ ownTokens segment, [], fun token member => ?_, fun rest => ?_⟩
    · rcases List.mem_append.mp member with ofRun | own
      · exact tokenOfRun_free ofRun
      · apply decide_eq_false
        rintro rfl
        rcases mem_ownTokens own with ⟨char, rfl, same⟩ | ⟨mark, body, same⟩
        · cases same
          cases isOther
        · cases same
    · rw [tokensFrom_of_not joined, List.append_assoc]

/-- The statements of PostgreSQL are between the semicolons of the code. -/
theorem splitOnP_tokensFrom {run : List Char} {head : List Segment} {tail : List (List Segment)}
    (pieces : segments.splitOnP separates = head :: tail) :
    (tokensFrom run segments).splitOnP (· = .symbol ';') =
      tokensFrom run head :: tail.map tokens := by
  induction segments generalizing run head tail with
  | nil =>
      obtain ⟨rfl, rfl⟩ := List.cons.inj pieces
      exact List.splitOnP_eq_singleton fun _ => tokenOfRun_free
  | cons segment rest inductionHypothesis =>
      obtain ⟨first, others, parts, -⟩ := exists_splitOnP separates rest
      rw [List.splitOnP_cons_eq_if_modifyHead, parts] at pieces
      by_cases isSeparator : separates segment = true
      · rw [if_pos isSeparator] at pieces
        obtain ⟨rfl, rfl⟩ := List.cons.inj pieces
        obtain rfl := of_decide_eq_true isSeparator
        have reads : tokensFrom run (.code ';' :: rest) =
            tokenOfRun run ++ .symbol ';' :: tokensFrom [] rest := rfl
        have isSymbol : decide (Token.symbol ';' = .symbol ';') = true := decide_eq_true rfl
        rw [reads, List.splitOnP_append_cons_of_forall_mem (fun _ => tokenOfRun_free) _ isSymbol,
          inductionHypothesis parts]
        rfl
      · rw [if_neg isSeparator] at pieces
        obtain ⟨rfl, rfl⟩ := List.cons.inj pieces
        obtain ⟨added, next, free, reads⟩ :=
          tokensFrom_cons run (Bool.eq_false_iff.mpr isSeparator)
        rw [reads, reads, splitOnP_append free (inductionHypothesis parts)]

theorem isSpace_cases {char : Char} (space : isSpace char = true) :
    isWordPart char = false ∧ isWhitespace char = true := by
  have kinds : char ∈ [' ', '\t', '\n', '\r', '\u000b', '\u000c'] := of_decide_eq_true space
  have each : [' ', '\t', '\n', '\r', '\u000b', '\u000c'].all (fun other =>
      !isWordPart other && isWhitespace other) = true := by decide
  simpa using List.all_eq_true.mp each char kinds

theorem tokenOfRun_eq_nil {run : List Char} : tokenOfRun run = [] ↔ run = [] := by
  cases run with
  | nil => simp [tokenOfRun]
  | cons first rest =>
      unfold tokenOfRun
      by_cases begins : isWordStart first = true <;> simp [begins]

theorem ownTokens_ne_nil {run : List Char} {segment : Segment} (joined : goesOn run segment) :
    ownTokens segment ≠ [] := by
  obtain ⟨char, rfl, joined⟩ := joined
  have solid : ¬ isSpace char = true := by
    intro space
    rw [joins, (isSpace_cases space).1] at joined
    cases joined
  rw [ownTokens, if_neg solid]
  exact List.cons_ne_nil _ _

theorem tokensFrom_eq_nil {run : List Char} :
    tokensFrom run segments = [] ↔ run = [] ∧ ∀ segment ∈ segments, ownTokens segment = [] := by
  induction segments generalizing run with
  | nil => simp [tokensFrom, tokenOfRun_eq_nil]
  | cons segment rest inductionHypothesis =>
      by_cases joined : goesOn run segment
      · have some := ownTokens_ne_nil joined
        obtain ⟨char, rfl, joined⟩ := joined
        rw [tokensFrom, if_pos joined, inductionHypothesis]
        simp [some]
      · rw [tokensFrom_of_not joined]
        simp [tokenOfRun_eq_nil, inductionHypothesis]

/-- The segment does not mislead the screen, and is one that PostgreSQL reads. -/
structure IsOrdinary (segment : Segment) : Prop where
  plain : IsPlainSegment segment
  marked : ∀ mark body, segment = .quoted mark body → isQuote mark = true

/-- The screen sees something just where PostgreSQL reads something. -/
theorem blank_inspected {segment : Segment} (ordinary : IsOrdinary segment) :
    (∀ char ∈ inspected segment, isWhitespace char = true) ↔ ownTokens segment = [] := by
  cases segment with
  | code char =>
      constructor
      · intro blank
        exact if_pos (ordinary.plain.2 (blank char List.mem_cons_self))
      · intro none other member
        rw [List.mem_singleton.mp member]
        by_cases space : isSpace char = true
        · exact (isSpace_cases space).2
        · rw [ownTokens, if_neg space] at none
          cases none
  | quoted mark body =>
      have among : mark ∈ inspected (.quoted mark body) := by
        rcases mark_cases (ordinary.marked mark body rfl) with rfl | rfl
        · exact List.mem_cons_self
        · exact List.mem_cons_self
      constructor
      · intro blank
        have space := blank mark among
        rcases mark_cases (ordinary.marked mark body rfl) with rfl | rfl
        · cases space
        · cases space
      · intro none
        cases none
  | lineComment body stop =>
      refine ⟨fun _ => rfl, fun _ char member => ?_⟩
      rcases @mem_withoutLine body stop _ member with rfl | rfl
      · rfl
      · rfl
  | blockComment body => exact ⟨fun _ => rfl, fun _ => List.forall_mem_singleton.mpr rfl⟩

/-- A single statement of the screen is a single statement of PostgreSQL. -/
theorem statements_of_splitStatements {statement : List Char}
    (ordinary : ∀ segment ∈ segments, IsOrdinary segment)
    (others : ∀ segment ∈ segments, separates segment = false → ';' ∉ inspected segment)
    (single : splitStatements (segments.flatMap inspected) = [statement]) :
    ∃ part, (∀ segment ∈ part, IsOrdinary segment) ∧
      trim (part.flatMap inspected) = statement ∧
      statements (tokens segments) = [tokens part] := by
  obtain ⟨head, tail, pieces, -, each⟩ := exists_splitOnP separates segments
  have read : (tokens segments).splitOnP (· = .symbol ';') = (head :: tail).map tokens :=
    splitOnP_tokensFrom pieces
  unfold splitStatements at single
  rw [splitOnP_inspected others, pieces, List.map_map, List.filter_map] at single
  have alike : ∀ part ∈ head :: tail,
      ((fun part => decide (part ≠ [])) ∘ trim ∘ (·.flatMap inspected)) part =
        ((fun part => decide (part ≠ [])) ∘ tokens) part := by
    intro part among
    have isEmpty : trim (part.flatMap inspected) = [] ↔ tokens part = [] := by
      have within := (each part among).1.subset
      rw [trim_eq_nil, tokens, tokensFrom_eq_nil, List.forall_mem_flatMap]
      constructor
      · exact fun blank => ⟨rfl, fun segment member =>
          (blank_inspected (ordinary segment (within member))).mp (blank segment member)⟩
      · exact fun blank segment member =>
          (blank_inspected (ordinary segment (within member))).mpr (blank.2 segment member)
    simp [isEmpty]
  rw [List.filter_congr alike] at single
  obtain ⟨part, kept, same⟩ := List.map_eq_singleton_iff.mp single
  refine ⟨part, ?_, same, ?_⟩
  · have among : part ∈ head :: tail := List.mem_of_mem_filter (kept ▸ List.mem_cons_self)
    exact fun segment member => ordinary segment ((each part among).1.subset member)
  · rw [statements, read, List.filter_map, kept]
    rfl

end Statements

/-! ## Words -/

section Words

variable {word run left right text : List Char} {segments : List Segment}

theorem border_of_getLast? {chars : List Char} {last : Char} (isLast : chars.getLast? = some last)
    (outside : isWordPart last = false) : ∀ char ∈ chars.getLast?, isWordPart char = false := by
  intro char member
  rw [isLast] at member
  obtain rfl : last = char := Option.some.inj member
  exact outside

/-- A segment that no word goes on into is seen between characters of no word. -/
theorem inspected_border {segment : Segment} (ordinary : IsOrdinary segment)
    (apart : ¬ goesOn run segment) :
    ∃ first rest, inspected segment = first :: rest ∧ isWordPart first = false ∧
      ∀ char ∈ (first :: rest).getLast?, isWordPart char = false := by
  cases segment with
  | code char =>
      have outside : isWordPart char = false := by
        by_contra part
        have joined : joins run char = true := by
          simp [joins, eq_true_of_ne_false part, ordinary.plain.1]
        exact apart ⟨char, rfl, joined⟩
      exact ⟨char, [], rfl, outside, border_of_getLast? rfl outside⟩
  | quoted mark body =>
      rcases mark_cases (ordinary.marked mark body rfl) with rfl | rfl
      · exact ⟨'\'', ['\''], rfl, rfl, border_of_getLast? rfl rfl⟩
      · have isLast : ('"' :: (body ++ ['"'])).getLast? = some '"' := by
          rw [← List.cons_append, List.getLast?_concat]
        exact ⟨'"', body ++ ['"'], rfl, rfl, border_of_getLast? isLast rfl⟩
  | lineComment body stop =>
      rcases @withoutLine_lineComment body stop with kept | kept
      · exact ⟨' ', [], kept, rfl, border_of_getLast? rfl rfl⟩
      · exact ⟨' ', ['\n'], kept, rfl, border_of_getLast? rfl rfl⟩
  | blockComment body => exact ⟨' ', [], rfl, rfl, border_of_getLast? rfl rfl⟩

theorem word_not_mem_ownTokens {segment : Segment} : Token.word word ∉ ownTokens segment := by
  intro own
  rcases mem_ownTokens own with ⟨char, -, same⟩ | ⟨mark, body, same⟩
  · cases same
  · cases same

theorem mem_tokenOfRun (member : Token.word word ∈ tokenOfRun run) : word = run := by
  unfold tokenOfRun at member
  split at member
  · cases member
  · split at member
    · exact Token.word.inj (List.mem_singleton.mp member)
    · cases List.mem_singleton.mp member

/-- The words of PostgreSQL stand in the text between characters of no word. -/
theorem word_inside (ordinary : ∀ segment ∈ segments, IsOrdinary segment)
    (member : Token.word word ∈ tokensFrom run segments) :
    ∃ left right, run ++ segments.flatMap inspected = left ++ (word ++ right) ∧
      (∀ char ∈ left.getLast?, isWordPart char = false) ∧
      ∀ char ∈ right.head?, isWordPart char = false := by
  induction segments generalizing run with
  | nil =>
      obtain rfl := mem_tokenOfRun member
      exact ⟨[], [], by simp, by simp, by simp⟩
  | cons segment rest inductionHypothesis =>
      have others := fun other among => ordinary other (List.mem_cons_of_mem segment among)
      by_cases joined : goesOn run segment
      · obtain ⟨char, rfl, joined⟩ := joined
        rw [tokensFrom, if_pos joined] at member
        have later := inductionHypothesis others member
        rwa [List.append_assoc] at later
      · obtain ⟨first, more, seen, begins, ends⟩ :=
          inspected_border (ordinary segment List.mem_cons_self) joined
        rw [tokensFrom_of_not joined] at member
        rw [List.flatMap_cons, seen]
        rcases List.mem_append.mp member with ofRun | further
        · obtain rfl := mem_tokenOfRun ofRun
          refine ⟨[], first :: more ++ rest.flatMap inspected, rfl, by simp,
            fun char isFirst => ?_⟩
          obtain rfl : first = char := Option.some.inj isFirst
          exact begins
        · rcases List.mem_append.mp further with own | later
          · exact absurd own word_not_mem_ownTokens
          · obtain ⟨left, right, whole, before, after⟩ := inductionHypothesis others later
            rw [List.nil_append] at whole
            refine ⟨run ++ (first :: more) ++ left, right, by simp [whole], fun char isLast => ?_,
              after⟩
            cases isEmpty : left.getLast? with
            | none =>
                obtain rfl := List.getLast?_eq_none_iff.mp isEmpty
                rw [List.append_nil, List.getLast?_append_cons] at isLast
                exact ends char isLast
            | some last =>
                rw [List.getLast?_append, isEmpty] at isLast
                obtain rfl : last = char := Option.some.inj isLast
                exact before last isEmpty

/-! ### In small letters -/

theorem lowerText_append : lowerText (left ++ right) = lowerText left ++ lowerText right :=
  List.flatMap_append

/-- A character of no word stays as it is, and is in no word of the screen. -/
theorem lowerChar_border {char : Char} (outside : isWordPart char = false) :
    lowerChar char = [char] ∧ isPlainWordCharacter char = false := by
  by_cases ascii : char.toNat < 128
  · have each : ∀ code < 128, isWordPart (Char.ofNat code) = false →
        lowerChar (Char.ofNat code) = [Char.ofNat code] ∧
          isPlainWordCharacter (Char.ofNat code) = false := by decide +kernel
    have found := each char.toNat ascii
    rw [Char.ofNat_toNat] at found
    exact found outside
  · have inside : isWordPart char = true := by
      simp [isWordPart, isWordStart, Nat.le_of_not_lt ascii]
    rw [inside] at outside
    cases outside

theorem ascii_of_plain {char : Char} (plain : isPlainWordCharacter char = true) :
    char.toNat < 128 := by
  rcases (Bool.or_eq_true _ _).mp plain with name | under
  · rcases (Bool.or_eq_true _ _).mp name with lower | digit
    · have most := of_decide_eq_true ((Bool.and_eq_true _ _).mp lower).2
      exact Nat.lt_of_le_of_lt (UInt32.le_iff_toNat_le.mp most) (by decide)
    · have most := of_decide_eq_true ((Bool.and_eq_true _ _).mp digit).2
      exact Nat.lt_of_le_of_lt (UInt32.le_iff_toNat_le.mp most) (by decide)
  · obtain rfl := of_decide_eq_true under
    decide

/-- A character that is in a word of the screen in small letters is in it itself. -/
theorem lowerChar_plain {char : Char} (plain : isPlainWordCharacter char.toLower = true) :
    lowerChar char = [char.toLower] ∧ isWhitespace char = false := by
  by_cases ascii : char.toNat < 128
  · have each : ∀ code < 128, isPlainWordCharacter (Char.ofNat code).toLower = true →
        lowerChar (Char.ofNat code) = [(Char.ofNat code).toLower] ∧
          isWhitespace (Char.ofNat code) = false := by decide +kernel
    have found := each char.toNat ascii
    rw [Char.ofNat_toNat] at found
    exact found plain
  · have notUpper : ¬ (char.val ≥ 'A'.val ∧ char.val ≤ 'Z'.val) := by
      intro upper
      have small : char.toNat ≤ 90 := UInt32.le_iff_toNat_le.mp upper.2
      omega
    have unchanged : char.toLower = char := by
      delta Char.toLower
      exact dif_neg notUpper
    rw [unchanged] at plain
    exact absurd (ascii_of_plain plain) ascii

theorem lowerText_ends (ends : ∀ char ∈ left.getLast?, isWordPart char = false) :
    ∀ char ∈ (lowerText left).getLast?, isPlainWordCharacter char = false := by
  rcases List.eq_nil_or_concat left with rfl | ⟨front, last, rfl⟩
  · simp [lowerText]
  · have outside := lowerChar_border (ends last (by simp))
    intro char isLast
    have single : lowerText [last] = [last] := by simp [lowerText, outside.1]
    rw [List.concat_eq_append, lowerText_append, single, List.getLast?_concat] at isLast
    obtain rfl : last = char := Option.some.inj isLast
    exact outside.2

theorem lowerText_begins (begins : ∀ char ∈ right.head?, isWordPart char = false) :
    ∀ char ∈ (lowerText right).head?, isPlainWordCharacter char = false := by
  cases right with
  | nil => simp [lowerText]
  | cons first rest =>
      have outside := lowerChar_border (begins first rfl)
      intro char isFirst
      rw [lowerText, List.flatMap_cons, outside.1] at isFirst
      obtain rfl : first = char := Option.some.inj isFirst
      exact outside.2

/-- The screen finds a word of PostgreSQL that it could look for. -/
theorem word_found {first : Char} {rest : List Char}
    (ordinary : ∀ segment ∈ segments, IsOrdinary segment)
    (member : Token.word word ∈ tokens segments) (same : fold word = first :: rest)
    (isStart : isPlainWordStart first = true)
    (plain : ∀ char ∈ rest, isPlainWordCharacter char = true) :
    fold word ∈ wordPattern.findall (lowerText (trim (segments.flatMap inspected))) := by
  have startsGoOn (char : Char) (starts : isPlainWordStart char = true) :
      isPlainWordCharacter char = true := by
    rcases (Bool.or_eq_true _ _).mp starts with lower | under
    · simp [isPlainWordCharacter, lower]
    · simp [isPlainWordCharacter, under]
  have each : ∀ char ∈ word, isPlainWordCharacter char.toLower = true := by
    intro char among
    have lowered : char.toLower ∈ first :: rest := same ▸ List.mem_map_of_mem among
    rcases List.mem_cons.mp lowered with isFirst | later
    · rw [isFirst]
      exact startsGoOn first isStart
    · exact plain _ later
  have some : word ≠ [] := by
    rintro rfl
    cases same
  have trimmed : Trimmed word :=
    { begins := fun char isFirst =>
        (lowerChar_plain (each char (List.mem_of_mem_head? isFirst))).2
      ends := fun char isLast =>
        (lowerChar_plain (each char (List.mem_of_mem_getLast? isLast))).2 }
  have lowered : lowerText word = fold word := by
    unfold lowerText fold
    rw [List.map_eq_flatMap]
    exact List.flatMap_congr fun char among => (lowerChar_plain (each char among)).1
  obtain ⟨left, right, whole, endsBefore, endsAfter⟩ := word_inside ordinary member
  obtain ⟨before, after, read, ⟨left', rfl⟩, ⟨right', rfl⟩⟩ :=
    @trim_append_solid left word right some trimmed
  rw [List.nil_append] at whole
  rw [whole, read, lowerText_append, lowerText_append, lowered, same, Regex.findall_eq]
  apply Regex.mem_captures_word startsGoOn isStart plain
  · apply lowerText_ends
    intro char isLast
    apply endsBefore char
    rw [List.getLast?_append, isLast]
    rfl
  · apply lowerText_begins
    intro char isFirst
    apply endsAfter char
    rw [List.head?_append, isFirst]
    rfl

/-! ### The first word -/

/-- Small letters that no character beyond ASCII has in its lower case. -/
def IsAsciiOnly : List Char → Prop
  | [] => True
  | letter :: more =>
      (letter.isLower = true ∧ letter ≠ 'k' ∧
        (letter = 'i' → more.head?.any Char.isLower = true)) ∧ IsAsciiOnly more

theorem lowerChar_ascii {char : Char} (ascii : char.toNat < 128) :
    lowerChar char = [char.toLower] ∧ (char.toLower.isLower = true → isWordStart char = true) := by
  have each : ∀ code < 128, lowerChar (Char.ofNat code) = [(Char.ofNat code).toLower] ∧
      ((Char.ofNat code).toLower.isLower = true → isWordStart (Char.ofNat code) = true) := by
    decide +kernel
  have found := each char.toNat ascii
  rwa [Char.ofNat_toNat] at found

/-- A small letter that is read comes from a letter. -/
theorem lowerChar_letter {char letter : Char} {more : List Char}
    (asciiOnly : IsAsciiOnly (letter :: more))
    (begins : letter :: more <+: lowerChar char ++ text) :
    char.toLower = letter ∧ isWordStart char = true ∧ more <+: text := by
  obtain ⟨⟨isLower, notKelvin, notDotted⟩, -⟩ := asciiOnly
  by_cases ascii : char.toNat < 128
  · obtain ⟨lowered, isStart⟩ := lowerChar_ascii ascii
    rw [lowered] at begins
    obtain ⟨rfl, further⟩ := List.cons_prefix_cons.mp begins
    exact ⟨rfl, isStart isLower, further⟩
  · have notUpper : ¬ ('A' ≤ char ∧ char ≤ 'Z') := by
      intro upper
      have small : char.toNat ≤ 90 := UInt32.le_iff_toNat_le.mp upper.2
      omega
    rw [lowerChar, if_neg notUpper] at begins
    split at begins
    · exact absurd (List.cons_prefix_cons.mp begins).1 notKelvin
    · split at begins
      · obtain ⟨rfl, further⟩ := List.cons_prefix_cons.mp begins
        cases more with
        | nil => cases notDotted rfl
        | cons next later =>
            have isLetter : next.isLower = true := notDotted rfl
            rw [(List.cons_prefix_cons.mp further).1] at isLetter
            cases isLetter
      · obtain ⟨rfl, -⟩ := List.cons_prefix_cons.mp begins
        have plain : isPlainWordCharacter letter = true := by simp [isPlainWordCharacter, isLower]
        exact absurd (ascii_of_plain plain) ascii

theorem not_letter_of_border {letter first : Char} {more rest : List Char}
    (asciiOnly : IsAsciiOnly (letter :: more)) (outside : isWordPart first = false)
    (begins : letter :: more <+: lowerText (first :: rest)) : False := by
  obtain ⟨lowered, notPlain⟩ := lowerChar_border outside
  rw [lowerText, List.flatMap_cons, lowered] at begins
  obtain ⟨rfl, -⟩ := List.cons_prefix_cons.mp begins
  simp [isPlainWordCharacter, asciiOnly.1.1] at notPlain

/-- A word goes on with the letters that the screen reads next. -/
theorem word_goes_on {letters : List Char} {first : Char} {others : List Char}
    (ordinary : ∀ segment ∈ segments, IsOrdinary segment) (asciiOnly : IsAsciiOnly letters)
    (begins : letters <+: lowerText (segments.flatMap inspected))
    (isStart : isWordStart first = true) :
    ∃ added rest, tokensFrom (first :: others) segments =
      .word (first :: others ++ added) :: rest ∧ letters <+: fold added := by
  induction segments generalizing letters others with
  | nil =>
      obtain rfl := List.prefix_nil.mp begins
      exact ⟨[], [], by simp [tokensFrom, tokenOfRun, isStart], List.nil_prefix⟩
  | cons segment rest inductionHypothesis =>
      have later := fun other among => ordinary other (List.mem_cons_of_mem segment among)
      by_cases joined : goesOn (first :: others) segment
      · obtain ⟨char, rfl, joined⟩ := joined
        rw [tokensFrom, if_pos joined]
        cases letters with
        | nil =>
            obtain ⟨added, tokens, reads, -⟩ :=
              @inductionHypothesis [] (others ++ [char]) later trivial List.nil_prefix
            exact ⟨char :: added, tokens, by simpa using reads, List.nil_prefix⟩
        | cons letter letters =>
            obtain ⟨lowered, -, further⟩ := lowerChar_letter asciiOnly begins
            obtain ⟨added, tokens, reads, follows⟩ :=
              @inductionHypothesis letters (others ++ [char]) later asciiOnly.2 further
            refine ⟨char :: added, tokens, by simpa using reads, ?_⟩
            rw [fold, List.map_cons, lowered]
            exact List.cons_prefix_cons.mpr ⟨rfl, follows⟩
      · rw [tokensFrom_of_not joined]
        have word : tokenOfRun (first :: others) = [.word (first :: others)] := if_pos isStart
        refine ⟨[], ownTokens segment ++ tokensFrom [] rest, by simp [word], ?_⟩
        cases letters with
        | nil => exact List.nil_prefix
        | cons letter letters =>
            obtain ⟨border, more, seen, outside, -⟩ :=
              inspected_border (ordinary segment List.mem_cons_self) joined
            rw [List.flatMap_cons, seen] at begins
            exact absurd begins (not_letter_of_border asciiOnly outside)

/-- Where PostgreSQL reads something in a segment, it begins with it. -/
theorem solid_first {segment : Segment} (ordinary : IsOrdinary segment)
    (some : ownTokens segment ≠ []) :
    ∃ first rest, inspected segment = first :: rest ∧ isWhitespace first = false := by
  cases segment with
  | code char =>
      refine ⟨char, [], rfl, ?_⟩
      by_contra blank
      exact some (if_pos (ordinary.plain.2 (eq_true_of_ne_false blank)))
  | quoted mark body =>
      rcases mark_cases (ordinary.marked mark body rfl) with rfl | rfl
      · exact ⟨'\'', ['\''], rfl, by decide⟩
      · exact ⟨'"', body ++ ['"'], rfl, by decide⟩
  | lineComment body stop => exact absurd rfl some
  | blockComment body => exact absurd rfl some

/-- What PostgreSQL reads first is the word that the screen sees first. -/
theorem first_word {letter : Char} {letters : List Char}
    (ordinary : ∀ segment ∈ segments, IsOrdinary segment)
    (asciiOnly : IsAsciiOnly (letter :: letters))
    (begins : letter :: letters <+:
      lowerText ((segments.flatMap inspected).dropWhile isWhitespace)) :
    ∃ word rest, tokens segments = .word word :: rest ∧ letter :: letters <+: fold word := by
  induction segments with
  | nil => exact absurd (List.prefix_nil.mp begins) (List.cons_ne_nil _ _)
  | cons segment rest inductionHypothesis =>
      have isFirst := ordinary segment List.mem_cons_self
      have later := fun other among => ordinary other (List.mem_cons_of_mem segment among)
      rw [List.flatMap_cons] at begins
      by_cases none : ownTokens segment = []
      · have apart : ¬ goesOn [] segment := fun joined => ownTokens_ne_nil joined none
        rw [List.dropWhile_append_of_pos ((blank_inspected isFirst).mpr none)] at begins
        obtain ⟨word, others, reads, starts⟩ := inductionHypothesis later begins
        refine ⟨word, others, ?_, starts⟩
        rw [tokens, tokensFrom_of_not apart, none]
        exact reads
      · obtain ⟨first, more, seen, solid⟩ := solid_first isFirst none
        rw [seen, List.cons_append, List.dropWhile_cons_of_neg (by simp [solid])] at begins
        by_cases joined : goesOn [] segment
        · obtain ⟨char, rfl, joined⟩ := joined
          obtain ⟨rfl, rfl⟩ := List.cons.inj seen
          obtain ⟨lowered, isStart, further⟩ := lowerChar_letter asciiOnly begins
          obtain ⟨added, others, reads, follows⟩ :=
            @word_goes_on rest letters char [] later asciiOnly.2 further isStart
          refine ⟨char :: added, others, ?_, ?_⟩
          · rw [tokens, tokensFrom, if_pos joined]
            exact reads
          · rw [fold, List.map_cons, lowered]
            exact List.cons_prefix_cons.mpr ⟨rfl, follows⟩
        · obtain ⟨border, others, same, outside, -⟩ := inspected_border isFirst joined
          obtain ⟨rfl, -⟩ := List.cons.inj (seen.symm.trans same)
          exact absurd begins (not_letter_of_border asciiOnly outside)

end Words

/-! ## The screen -/

section Screen

variable {tables : CharacterTables} {sql schema : String} {rowLimit : Int}
  {query : AnalyticalQuery} {statement : List Char} {segments : List Segment}

theorem refuseIf_ok {problem : Bool} {message : String}
    (passed : refuseIf problem message = .ok ()) : problem = false := by
  cases problem with
  | false => rfl
  | true => cases passed

theorem refuseAny_ok {problem : String} {found : List String}
    (passed : refuseAny problem found = .ok ()) : found = [] := by
  simpa using refuseIf_ok passed

theorem checkStatement_ok (passed : checkStatement tables statement schema = .ok ()) :
    (∃ start ∈ readOnlyPrefixes, start.toList <+: lowerText statement) ∧
      ∀ word ∈ wordPattern.findall (lowerText statement),
        String.ofList word ∉ forbiddenKeywords ++ forbiddenFunctions := by
  obtain ⟨_, starts, passed⟩ := bind_eq_ok.mp passed
  obtain ⟨_, keywords, passed⟩ := bind_eq_ok.mp passed
  obtain ⟨_, functions, -⟩ := bind_eq_ok.mp passed
  constructor
  · have begins : (readOnlyPrefixes.any fun start =>
        start.toList.isPrefixOf (lowerText statement)) = true := by
      simpa using refuseIf_ok starts
    obtain ⟨start, among, isPrefix⟩ := List.any_eq_true.mp begins
    exact ⟨start, among, List.isPrefixOf_iff_prefix.mp isPrefix⟩
  · intro word found forbidden
    have listed : String.ofList word ∈
        (wordPattern.findall (lowerText statement)).map String.ofList := List.mem_map_of_mem found
    rcases List.mem_append.mp forbidden with keyword | function
    · exact List.filter_eq_nil_iff.mp (refuseAny_ok keywords) _ keyword (decide_eq_true listed)
    · exact List.filter_eq_nil_iff.mp (refuseAny_ok functions) _ function (decide_eq_true listed)

theorem parseAnalyticalQuery_ok
    (accepted : parseAnalyticalQuery tables sql schema rowLimit = .ok query) :
    1 ≤ rowLimit ∧ ∃ statement,
      splitStatements (stripCommentsAndLiterals (trim sql.toList)) = [statement] ∧
      checkStatement tables statement schema = .ok () ∧
      applyRowLimit tables (trim sql.toList) (stripCommentsAndLiterals (trim sql.toList))
        rowLimit = .ok query.sql := by
  obtain ⟨_, -, accepted⟩ := bind_eq_ok.mp accepted
  obtain ⟨_, admits, accepted⟩ := bind_eq_ok.mp accepted
  obtain ⟨_, -, accepted⟩ := bind_eq_ok.mp accepted
  obtain ⟨_, -, accepted⟩ := bind_eq_ok.mp accepted
  have bound : 1 ≤ rowLimit := Int.not_lt.mp (of_decide_eq_false (refuseIf_ok admits))
  dsimp only at accepted
  split at accepted
  · cases accepted
  · cases accepted
  · rename_i statement single
    obtain ⟨_, passed, accepted⟩ := bind_eq_ok.mp accepted
    obtain ⟨bounded, limited, same⟩ := bind_eq_ok.mp accepted
    obtain rfl := Except.ok.inj same
    exact ⟨bound, statement, single, passed, limited⟩

/-- In an accepted text no semicolon is in a quoted name. -/
theorem no_inner_separator (fit : AllFit segments)
    (single : splitStatements (segments.flatMap inspected) = [statement]) :
    ∀ segment ∈ segments, separates segment = false → ';' ∉ inspected segment := by
  intro segment member isOther inside
  obtain ⟨before, after, rfl⟩ := List.append_of_mem member
  have fits := fit.fits_of_suffix (List.suffix_append before (segment :: after))
  cases segment with
  | code char =>
      have same : ';' = char := List.mem_singleton.mp inside
      rw [← same] at isOther
      cases isOther
  | lineComment body stop =>
      rcases @mem_withoutLine body stop _ inside with same | same
      · cases same
      · cases same
  | blockComment body => cases List.mem_singleton.mp inside
  | quoted mark body =>
      rcases mark_cases (fits_quoted.mp fits).1 with rfl | rfl
      · have absent : ';' ∉ ['\'', '\''] := by decide
        exact absent inside
      · have within : ';' ∈ body := by simpa [inspected, withoutComment, withoutLine,
          Segment.text] using inside
        obtain ⟨first, last, rfl⟩ := List.append_of_mem within
        have whole : (before ++ .quoted '"' (first ++ ';' :: last) :: after).flatMap inspected =
            (before.flatMap inspected ++ '"' :: first) ++
              ';' :: (last ++ '"' :: after.flatMap inspected) := by
          simp [inspected, withoutComment, withoutLine, Segment.text]
        rw [whole, splitStatements_append] at single
        have earlier : splitStatements (before.flatMap inspected ++ '"' :: first) ≠ [] :=
          splitStatements_ne_nil (List.mem_append_right _ List.mem_cons_self)
            (by decide) (by decide)
        have later : splitStatements (last ++ '"' :: after.flatMap inspected) ≠ [] :=
          splitStatements_ne_nil (List.mem_append_right _ List.mem_cons_self)
            (by decide) (by decide)
        have size := congrArg List.length single
        have earlierSize := List.length_pos_iff.mpr earlier
        have laterSize := List.length_pos_iff.mpr later
        simp only [List.length_append, List.length_singleton] at size
        omega

theorem ordinary_of_plain (fit : AllFit segments)
    (plain : ∀ segment ∈ segments, IsPlainSegment segment) :
    ∀ segment ∈ segments, IsOrdinary segment := by
  intro segment member
  refine ⟨plain segment member, fun mark body isQuoted => ?_⟩
  obtain ⟨before, after, rfl⟩ := List.append_of_mem member
  have fits := fit.fits_of_suffix (List.suffix_append before (segment :: after))
  rw [isQuoted] at fits
  exact (fits_quoted.mp fits).1

theorem forbidden_found : ∀ keyword ∈ forbiddenKeywords ++ forbiddenFunctions,
    (keyword.toList.head?.any isPlainWordStart && keyword.toList.all isPlainWordCharacter) =
      true := by
  decide +kernel

/-- No word that PostgreSQL reads in a screened text is forbidden. -/
theorem words_allowed {word : List Char} (ordinary : ∀ segment ∈ segments, IsOrdinary segment)
    (absent : ∀ word ∈ wordPattern.findall (lowerText (trim (segments.flatMap inspected))),
      String.ofList word ∉ forbiddenKeywords ++ forbiddenFunctions)
    (member : Token.word word ∈ tokens segments) :
    String.ofList (fold word) ∉ forbiddenKeywords ++ forbiddenFunctions := by
  intro forbidden
  obtain ⟨starts, plain⟩ := (Bool.and_eq_true _ _).mp (forbidden_found _ forbidden)
  rw [String.toList_ofList] at starts plain
  cases same : fold word with
  | nil =>
      rw [same] at starts
      cases starts
  | cons first rest =>
      rw [same] at starts plain
      have each := List.all_eq_true.mp plain
      have found := word_found ordinary member same starts fun char among =>
        each char (List.mem_cons_of_mem first among)
      exact absent _ found forbidden

/-- The read that a screened text begins with is the first word that PostgreSQL reads. -/
theorem begins_read {start : String} (ordinary : ∀ segment ∈ segments, IsOrdinary segment)
    (among : start ∈ readOnlyPrefixes)
    (begins : start.toList <+: lowerText (trim (segments.flatMap inspected))) :
    ∃ word rest, tokens segments = .word word :: rest ∧ start.toList <+: fold word := by
  have isPrefix : start.toList <+:
      lowerText ((segments.flatMap inspected).dropWhile isWhitespace) := by
    obtain ⟨rest, same⟩ := List.rdropWhile_prefix isWhitespace
      ((segments.flatMap inspected).dropWhile isWhitespace)
    rw [← same, lowerText_append]
    exact begins.trans (List.prefix_append _ _)
  have asciiOnly : IsAsciiOnly start.toList := by
    rcases List.mem_pair.mp among with rfl | rfl <;> simp [IsAsciiOnly]
  cases letters : start.toList with
  | nil => rcases List.mem_pair.mp among with rfl | rfl <;> cases letters
  | cons letter more =>
      rw [letters] at isPrefix asciiOnly
      exact first_word ordinary asciiOnly isPrefix

end Screen

/-! ## A query with forbidden words where they do nothing -/

/-- Characters beyond ASCII are no part of a word. -/
def asciiTables : CharacterTables where
  isAlnum := Char.isAlphanum
  decimal char := if char.isDigit then some (char.toNat - '0'.toNat) else none
  isAlnum_ascii _ _ := rfl
  decimal_ascii _ _ := rfl

/-- A query with a forbidden word in a literal, and another in a comment. -/
def commentedQuery : String := "SELECT 'drop' FROM acme.t -- update"

def commentedSegments : List Segment :=
  "SELECT ".toList.map .code ++ .quoted '\'' "drop".toList :: " FROM acme.t ".toList.map .code ++
    [.lineComment " update".toList []]

theorem scan_commentedQuery : scan (trim commentedQuery.toList) = some commentedSegments := by
  decide +kernel

/-- The query is accepted. -/
theorem parseAnalyticalQuery_commentedQuery :
    parseAnalyticalQuery asciiTables commentedQuery "acme" = .ok
      { sql := commentedQuery ++ " LIMIT 1000", schema := "acme", rowLimit := 1000 } := by
  decide +kernel

end ResearchPlatform
