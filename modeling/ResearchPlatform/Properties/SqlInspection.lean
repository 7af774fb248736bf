import ResearchPlatform.Foundation.SqlText
import ResearchPlatform.Mcp.SqlBoundary
import ResearchPlatform.Properties.SanitizedResults

/-!
# What the SQL screen looks at

In a plain text, where nothing that is quoted or a comment holds a mark of another kind,
the screen looks at the code of the text and at its quoted names.
-/

namespace ResearchPlatform

open Foundation Foundation.SqlText

/-! ## Plain texts -/

/-- Nothing in the segment misleads the screen.  Without dollars in its code and backslashes
in its quotes, no text is quoted in another way either. -/
def IsPlainSegment : Segment → Prop
  | .code char => char ≠ '$' ∧ (isWhitespace char = true → isSpace char = true)
  | .quoted mark body =>
      (¬ ['-', '-'] <:+: body ∧ ¬ ['/', '*'] <:+: body) ∧ '\\' ∉ body ∧
        (mark = '"' → '\'' ∉ body)
  | .lineComment _ stop => stop ≠ ['\r']
  | .blockComment body => ¬ ['-', '-'] <:+: body ∧ ¬ ['/', '*'] <:+: body

instance decidableIsPlainSegment (segment : Segment) : Decidable (IsPlainSegment segment) := by
  cases segment <;> unfold IsPlainSegment <;> infer_instance

/-- What is left of a segment without line comments. -/
def withoutLine : Segment → List Char
  | .lineComment _ stop => ' ' :: (if stop = [] then [] else ['\n'])
  | other => other.text

/-- What is left of a segment without comments. -/
def withoutComment : Segment → List Char
  | .blockComment _ => [' ']
  | other => withoutLine other

/-- What the screen looks at in a segment. -/
def inspected : Segment → List Char
  | .quoted '\'' _ => ['\'', '\'']
  | other => withoutComment other

/-! ### Where two letters meet -/

section Pairs

variable {text head body : List Char} {first second mark : Char}

/-- Two letters meet in one of two parts of a text, if neither is the letter between. -/
theorem pair_absent (isFirst : mark ≠ first) (isSecond : mark ≠ second)
    (absentBefore : ¬ [first, second] <:+: head) (absentAfter : ¬ [first, second] <:+: text) :
    ¬ [first, second] <:+: head ++ mark :: text := by
  intro isPart
  have apart : mark ∉ [first, second] := by simp [isFirst, isSecond]
  rcases infix_beside apart isPart with early | late
  · exact absentBefore early
  · exact absentAfter late

theorem pair_absent_short (short : text.length ≤ 1) : ¬ [first, second] <:+: text := by
  intro isPart
  have size := isPart.length_le
  simp only [List.length_cons, List.length_nil] at size
  omega

theorem pair_absent_cons (isFirst : mark ≠ first) (absent : ¬ [first, second] <:+: text) :
    ¬ [first, second] <:+: mark :: text := by
  intro isPart
  rcases List.infix_cons_iff.mp isPart with begins | inside
  · exact isFirst (List.cons_prefix_cons.mp begins).1.symm
  · exact absent inside

/-- Two letters do not meet between marks. -/
theorem pair_absent_between (isFirst : mark ≠ first) (isSecond : mark ≠ second)
    (absent : ¬ [first, second] <:+: body) :
    ¬ [first, second] <:+: mark :: (body ++ [mark]) ++ text.take 1 := by
  have short : (text.take 1).length ≤ 1 := by simp
  have inner : ¬ [first, second] <:+: body ++ mark :: text.take 1 :=
    pair_absent isFirst isSecond absent (pair_absent_short short)
  have outer := @pair_absent (body ++ mark :: text.take 1) [] first second mark isFirst isSecond
    (pair_absent_short (by simp)) inner
  simpa using outer

theorem pair_absent_single (apart : ¬ (mark = first ∧ text.head? = some second)) :
    ¬ [first, second] <:+: [mark] ++ text.take 1 := by
  intro isPart
  cases text with
  | nil => exact pair_absent_short (by simp) isPart
  | cons next rest =>
      have same := isPart.eq_of_length (by simp)
      obtain ⟨rfl, tail⟩ := List.cons.inj same
      obtain ⟨rfl, -⟩ := List.cons.inj tail
      exact apart ⟨rfl, rfl⟩

end Pairs

/-! ### The passes -/

section Passes

open Regex

variable {segments : List Segment} {segment : Segment} {later rest : List Segment}

theorem mark_cases {mark : Char} (isMark : isQuote mark = true) : mark = '\'' ∨ mark = '"' := by
  simpa [isQuote] using isMark

/-- A pass that begins with two letters changes nothing where they do not meet. -/
theorem replaced_quiet_pair {first second : Char} {regex : Regex} {before head text : List Char}
    (absent : ¬ [first, second] <:+: head ++ text.take 1) :
    replaced [' '] ((seq (oneOf [first]) (seq (oneOf [second]) regex)).pieces 0 before
        (head ++ text)) =
      head ++ replaced [' '] ((seq (oneOf [first]) (seq (oneOf [second]) regex)).pieces 0
        (head.reverse ++ before) text) := by
  rw [pieces_quiet_pair absent, replaced_quiet]

/-- A line comment is replaced up to the end of its line. -/
theorem replaced_lineComment {before body text : List Char} (free : ∀ char ∈ body, char ≠ '\n')
    (ends : ∀ char ∈ text.head?, char = '\n') :
    replaced [' '] (lineCommentPattern.pieces 0 before (('-' :: '-' :: body) ++ text)) =
      ' ' :: replaced [' ']
        (lineCommentPattern.pieces 0 (('-' :: '-' :: body).reverse ++ before) text) := by
  have solid : ∀ char ∈ body, decide (char ∉ ['\n']) = true := by simpa using free
  have stops : text.takeWhile (fun char => decide (char ∉ ['\n'])) = [] := by
    cases text with
    | nil => rfl
    | cons first rest =>
        obtain rfl := ends first rfl
        rfl
  have remains : text.dropWhile (fun char => decide (char ∉ ['\n'])) = text := by
    have whole := List.takeWhile_append_dropWhile (p := fun char => decide (char ∉ ['\n']))
      (l := text)
    rwa [stops, List.nil_append] at whole
  have found : (lineCommentPattern.ends ⟨before, ('-' :: '-' :: body) ++ text, []⟩).head? =
      some ⟨body.reverse ++ '-' :: '-' :: before, text, []⟩ := by
    change ((seq (oneOf ['-']) (seq (oneOf ['-']) (star (noneOf ['\n'])))).ends _).head? = _
    rw [List.cons_append, List.cons_append, ends_pair, noneOf, head_ends_star,
      List.takeWhile_append_of_pos solid, List.dropWhile_append_of_pos solid, stops, remains,
      List.append_nil]
  rw [pieces_matched (List.cons_ne_nil _ _) found rfl, replaced_matched]
  rfl

/-- The end of the line stays. -/
theorem replaced_lineComment_feed {before body text : List Char}
    (free : ∀ char ∈ body, char ≠ '\n') :
    replaced [' '] (lineCommentPattern.pieces 0 before
        (('-' :: '-' :: (body ++ ['\n'])) ++ text)) =
      ' ' :: '\n' :: replaced [' '] (lineCommentPattern.pieces 0
        (('-' :: '-' :: (body ++ ['\n'])).reverse ++ before) text) := by
  have comment := @replaced_lineComment before body ('\n' :: text) free (by simp)
  have feed : replaced [' '] (lineCommentPattern.pieces 0
        (('-' :: '-' :: body).reverse ++ before) (['\n'] ++ text)) = _ :=
    replaced_quiet_pair (pair_absent_single (by simp))
  rw [List.singleton_append] at feed
  have parts : ('-' :: '-' :: (body ++ ['\n'])) ++ text =
      ('-' :: '-' :: body) ++ '\n' :: text := by simp
  rw [parts, comment, feed]
  simp only [List.reverse_cons, List.reverse_append, List.append_assoc, List.reverse_nil,
    List.nil_append, List.cons_append]
  rfl

/-- Line comments are removed. -/
theorem lineCommentPattern_sub (fit : AllFit segments)
    (plain : ∀ segment ∈ segments, IsPlainSegment segment) :
    lineCommentPattern.sub [' '] (textOf segments) = segments.flatMap withoutLine := by
  rw [sub_eq]
  apply replaced_flatMap
  intro segment rest isPart before
  have fits := fit.fits_of_suffix isPart
  have isPlain := plain segment (isPart.subset List.mem_cons_self)
  change replaced [' '] ((seq (oneOf ['-']) (seq (oneOf ['-']) _)).pieces 0 before
    (segment.text ++ textOf rest)) = _
  cases segment with
  | code char => exact replaced_quiet_pair (pair_absent_single (fits_code.mp fits).2.1)
  | quoted mark body =>
      have isMark := mark_cases (fits_quoted.mp fits).1
      apply replaced_quiet_pair
      rcases isMark with rfl | rfl
      · exact pair_absent_between (by decide) (by decide) isPlain.1.1
      · exact pair_absent_between (by decide) (by decide) isPlain.1.1
  | blockComment body =>
      apply replaced_quiet_pair
      have ending : ¬ ['-', '-'] <:+: '/' :: (textOf rest).take 1 :=
        pair_absent_cons (by decide) (pair_absent_short (by simp))
      have inner : ¬ ['-', '-'] <:+: body ++ '*' :: '/' :: (textOf rest).take 1 :=
        pair_absent (by decide) (by decide) isPlain.1 ending
      have outer : ¬ ['-', '-'] <:+:
          '/' :: '*' :: (body ++ '*' :: '/' :: (textOf rest).take 1) :=
        pair_absent_cons (by decide) (pair_absent_cons (by decide) inner)
      simpa [Segment.text] using outer
  | lineComment body stop =>
      obtain ⟨free, kinds⟩ := fits_lineComment.mp fits
      have noFeed : ∀ char ∈ body, char ≠ '\n' := by
        intro char member isFeed
        have solid := free char member
        rw [isFeed] at solid
        cases solid
      rcases kinds with ⟨rfl, isLast⟩ | rfl | rfl | ⟨rfl, -⟩
      · have comment := @replaced_lineComment before body [] noFeed (by simp)
        have isDone : rest.flatMap Segment.text = [] := isLast
        rw [isLast, isDone, Segment.text, List.append_nil]
        exact comment
      · exact replaced_lineComment_feed noFeed
      · have alsoFree : ∀ char ∈ body ++ ['\r'], char ≠ '\n' := by
          intro char member
          rcases List.mem_append.mp member with early | late
          · exact noFeed char early
          · rw [List.mem_singleton.mp late]
            decide
        have comment := @replaced_lineComment_feed before (body ++ ['\r'])
          (rest.flatMap Segment.text) alsoFree
        rw [List.append_assoc] at comment
        exact comment
      · exact absurd rfl isPlain

/-- What is left of a text begins as it did, or with a blank. -/
theorem head_of_left {out : Segment → List Char} {char : Char}
    (each : ∀ segment, (out segment).head? = some ' ' ∨ (out segment).head? = segment.text.head?)
    (solid : char ≠ ' ') (begins : (segments.flatMap out).head? = some char) :
    (textOf segments).head? = some char := by
  cases segments with
  | nil => cases begins
  | cons segment rest =>
      rw [textOf_cons, List.head?_append]
      rw [List.flatMap_cons, List.head?_append] at begins
      rcases each segment with blank | same
      · rw [blank] at begins
        exact absurd (Option.some.inj begins).symm solid
      · obtain ⟨first, more, text⟩ := List.exists_cons_of_ne_nil segment.text_ne_nil
        rw [same, text] at begins
        rw [text]
        exact begins

theorem head_withoutLine (segment : Segment) :
    (withoutLine segment).head? = some ' ' ∨ (withoutLine segment).head? = segment.text.head? := by
  cases segment with
  | lineComment body stop => exact Or.inl rfl
  | code char => exact Or.inr rfl
  | quoted mark body => exact Or.inr rfl
  | blockComment body => exact Or.inr rfl

theorem head_withoutComment (segment : Segment) :
    (withoutComment segment).head? = some ' ' ∨
      (withoutComment segment).head? = segment.text.head? := by
  cases segment with
  | blockComment body => exact Or.inl rfl
  | lineComment body stop => exact Or.inl rfl
  | code char => exact Or.inr rfl
  | quoted mark body => exact Or.inr rfl

theorem withoutLine_lineComment {body stop : List Char} :
    withoutLine (.lineComment body stop) = [' '] ∨
      withoutLine (.lineComment body stop) = [' ', '\n'] := by
  by_cases isLast : stop = []
  · exact Or.inl (by rw [withoutLine, if_pos isLast])
  · exact Or.inr (by rw [withoutLine, if_neg isLast])

theorem mem_withoutLine {body stop : List Char} {char : Char}
    (member : char ∈ withoutLine (.lineComment body stop)) : char = ' ' ∨ char = '\n' := by
  rcases @withoutLine_lineComment body stop with kept | kept
  · rw [kept] at member
    exact Or.inl (List.mem_singleton.mp member)
  · rw [kept] at member
    exact List.mem_pair.mp member

/-- A comment between marks is replaced, where it ends as soon as it can. -/
theorem replaced_blockComment {before body text : List Char}
    (flat : ¬ ['*', '/'] <:+: body ++ ['*']) :
    replaced [' '] (blockCommentPattern.pieces 0 before
        (('/' :: '*' :: (body ++ ['*', '/'])) ++ text)) =
      ' ' :: replaced [' '] (blockCommentPattern.pieces 0
        (('/' :: '*' :: (body ++ ['*', '/'])).reverse ++ before) text) := by
  have none (left right : List Char) (whole : body = left ++ right) (some : right ≠ [])
      (place : List Char) :
      (seq (oneOf ['*']) (oneOf ['/'])).ends ⟨place, right ++ '*' :: '/' :: text, []⟩ = [] := by
    apply ends_last_pair_of_not
    intro begins
    have within : ['*', '/'] <+: right ++ ['*'] := by
      cases right with
      | nil => exact absurd rfl some
      | cons first right =>
          obtain ⟨rfl, further⟩ := List.cons_prefix_cons.mp begins
          apply List.cons_prefix_cons.mpr ⟨rfl, _⟩
          cases right with
          | nil => exact absurd (List.cons_prefix_cons.mp further).1 (by decide)
          | cons second right => simpa using further
    apply flat
    rw [whole, List.append_assoc]
    exact within.isInfix.trans (List.suffix_append left _).isInfix
  have found : (blockCommentPattern.ends
      ⟨before, ('/' :: '*' :: (body ++ ['*', '/'])) ++ text, []⟩).head? =
      some ⟨'/' :: '*' :: (body.reverse ++ '*' :: '/' :: before), text, []⟩ := by
    change ((seq (oneOf ['/']) (seq (oneOf ['*']) (seq _ (seq _ _)))).ends _).head? = _
    rw [List.cons_append, List.cons_append, ends_pair, List.append_assoc]
    apply head_ends_lazy none
    exact congrArg List.head? ends_last_pair
  rw [pieces_matched (List.cons_ne_nil _ _) found rfl, replaced_matched]
  rfl

/-- Comments between marks are removed. -/
theorem blockCommentPattern_sub (fit : AllFit segments)
    (plain : ∀ segment ∈ segments, IsPlainSegment segment) :
    blockCommentPattern.sub [' '] (segments.flatMap withoutLine) =
      segments.flatMap withoutComment := by
  rw [sub_eq]
  apply replaced_flatMap
  intro segment rest isPart before
  have fits := fit.fits_of_suffix isPart
  have isPlain := plain segment (isPart.subset List.mem_cons_self)
  change replaced [' '] ((seq (oneOf ['/']) (seq (oneOf ['*']) _)).pieces 0 before _) = _
  cases segment with
  | code char =>
      apply replaced_quiet_pair (pair_absent_single _)
      intro begins
      exact (fits_code.mp fits).2.2
        ⟨begins.1, head_of_left head_withoutLine (by decide) begins.2⟩
  | quoted mark body =>
      have isMark := mark_cases (fits_quoted.mp fits).1
      apply replaced_quiet_pair
      rcases isMark with rfl | rfl
      · exact pair_absent_between (by decide) (by decide) isPlain.1.2
      · exact pair_absent_between (by decide) (by decide) isPlain.1.2
  | lineComment body stop =>
      apply replaced_quiet_pair
      rcases @withoutLine_lineComment body stop with kept | kept
      · rw [kept]
        exact pair_absent_cons (by decide) (pair_absent_short (by simp))
      · rw [kept]
        exact pair_absent_cons (by decide) (pair_absent_cons (by decide)
          (pair_absent_short (by simp)))
  | blockComment body =>
      exact replaced_blockComment (readBlock_flat (fits_blockComment.mp fits) isPlain.2)

/-- The inside of a text between single quotes. -/
def literalBody : Regex :=
  alt (noneOf ['\'']) (seq (oneOf ['\'']) (oneOf ['\'']))

/-- A round reads a character, or two quotes. -/
theorem ends_literalBody {before text : List Char} {char : Char} (differs : char ≠ '\'') :
    literalBody.ends ⟨before, char :: text, []⟩ = [⟨char :: before, text, []⟩] := by
  change (noneOf ['\'']).ends _ ++ (seq (oneOf ['\'']) _).ends _ = _
  rw [ends_oneOf_seq_of_ne (by simpa using differs)]
  simp [ends, noneOf, differs]

theorem ends_literalBody_doubled {before text : List Char} :
    literalBody.ends ⟨before, '\'' :: '\'' :: text, []⟩ =
      [⟨'\'' :: '\'' :: before, text, []⟩] := by
  change (noneOf ['\'']).ends _ ++ (seq (oneOf ['\'']) _).ends _ = _
  rw [ends_last_pair]
  rfl

theorem ends_literalBody_closed {before text : List Char} (closed : text.head? ≠ some '\'') :
    literalBody.ends ⟨before, '\'' :: text, []⟩ = [] := by
  have single : ¬ ['\'', '\''] <+: '\'' :: text := by
    intro begins
    obtain ⟨rest, rfl⟩ := (List.cons_prefix_cons.mp begins).2
    exact closed rfl
  change (noneOf ['\'']).ends _ ++ (seq (oneOf ['\'']) _).ends _ = _
  rw [ends_last_pair_of_not single]
  rfl

/-- The inside is read up to the quote that is not doubled. -/
theorem head_iterate_literalBody {before body text : List Char} {rounds : Nat}
    (doubled : isDoubled '\'' body = true) (closed : text.head? ≠ some '\'')
    (enough : body.length ≤ rounds) :
    (iterate true literalBody.ends rounds ⟨before, body ++ '\'' :: text, []⟩).head? =
      some ⟨body.reverse ++ before, '\'' :: text, []⟩ := by
  fun_induction isDoubled '\'' body generalizing before rounds with
  | case1 =>
      rw [List.nil_append, iterate_stops (ends_literalBody_closed closed)]
      rfl
  | case2 char rest differs inductionHypothesis =>
      cases rounds with
      | zero => cases enough
      | succ rounds =>
          rw [List.cons_append, head_iterate_greedy (ends_literalBody differs),
            inductionHypothesis doubled (Nat.le_of_succ_le_succ enough)]
          simp
  | case3 => cases doubled
  | case4 char same next rest inductionHypothesis =>
      obtain rfl : char = '\'' := not_not.mp same
      obtain ⟨isMark, doubled⟩ := (Bool.and_eq_true _ _).mp doubled
      obtain rfl : next = '\'' := of_decide_eq_true isMark
      cases rounds with
      | zero => cases enough
      | succ rounds =>
          simp only [List.length_cons] at enough
          rw [List.cons_append, List.cons_append, head_iterate_greedy ends_literalBody_doubled,
            inductionHypothesis doubled (by omega)]
          simp

/-- A text between single quotes is replaced by an empty one. -/
theorem replaced_literal {before body text : List Char} (doubled : isDoubled '\'' body = true)
    (closed : text.head? ≠ some '\'') :
    replaced ['\'', '\''] (stringLiteralPattern.pieces 0 before
        (('\'' :: (body ++ ['\''])) ++ text)) =
      '\'' :: '\'' :: replaced ['\'', '\''] (stringLiteralPattern.pieces 0
        (('\'' :: (body ++ ['\''])).reverse ++ before) text) := by
  have found : (stringLiteralPattern.ends
      ⟨before, ('\'' :: (body ++ ['\''])) ++ text, []⟩).head? =
      some ⟨'\'' :: (body.reverse ++ '\'' :: before), text, []⟩ := by
    change ((seq (oneOf ['\'']) (seq (star literalBody) (oneOf ['\'']))).ends _).head? = _
    rw [List.cons_append, ends_oneOf_seq, ends_seq, List.append_assoc]
    apply head_flatMap (head_iterate_literalBody doubled closed _)
    · rfl
    · simp
  rw [pieces_matched (List.cons_ne_nil _ _) found rfl, replaced_matched]
  rfl

/-- A text without a single quote stays. -/
theorem replaced_noLiteral {before head text : List Char} (absent : '\'' ∉ head) :
    replaced ['\'', '\''] (stringLiteralPattern.pieces 0 before (head ++ text)) =
      head ++ replaced ['\'', '\'']
        (stringLiteralPattern.pieces 0 (head.reverse ++ before) text) := by
  change replaced _ ((seq (oneOf ['\'']) _).pieces 0 before _) = _
  rw [pieces_quiet_letter absent, replaced_quiet]
  rfl

/-- Texts between single quotes are emptied. -/
theorem stringLiteralPattern_sub (fit : AllFit segments)
    (plain : ∀ segment ∈ segments, IsPlainSegment segment) :
    stringLiteralPattern.sub ['\'', '\''] (segments.flatMap withoutComment) =
      segments.flatMap inspected := by
  rw [sub_eq]
  apply replaced_flatMap
  intro segment rest isPart before
  have fits := fit.fits_of_suffix isPart
  have isPlain := plain segment (isPart.subset List.mem_cons_self)
  cases segment with
  | code char =>
      apply replaced_noLiteral
      intro member
      obtain rfl := List.mem_singleton.mp member
      cases (fits_code.mp fits).1
  | quoted mark body =>
      obtain ⟨isMark, doubled, closed⟩ := fits_quoted.mp fits
      rcases mark_cases isMark with rfl | rfl
      · exact replaced_literal doubled fun begins =>
          closed (head_of_left head_withoutComment (by decide) begins)
      · apply replaced_noLiteral
        change '\'' ∉ '"' :: (body ++ ['"'])
        simpa using isPlain.2.2 rfl
  | lineComment body stop =>
      apply replaced_noLiteral
      intro member
      rcases @mem_withoutLine body stop _ member with same | same
      · cases same
      · cases same
  | blockComment body =>
      apply replaced_noLiteral
      change '\'' ∉ [' ']
      decide

/-- What the screen looks at in a plain text. -/
theorem stripCommentsAndLiterals_eq (fit : AllFit segments)
    (plain : ∀ segment ∈ segments, IsPlainSegment segment) :
    stripCommentsAndLiterals (textOf segments) = segments.flatMap inspected := by
  unfold stripCommentsAndLiterals
  rw [lineCommentPattern_sub fit plain, blockCommentPattern_sub fit plain,
    stringLiteralPattern_sub fit plain]

end Passes

end ResearchPlatform
